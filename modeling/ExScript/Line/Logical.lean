import ExScript.Position
import ExScript.Text.Blank
import ExScript.Text.Bytes
import ExScript.Text.Lines

set_option autoImplicit false

namespace ExScript

structure Join where
  offset : Nat
  line : Nat
  column : Nat
deriving DecidableEq, Repr

-- A logical line remembers where each of its continuations came from, so that an offset in the joined text has a
-- place in the source.
structure LogicalLine where
  number : Nat
  text : List Char
  -- The continuations, last one first.
  joins : List Join
deriving DecidableEq, Repr

namespace LogicalLine

def start (number : Nat) (text : List Char) : LogicalLine := ⟨number, text, []⟩

def extend (l : LogicalLine) (line column : Nat) (tail : List Char) : LogicalLine :=
  { l with text := l.text ++ tail, joins := ⟨byteLength l.text, line, column⟩ :: l.joins }

-- The place of a byte offset: in the last continuation that begins at or before it, and otherwise in the line's own
-- first part.
def position (l : LogicalLine) (offset : Nat) : Position :=
  match l.joins.find? fun j => decide (j.offset ≤ offset) with
  | some j => ⟨j.line, j.column + (offset - j.offset)⟩
  | none => ⟨l.number, 1 + offset⟩

end LogicalLine

def isContinuationComment (line : List Char) : Bool :=
  match dropBlanks line with
  | '"' :: '\\' :: ' ' :: _ => true
  | _ => false

def continuation? (line : List Char) : Option (Nat × List Char) :=
  match dropBlanks line with
  | '\\' :: tail => some (byteLength (line.takeWhile isBlank) + 2, tail)
  | _ => none

def joinLines : Option LogicalLine → Nat → List (List Char) → List LogicalLine
  | current, _, [] => current.toList
  | current, number, line :: lines =>
      if isContinuationComment line then joinLines current (number + 1) lines
      else
        match current, continuation? line with
        | some l, some (column, tail) => joinLines (some (l.extend number column tail)) (number + 1) lines
        | _, _ => current.toList ++ joinLines (some (.start number line)) (number + 1) lines

def logicalLines (source : List Char) : List LogicalLine := joinLines none 1 (physicalLines source)

end ExScript
