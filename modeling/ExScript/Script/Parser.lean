import ExScript.Script
import ExScript.Statement.Parser

set_option autoImplicit false

namespace ExScript

def readStrict (lines : List LexedLine) : List (Nat × Statement) × Option ParseError :=
  match lines with
  | [] => ([], none)
  | line :: lines =>
      match _read : (statement nestingLimit).run line lines with
      | .error error _ => ([], some error)
      | .ok s rest =>
          let (more, fault) := readStrict rest
          ((line.number, s) :: more, fault)
termination_by lines.length
decreasing_by
  have := (statement nestingLimit).shrinks line lines
  simp [_read, linesLeft] at this ⊢
  omega

def LexedLine.keyword? (line : LexedLine) : Option Keyword :=
  match line.tokens with
  | .error _ => none
  | .ok tokens =>
      match tokens.find? fun t => match t.kind with | .range _ => false | _ => true with
      | some ⟨.keyword k, _, _⟩ => some k
      | _ => none

def skipFunctions : Nat → List LexedLine → List LexedLine
  | _, [] => []
  | depth, line :: lines =>
      match line.keyword? with
      | some .function => skipFunctions (depth + 1) lines
      | some .endfunction => if depth ≤ 1 then lines else skipFunctions (depth - 1) lines
      | _ => skipFunctions depth lines

/-- The lines from which to go on when the statement that starts on `line` could not be read: a function
declaration is skipped whole, and any other statement ends where its reading `stopped`. -/
def skipStatement (line : LexedLine) (lines stopped : List LexedLine) : List LexedLine :=
  if line.keyword? = some .function then skipFunctions 1 lines else stopped

theorem skip_functions_shrinks (depth : Nat) (lines : List LexedLine) :
    (skipFunctions depth lines).length ≤ lines.length := by
  fun_induction skipFunctions depth lines <;> simp_all <;> omega

theorem skip_statement_shrinks (line : LexedLine) {lines stopped : List LexedLine}
    (fewer : stopped.length ≤ lines.length) :
    (skipStatement line lines stopped).length ≤ lines.length := by
  unfold skipStatement
  split
  · exact skip_functions_shrinks 1 lines
  · exact fewer

def readLenient (lines : List LexedLine) : List (Except ParseError (Nat × Statement)) :=
  match lines with
  | [] => []
  | line :: lines =>
      match _read : (statement nestingLimit).run line lines with
      | .error error stopped => .error error :: readLenient (skipStatement line lines stopped)
      | .ok s rest => .ok (line.number, s) :: readLenient rest
termination_by lines.length
decreasing_by
  all_goals
    have fewer := (statement nestingLimit).shrinks line lines
    simp only [_read, linesLeft] at fewer
  · have := skip_statement_shrinks line fewer
    simp
    omega
  · simp
    omega

namespace Script

def ofNumbered (id : String) (statements : List (Nat × Statement)) : Script :=
  ⟨id, statements.map Prod.snd, statements.map Prod.fst⟩

def parse (id : String) (text : List Char) : Except ParseError Script :=
  match readStrict (lexLines text) with
  | (statements, none) => .ok (ofNumbered id statements)
  | (_, some fault) => .error fault

def parseLenient (id : String) (text : List Char) : Script × List ParseError :=
  let found := readLenient (lexLines text)
  (ofNumbered id (found.filterMap fun
      | .ok numbered => some numbered
      | .error _ => none),
    found.filterMap fun
      | .ok _ => none
      | .error error => some error)

end Script

end ExScript
