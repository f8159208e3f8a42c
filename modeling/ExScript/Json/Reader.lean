import ExScript.Json
import ExScript.Text.Decimal

set_option autoImplicit false

namespace ExScript.Json

-- The reader is strict: no trailing commas, no leading zeros, no raw control characters in strings.
structure Read (α : Type) (s : List Char) where
  value : α
  rest : List Char
  shorter : rest.length < s.length

def isSpace (c : Char) : Bool := c == ' ' || c == '\n' || c == '\r' || c == '\t'

def skipSpace (s : List Char) : List Char := s.dropWhile isSpace

theorem length_skip_space_le (s : List Char) : (skipSpace s).length ≤ s.length := by
  induction s with
  | nil => simp [skipSpace]
  | cons c rest ih =>
      unfold skipSpace at ih ⊢
      rw [List.dropWhile_cons]
      split
      · simp
        omega
      · simp

theorem rest_shorter {s rest : List Char} {c : Char} (left : skipSpace s = c :: rest) :
    rest.length < s.length := by
  have bound := length_skip_space_le s
  rw [left] at bound
  exact bound

def hexDigit? (c : Char) : Option Nat :=
  if '0' ≤ c && c ≤ '9' then some (c.toNat - '0'.toNat)
  else if 'a' ≤ c && c ≤ 'f' then some (c.toNat - 'a'.toNat + 10)
  else if 'A' ≤ c && c ≤ 'F' then some (c.toNat - 'A'.toNat + 10)
  else none

def simpleEscape? : Char → Option Char
  | '"' => some '"'
  | '\\' => some '\\'
  | '/' => some '/'
  | 'b' => some '\x08'
  | 'f' => some '\x0c'
  | 'n' => some '\n'
  | 'r' => some '\r'
  | 't' => some '\t'
  | _ => none

-- The code units of a string after its opening quote: a surrogate only where an escape names one.
def readUnits : (s : List Char) → Option (Read (List Nat) s)
  | [] => none
  | '"' :: rest => some ⟨[], rest, by simp⟩
  | '\\' :: 'u' :: a :: b :: c :: d :: rest => do
      let a ← hexDigit? a
      let b ← hexDigit? b
      let c ← hexDigit? c
      let d ← hexDigit? d
      let more ← readUnits rest
      return ⟨(((a * 16 + b) * 16 + c) * 16 + d) :: more.value, more.rest, by
        have := more.shorter; simp; omega⟩
  | '\\' :: c :: rest => do
      let c ← simpleEscape? c
      let more ← readUnits rest
      return ⟨c.toNat :: more.value, more.rest, by have := more.shorter; simp; omega⟩
  | c :: rest =>
      if c.toNat < 0x20 || c == '\\' then none
      else do
        let more ← readUnits rest
        return ⟨c.toNat :: more.value, more.rest, by have := more.shorter; simp; omega⟩

def textOfUnits : List Nat → Option (List Char)
  | [] => some []
  | high :: rest =>
      if 0xD800 ≤ high && high < 0xDC00 then
        match rest with
        | low :: rest =>
            if 0xDC00 ≤ low && low < 0xE000 then
              (textOfUnits rest).map
                (Char.ofNat (0x10000 + (high - 0xD800) * 0x400 + (low - 0xDC00)) :: ·)
            else none
        | [] => none
      else if 0xDC00 ≤ high && high < 0xE000 then none
      else (textOfUnits rest).map (Char.ofNat high :: ·)

def readString (s : List Char) : Option (Read (Option String) s) := do
  let units ← readUnits s
  return ⟨(textOfUnits units.value).map String.ofList, units.rest, units.shorter⟩

def readDigits (s : List Char) : Option (Read (List Char) s) :=
  if h : (s.dropWhile isDecimalDigit).length < s.length then
    some ⟨s.takeWhile isDecimalDigit, s.dropWhile isDecimalDigit, h⟩
  else none

def readFraction (s : List Char) : Option { rest : List Char // rest.length ≤ s.length } :=
  match s with
  | '.' :: t => do
      let digits ← readDigits t
      return ⟨digits.rest, by have := digits.shorter; simp; omega⟩
  | s => some ⟨s, by simp⟩

def dropSign : List Char → List Char
  | '+' :: t => t
  | '-' :: t => t
  | t => t

theorem length_drop_sign_le (s : List Char) : (dropSign s).length ≤ s.length := by
  unfold dropSign
  split <;> simp

def readExponent : (s : List Char) → Option { rest : List Char // rest.length ≤ s.length }
  | [] => some ⟨[], Nat.le_refl _⟩
  | c :: t =>
      if c == 'e' || c == 'E' then do
        let digits ← readDigits (dropSign t)
        return ⟨digits.rest, Nat.le_succ_of_le (Nat.le_trans (Nat.le_of_lt digits.shorter)
          (length_drop_sign_le t))⟩
      else some ⟨c :: t, Nat.le_refl _⟩

def readMagnitude (negative : Bool) (s : List Char) : Option (Read Json s) := do
  let whole ← readDigits s
  if whole.value.length ≠ 1 && whole.value.head? == some '0' then none
  else
    let fraction ← readFraction whole.rest
    let exponent ← readExponent fraction.val
    let value := decimalValue whole.value
    let shown := s.take (s.length - exponent.val.length)
    let number :=
      if exponent.val.length < whole.rest.length || (negative && value == 0) then
        real (String.ofList (if negative then '-' :: shown else shown))
      else int (if negative then -value else value)
    return ⟨number, exponent.val, by
      have := whole.shorter
      have := fraction.property
      have := exponent.property
      omega⟩

def readNumber : (s : List Char) → Option (Read Json s)
  | '-' :: s => do
      let number ← readMagnitude true s
      return ⟨number.value, number.rest, by have := number.shorter; simp; omega⟩
  | s => readMagnitude false s

def ofMembers (members : List (Option String × Json)) : Json :=
  match members.mapM fun (key, value) => key.map (·, value) with
  | some members => obj members
  | none => unpaired

mutual

def readValue (s : List Char) : Option (Read Json s) :=
  match h : skipSpace s with
  | [] => none
  | 'n' :: 'u' :: 'l' :: 'l' :: rest => some ⟨null, rest, by
      have := length_skip_space_le s; simp [h] at this; omega⟩
  | 't' :: 'r' :: 'u' :: 'e' :: rest => some ⟨bool true, rest, by
      have := length_skip_space_le s; simp [h] at this; omega⟩
  | 'f' :: 'a' :: 'l' :: 's' :: 'e' :: rest => some ⟨bool false, rest, by
      have := length_skip_space_le s; simp [h] at this; omega⟩
  | '"' :: rest => do
      let text ← readString rest
      return ⟨(text.value.map str).getD unpaired, text.rest, by
        have := length_skip_space_le s; have := text.shorter; simp_all; omega⟩
  | '[' :: rest =>
      match h' : skipSpace rest with
      | ']' :: rest' => some ⟨arr [], rest', by
          have := length_skip_space_le s; have := length_skip_space_le rest; simp_all; omega⟩
      | _ => do
          let items ← readItems rest
          return ⟨arr items.value, items.rest, by
            have := length_skip_space_le s; have := items.shorter; simp_all; omega⟩
  | '\x7b' :: rest =>
      match h' : skipSpace rest with
      | '\x7d' :: rest' => some ⟨obj [], rest', by
          have := length_skip_space_le s; have := length_skip_space_le rest; simp_all; omega⟩
      | _ => do
          let members ← readMembers rest
          return ⟨ofMembers members.value, members.rest, by
            have := length_skip_space_le s; have := members.shorter; simp_all; omega⟩
  | c :: rest => do
      let number ← readNumber (c :: rest)
      return ⟨number.value, number.rest, by
        have := length_skip_space_le s; have := number.shorter; simp_all; omega⟩
termination_by (s.length, 0)
decreasing_by
  · exact Prod.Lex.left _ _ (rest_shorter h)
  · exact Prod.Lex.left _ _ (rest_shorter h)

def readItems (s : List Char) : Option (Read (List Json) s) := do
  let item ← readValue s
  match h : skipSpace item.rest with
  | ']' :: rest => some ⟨[item.value], rest, by
      have := item.shorter; have := length_skip_space_le item.rest; simp_all; omega⟩
  | ',' :: rest => do
      have inside : rest.length < s.length := by
        have := item.shorter; have := length_skip_space_le item.rest; simp_all; omega
      let more ← readItems rest
      return ⟨item.value :: more.value, more.rest, by have := more.shorter; omega⟩
  | _ => none
termination_by (s.length, 1)
decreasing_by
  · simp [Prod.lex_def]
  · simp [Prod.lex_def, inside]

def readMembers (s : List Char) : Option (Read (List (Option String × Json)) s) :=
  match h : skipSpace s with
  | '"' :: t => do
      let key ← readString t
      match h' : skipSpace key.rest with
      | ':' :: t' => do
          have inside : t'.length < s.length := by
            have := length_skip_space_le s; have := key.shorter; have := length_skip_space_le key.rest
            simp_all; omega
          let value ← readValue t'
          match h'' : skipSpace value.rest with
          | '\x7d' :: rest => some ⟨[(key.value, value.value)], rest, by
              have := value.shorter; have := length_skip_space_le value.rest; simp_all; omega⟩
          | ',' :: rest => do
              have further : rest.length < s.length := by
                have := value.shorter; have := length_skip_space_le value.rest; simp_all; omega
              let more ← readMembers rest
              return ⟨(key.value, value.value) :: more.value, more.rest, by
                have := more.shorter; omega⟩
          | _ => none
      | _ => none
  | _ => none
termination_by (s.length, 1)
decreasing_by
  · simp [Prod.lex_def, inside]
  · simp [Prod.lex_def, further]

end

def parse? (s : List Char) : Option Json := do
  let value ← readValue s
  if (skipSpace value.rest).isEmpty then some value.value else none

end ExScript.Json
