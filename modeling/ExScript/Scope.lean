set_option autoImplicit false

namespace ExScript

inductive Scope where
  | global
  | script
  | argument
  | function
  | buffer
  | window
  | tab
  | vim
deriving DecidableEq, Repr

namespace Scope

def letter : Scope → Char
  | global => 'g'
  | script => 's'
  | argument => 'a'
  | function => 'l'
  | buffer => 'b'
  | window => 'w'
  | tab => 't'
  | vim => 'v'

def ofLetter? : Char → Option Scope
  | 'g' => some global
  | 's' => some script
  | 'a' => some argument
  | 'l' => some function
  | 'b' => some buffer
  | 'w' => some window
  | 't' => some tab
  | 'v' => some vim
  | _ => none

def mark (s : Scope) : String := String.ofList [s.letter, ':']

def isHostOwned : Scope → Bool
  | buffer | window | tab | vim => true
  | _ => false

@[simp]
theorem of_letter?_letter (s : Scope) : ofLetter? s.letter = some s := by cases s <;> rfl

theorem letter_of_of_letter? {c : Char} {s : Scope} (known : ofLetter? c = some s) : c = s.letter := by
  unfold ofLetter? at known
  split at known <;> cases known <;> rfl

end Scope

end ExScript
