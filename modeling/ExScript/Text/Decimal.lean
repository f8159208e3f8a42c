set_option autoImplicit false

namespace ExScript

def isDecimalDigit (c : Char) : Bool := '0' ≤ c && c ≤ '9'

def decimalValue (digits : List Char) : Nat :=
  digits.foldl (fun n c => 10 * n + (c.toNat - '0'.toNat)) 0

def maxNumber : Nat := 9223372036854775807

-- A script number from a natural number; what is too large becomes the largest one.
def saturate (n : Nat) : Int64 := Int64.ofNat (min n maxNumber)

end ExScript
