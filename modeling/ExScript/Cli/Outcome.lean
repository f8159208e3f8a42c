set_option autoImplicit false

namespace ExScript

structure Outcome where
  exitCode : Nat
  output : List String
  errors : List String
deriving DecidableEq, Repr

namespace Outcome

def text (lines : List String) : String := String.join (lines.map (· ++ "\n"))

def complaint (program reason : String) : String := program ++ " error: " ++ reason

end Outcome

end ExScript
