import ExScript.Statement

set_option autoImplicit false

namespace ExScript

structure Script where
  id : String
  statements : List Statement
  lines : List Nat
deriving Repr

end ExScript
