set_option autoImplicit false

namespace ExScript

/-- A place in the text: lines and columns count from one, columns count UTF-8 bytes. -/
structure Position where
  line : Nat
  column : Nat
deriving DecidableEq, Repr

end ExScript
