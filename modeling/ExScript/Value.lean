set_option autoImplicit false

namespace ExScript

inductive Value where
  | str (s : String)
  | num (n : Int64)
deriving DecidableEq, Repr

namespace Value

def text : Value → String
  | str s => s
  | num n => toString n.toInt

def concat (a b : Value) : Value := str (a.text ++ b.text)

end Value

end ExScript
