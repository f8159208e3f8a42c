import ExScript.Name
import ExScript.Value

set_option autoImplicit false

namespace ExScript

inductive Expr where
  | literal (value : Value)
  | variable (v : Variable)
  | concat (left right : Expr)
  | call (name : FunctionName) (args : List Expr)
deriving Repr

namespace Expr

mutual

def references : Expr → List Variable
  | literal _ => []
  | .variable v => [v]
  | concat left right => left.references ++ right.references
  | call _ args => referencesOf args

def referencesOf : List Expr → List Variable
  | [] => []
  | e :: es => e.references ++ referencesOf es

end

end Expr

end ExScript
