import ExScript.Statement
import ExScript.Value

set_option autoImplicit false

namespace ExScript

inductive HostError where
  | unsupportedCommand (name : String)
  | readOnlyVariable (name : String)
  | failed (text : String)
deriving DecidableEq, Repr

def HostError.message : HostError → String
  | unsupportedCommand name => "E492: 不是编辑器命令: " ++ name
  | readOnlyVariable name => "E46: 不能修改只读变量 " ++ name
  | failed text => text

/-- What a type of states needs to serve as a host. Reading a variable changes nothing; where an operation
may be refused, the refusal is given with the state after it. -/
class Host (σ : Type) where
  echo : σ → String → σ
  command : σ → HostCommand → Option HostError × σ
  read : σ → Scope → String → Option Value
  write : σ → Scope → String → Value → Option HostError × σ
  remove : σ → Scope → String → Bool × σ

inductive HostCall where
  | echo (message : String)
  | command (command : HostCommand) (refusal : Option HostError)
  | read (scope : Scope) (name : String) (found : Option Value)
  | write (scope : Scope) (name : String) (value : Value) (refusal : Option HostError)
  | remove (scope : Scope) (name : String) (existed : Bool)
deriving DecidableEq, Repr

end ExScript
