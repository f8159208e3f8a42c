import ExScript.Session.Error
import ExScript.Session.Heap

set_option autoImplicit false

namespace ExScript

structure DefinedFunction where
  header : FunctionHeader
  body : List Statement
  script : String
  captured : Option FrameId

abbrev FunctionTable := Table FunctionKey DefinedFunction

namespace FunctionTable

def define (t : FunctionTable) (key : FunctionKey) (f : DefinedFunction) (replace : Bool) :
    Except RuntimeError FunctionTable :=
  if !replace && t.contains key then .error (.functionAlreadyDefined f.header.name.text)
  else .ok (t.insert key f)

end FunctionTable

end ExScript
