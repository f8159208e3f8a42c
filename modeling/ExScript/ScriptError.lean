import ExScript.ParseError
import ExScript.Session.Error

set_option autoImplicit false

namespace ExScript

inductive ScriptError where
  | parse (error : ParseError)
  | runtime (error : RuntimeError)
deriving DecidableEq, Repr

def ScriptError.message : ScriptError → String
  | parse error => "解析错误: " ++ error.message
  | runtime error => "运行时错误: " ++ error.message

end ExScript
