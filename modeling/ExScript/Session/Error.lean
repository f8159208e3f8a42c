import ExScript.Host

set_option autoImplicit false

namespace ExScript

inductive RuntimeError where
  | functionAlreadyDefined (name : String)
  | undefinedVariable (scope : Scope) (name : String)
  | returnOutsideFunction
  | unknownFunction (name : String)
  | tooManyArguments (name : String)
  | tooFewArguments (name : String)
  | callDepthExceeded (limit : Nat)
  | readOnlyVariable (name : String)
  | dictFunction (name : String)
  | host (error : HostError)
  | inFunction (function : String) (cause : RuntimeError)
deriving DecidableEq, Repr

namespace RuntimeError

def message : RuntimeError → String
  | functionAlreadyDefined name => "E122: 函数 " ++ name ++ " 已存在，请使用 ! 替换"
  | undefinedVariable scope name => "E121: 未定义的变量: " ++ scope.mark ++ name
  | returnOutsideFunction => "E133: :return 不在函数内"
  | unknownFunction name => "E117: 未知函数: " ++ name
  | tooManyArguments name => "E118: 函数 " ++ name ++ " 的参数过多"
  | tooFewArguments name => "E119: 函数 " ++ name ++ " 的参数不足"
  | callDepthExceeded limit => "E132: 函数调用深度超过上限 " ++ toString limit
  | readOnlyVariable name => "E46: 不能修改只读变量 " ++ name
  | dictFunction name => "E725: 调用 dict 函数 " ++ name ++ " 时没有字典"
  | host error => "宿主执行失败: " ++ error.message
  | inFunction function cause => "处理函数 " ++ function ++ " 时出错: " ++ cause.message

def messages : RuntimeError → List String
  | host error => [message (host error), error.message]
  | inFunction function cause => message (inFunction function cause) :: cause.messages
  | error => [error.message]

def root : RuntimeError → RuntimeError
  | inFunction _ cause => cause.root
  | error => error

-- The functions that were running, outermost first.
def trace : RuntimeError → List String
  | inFunction function cause => function :: cause.trace
  | _ => []

end RuntimeError

end ExScript
