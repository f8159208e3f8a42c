import ExScript.Name
import ExScript.Token.Lexer

set_option autoImplicit false

namespace ExScript

def nestingLimit : Nat := 200

inductive ExprCause where
  | unexpectedEnd
  | unexpected (found : TokenKind)
  | callScope (scope : Option Scope)
deriving DecidableEq, Repr

inductive NameCause where
  | missing (found : TokenKind)
  | badScope (scope : Option Scope)
  | badKey
deriving DecidableEq, Repr

inductive Wanted where
  | leftParen
  | rightParen
  | commaOrRightParen
  | parameter
  | variable
  | assignment
deriving DecidableEq, Repr

inductive ParseError where
  | lex (error : LexError)
  | expression (place : Position) (cause : ExprCause)
  | unknownFlag (place : Position) (word : String)
  | unterminatedFunction (line : Nat) (name : String)
  | invalidFunctionName (place : Position) (cause : NameCause)
  | expected (place : Position) (wanted : Wanted) (found : TokenKind)
  | unexpectedEndfunction (line : Nat)
  | returnWithoutExpression (line : Nat)
  | trailing (place : Position) (text : String)
  | missingArgument (line : Nat) (command : Keyword)
  | rangeNotAllowed (line : Nat) (command : Keyword)
  | nestingTooDeep (place : Position)
deriving DecidableEq, Repr

def ExprCause.message : ExprCause → String
  | unexpectedEnd => "表达式意外结束"
  | unexpected found => "意外的 " ++ found.describe
  | callScope scope => "不能以 '" ++ scopeMark scope ++ "' 作用域调用函数"

def NameCause.message : NameCause → String
  | missing found => "缺少函数名，实际为 " ++ found.describe
  | badScope scope => "函数名不能使用 '" ++ scopeMark scope ++ "' 前缀"
  | badKey => "字典路径中的键名无效"

def Wanted.describe : Wanted → String
  | leftParen => "左括号 '('"
  | rightParen => "右括号 ')'"
  | commaOrRightParen => "',' 或 ')'"
  | parameter => "参数名"
  | .variable => "变量名"
  | assignment => "'=' 或 '.='"

namespace ParseError

def line : ParseError → Nat
  | lex error => error.position.line
  | expression place _ | unknownFlag place _ | invalidFunctionName place _ | expected place _ _
  | trailing place _ | nestingTooDeep place => place.line
  | unterminatedFunction line _ | unexpectedEndfunction line | returnWithoutExpression line
  | missingArgument line _ | rangeNotAllowed line _ => line

def onLine (line : Nat) : String := "第 " ++ toString line ++ " 行："

def message : ParseError → String
  | lex error => error.message
  | expression place cause => place.describe ++ "无法解析表达式 - " ++ cause.message
  | unknownFlag place word => place.describe ++ "未知的函数标志 '" ++ word ++ "'"
  | unterminatedFunction line name => onLine line ++ "函数 '" ++ name ++ "' 缺少 endfunction"
  | invalidFunctionName place cause => place.describe ++ "无效的函数名 - " ++ cause.message
  | expected place wanted found =>
      place.describe ++ "期望 " ++ wanted.describe ++ "，实际为 " ++ found.describe
  | unexpectedEndfunction line => onLine line ++ "endfunction 没有对应的 function"
  | returnWithoutExpression line => onLine line ++ "不支持省略表达式的 return"
  | trailing place text => place.describe ++ "多余的内容 '" ++ text ++ "'"
  | missingArgument line command => onLine line ++ "指令 '" ++ command.name ++ "' 缺少参数"
  | rangeNotAllowed line command => onLine line ++ "指令 '" ++ command.name ++ "' 不接受行范围"
  | nestingTooDeep place => place.describe ++ "嵌套层数超过上限 " ++ toString nestingLimit

end ParseError

theorem bind_eq_ok {ε α β : Type} {first : Except ε α} {next : α → Except ε β} {b : β}
    (taken : (first >>= next) = .ok b) : ∃ a, first = .ok a ∧ next a = .ok b := by
  cases first with
  | error error => cases taken
  | ok a => exact ⟨a, rfl, taken⟩

end ExScript
