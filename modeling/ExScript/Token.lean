import ExScript.Keyword
import ExScript.Position
import ExScript.Scope
import ExScript.Text.Quoted

set_option autoImplicit false

namespace ExScript

inductive TokenKind where
  | keyword (k : Keyword)
  | name (scope : Option Scope) (name : String)
  | string (value : String)
  | number (value : Int64)
  | range (text : String)
  | raw (text : String)
  | leftParen
  | rightParen
  | comma
  | dot
  | dotDot
  | dotEquals
  | bang
  | equals
  | endOfLine
deriving DecidableEq, Repr

def TokenKind.describe : TokenKind → String
  | keyword k => "关键字 '" ++ k.name ++ "'"
  | name scope n => "标识符 '" ++ (scope.map Scope.mark).getD "" ++ n ++ "'"
  | string s => "字符串 " ++ quoted s
  | number n => "数字 " ++ toString n.toInt
  | range r => "范围 '" ++ r ++ "'"
  | raw t => "'" ++ t ++ "'"
  | leftParen => "'('"
  | rightParen => "')'"
  | comma => "','"
  | dot => "'.'"
  | dotDot => "'..'"
  | dotEquals => "'.='"
  | bang => "'!'"
  | equals => "'='"
  | endOfLine => "行尾"

structure Token where
  kind : TokenKind
  text : List Char
  position : Position
deriving DecidableEq, Repr

end ExScript
