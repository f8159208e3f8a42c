import ExScript.Token.Lexer

set_option autoImplicit false

namespace ExScript

structure LexedLine where
  number : Nat
  tokens : Except LexError (List Token)

def LogicalLine.lexed? (l : LogicalLine) : Option LexedLine :=
  match l.tokens with
  | .ok [] => none
  | tokens => some ⟨l.number, tokens⟩

def lexLines (source : List Char) : List LexedLine := (logicalLines source).filterMap (·.lexed?)

def tokensOf : List LexedLine → Except LexError (List Token)
  | [] => .ok []
  | line :: lines => do
      let tokens ← line.tokens
      return tokens ++ (← tokensOf lines)

def tokenize (source : List Char) : Except LexError (List Token) := tokensOf (lexLines source)

end ExScript
