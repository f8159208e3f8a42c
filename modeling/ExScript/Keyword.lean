set_option autoImplicit false

namespace ExScript

inductive Keyword where
  | function
  | endfunction
  | echo
  | return
  | let
  | call
  | unlet
  | delfunction
deriving DecidableEq, Repr

namespace Keyword

def all : List Keyword := [function, endfunction, echo, .return, .let, call, unlet, delfunction]

def name : Keyword → String
  | function => "function"
  | endfunction => "endfunction"
  | echo => "echo"
  | .return => "return"
  | .let => "let"
  | call => "call"
  | unlet => "unlet"
  | delfunction => "delfunction"

def shortest : Keyword → Nat
  | function | echo => 2
  | .let | call | unlet => 3
  | endfunction | .return | delfunction => 4

def matchesWord (k : Keyword) (word : List Char) : Bool :=
  k.shortest ≤ word.length && word.isPrefixOf k.name.toList

def ofWord? (word : List Char) : Option Keyword := all.find? (·.matchesWord word)

end Keyword

end ExScript
