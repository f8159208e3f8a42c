import ExScript.Scope

set_option autoImplicit false

namespace ExScript

structure Variable where
  scope : Option Scope
  name : String
deriving DecidableEq, Repr

def scopeMark (scope : Option Scope) : String := (scope.map Scope.mark).getD ""

def Variable.text (v : Variable) : String := scopeMark v.scope ++ v.name

/-- A function's name. A plain name leaves its scope out; a path through dictionaries is kept whole, scope
included. -/
structure FunctionName where
  scope : Option Scope
  name : String
deriving DecidableEq, Repr

namespace FunctionName

def isDotted (f : FunctionName) : Bool := f.name.toList.contains '.'

def text (f : FunctionName) : String :=
  if f.isDotted then f.name else scopeMark f.scope ++ f.name

def allowsScope : Option Scope → Bool
  | none | some .global | some .script => true
  | some _ => false

def ofPath (scope : Option Scope) (first : String) (keys : List String) : FunctionName :=
  if keys.isEmpty then ⟨scope, first⟩
  else ⟨scope, scopeMark scope ++ ".".intercalate (first :: keys)⟩

end FunctionName

/-- What a function is filed under: script functions belong to one script, all others to everyone. -/
inductive FunctionKey where
  | global (name : String)
  | script (id : String) (name : String)
deriving DecidableEq, Repr

def FunctionName.key (f : FunctionName) (id : String) : FunctionKey :=
  if f.scope = some .script then .script id f.name else .global f.name

end ExScript
