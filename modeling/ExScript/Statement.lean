import ExScript.Expr

set_option autoImplicit false

namespace ExScript

inductive Flag where
  | range
  | abort
  | dict
  | closure
deriving DecidableEq, Repr

namespace Flag

def word : Flag → String
  | range => "range"
  | abort => "abort"
  | dict => "dict"
  | closure => "closure"

def ofWord? (w : String) : Option Flag :=
  if w = "range" then some range
  else if w = "abort" then some abort
  else if w = "dict" then some dict
  else if w = "closure" then some closure
  else none

end Flag

structure Flags where
  range : Bool := false
  abort : Bool := false
  dict : Bool := false
  closure : Bool := false
deriving DecidableEq, Repr

namespace Flags

def empty : Flags := {}

def insert (fs : Flags) : Flag → Flags
  | .range => { fs with range := true }
  | .abort => { fs with abort := true }
  | .dict => { fs with dict := true }
  | .closure => { fs with closure := true }

def contains (fs : Flags) : Flag → Bool
  | .range => fs.range
  | .abort => fs.abort
  | .dict => fs.dict
  | .closure => fs.closure

def toList (fs : Flags) : List Flag := [.range, .abort, .dict, .closure].filter fs.contains

def ofList (fs : List Flag) : Flags := fs.foldl insert empty

@[simp]
theorem contains_insert (fs : Flags) (f g : Flag) :
    (fs.insert f).contains g = (fs.contains g || g == f) := by
  cases f <;> cases g <;> simp [insert, contains]

theorem eq_of_contains {fs gs : Flags} (same : ∀ f, fs.contains f = gs.contains f) : fs = gs := by
  obtain ⟨range, abort, dict, closure⟩ := fs
  obtain ⟨range', abort', dict', closure'⟩ := gs
  rw [mk.injEq]
  exact ⟨same .range, same .abort, same .dict, same .closure⟩

theorem contains_foldl_insert (fs : Flags) (listed : List Flag) (f : Flag) :
    (listed.foldl insert fs).contains f = (fs.contains f || listed.contains f) := by
  induction listed generalizing fs with
  | nil => simp
  | cons g rest ih => rw [List.foldl_cons, ih, contains_insert, List.contains_cons, Bool.or_assoc]

theorem contains_of_list (listed : List Flag) (f : Flag) : (ofList listed).contains f = listed.contains f := by
  rw [ofList, contains_foldl_insert]
  cases f <;> rfl

end Flags

structure FunctionHeader where
  name : FunctionName
  params : List String
  flags : Flags
  replace : Bool
deriving DecidableEq, Repr

inductive AssignOp where
  | assign
  | append
deriving DecidableEq, Repr

structure HostCommand where
  range : Option String
  name : String
  bang : Bool
  args : String
deriving DecidableEq, Repr

inductive Statement where
  | function (header : FunctionHeader) (body : List Statement)
  | echo (exprs : List Expr)
  | return (value : Expr)
  | assign (target : Variable) (op : AssignOp) (value : Expr)
  | unlet (bang : Bool) (targets : List Variable)
  | call (range : Option String) (name : FunctionName) (args : List Expr)
  | delfunction (bang : Bool) (name : FunctionName)
  | command (command : HostCommand)
deriving Repr

def Statement.kind : Statement → String
  | function .. => "function"
  | echo _ => "echo"
  | .return _ => "return"
  | assign .. => "let"
  | unlet .. => "unlet"
  | call .. => "call"
  | delfunction .. => "delfunction"
  | command _ => "command"

end ExScript
