import ExScript.Session.Frame
import ExScript.Session.Functions
import ExScript.Settings

set_option autoImplicit false

namespace ExScript

structure Session where
  settings : Settings
  globals : Bindings
  namespaces : Table String Bindings
  functions : FunctionTable
  -- both innermost first
  callStack : List CallFrame
  sourcing : List String
  heap : Heap

inductive Slot where
  | global
  | script (id : String)
  | argument
  | function
  | host (scope : Scope)
deriving DecidableEq, Repr

def commandLineScript : String := "<cmdline>"

namespace Session

def ofSettings (settings : Settings) : Session := ⟨settings, .empty, .empty, .empty, [], [], .empty⟩

def fresh : Session := ofSettings .default

def currentScript (s : Session) : String :=
  match s.callStack, s.sourcing with
  | frame :: _, _ => frame.script
  | [], id :: _ => id
  | [], [] => commandLineScript

def namespaceOf (s : Session) (id : String) : Bindings := (s.namespaces.get? id).getD .empty

theorem namespace_of_insert (s : Session) (id : String) (vars : Bindings) (other : String) :
    namespaceOf { s with namespaces := s.namespaces.insert id vars } other =
      if other = id then vars else s.namespaceOf other := by
  unfold namespaceOf
  by_cases here : other = id <;> simp [here]

def scriptVariable? (s : Session) (id name : String) : Option Value := (s.namespaceOf id).get? name

def globalVariable? (s : Session) (name : String) : Option Value := s.globals.get? name

def setGlobalVariable (s : Session) (name : String) (value : Value) : Session :=
  { s with globals := s.globals.insert name value }

def globalKey (name : String) : FunctionKey :=
  match name.toList with
  | 'g' :: ':' :: rest => .global (String.ofList rest)
  | _ => .global name

def hasFunction (s : Session) (name : String) : Bool := s.functions.contains (globalKey name)

def hasScriptFunction (s : Session) (id name : String) : Bool := s.functions.contains (.script id name)

def room (s : Session) : Nat := s.settings.maxDepth - s.callStack.length

def slot (s : Session) : Option Scope → Slot
  | some .global => .global
  | some .script => .script s.currentScript
  | some .argument => .argument
  | some .buffer => .host .buffer
  | some .window => .host .window
  | some .tab => .host .tab
  | some .vim => .host .vim
  | some .function | none => if s.callStack.isEmpty then .global else .function

def shownScope (s : Session) : Option Scope → Scope
  | some scope => scope
  | none => if s.callStack.isEmpty then .global else .function

def undefined (s : Session) (v : Variable) : RuntimeError :=
  .undefinedVariable (s.shownScope v.scope) v.name

theorem slot_congr {s t : Session} (outside : t.callStack.isEmpty = s.callStack.isEmpty)
    (script : t.currentScript = s.currentScript) (scope : Option Scope) : t.slot scope = s.slot scope := by
  cases scope with
  | none => simp only [slot, outside]
  | some scope => cases scope <;> simp only [slot, outside, script]

theorem undefined_congr {s t : Session} (outside : t.callStack.isEmpty = s.callStack.isEmpty) (v : Variable) :
    t.undefined v = s.undefined v := by
  obtain ⟨scope, name⟩ := v
  cases scope <;> simp only [undefined, shownScope, outside]

def stored? (s : Session) (slot : Slot) (name : String) : Option Value :=
  match slot with
  | .global => s.globals.get? name
  | .script id => s.scriptVariable? id name
  | .argument => s.callStack.head?.bind fun frame => frame.arguments.get? name
  | .function => s.callStack.head?.bind fun frame => frame.local? s.heap name
  | .host _ => none

def store (s : Session) (slot : Slot) (name : String) (value : Value) : Session :=
  match slot with
  | .global => { s with globals := s.globals.insert name value }
  | .script id =>
      { s with namespaces := s.namespaces.insert id ((s.namespaceOf id).insert name value) }
  | .function =>
      match s.callStack with
      | [] => s
      | frame :: _ => { s with heap := frame.setLocal s.heap name value }
  | .argument | .host _ => s

def discard (s : Session) (slot : Slot) (name : String) : Bool × Session :=
  match slot with
  | .global =>
      if s.globals.contains name then (true, { s with globals := s.globals.erase name })
      else (false, s)
  | .script id =>
      let vars := s.namespaceOf id
      if vars.contains name then
        (true, { s with namespaces := s.namespaces.insert id (vars.erase name) })
      else (false, s)
  | .function =>
      match s.callStack with
      | [] => (false, s)
      | frame :: _ =>
          let (existed, heap) := frame.removeLocal s.heap name
          (existed, { s with heap })
  | .argument | .host _ => (false, s)

/-- Files the function that a declaration describes, as the running code's script does. A closure captures
the locals of the function that is running. -/
def define (s : Session) (header : FunctionHeader) (body : List Statement) :
    Except RuntimeError Session :=
  let captured := if header.flags.closure then s.callStack.head?.map (·.locals) else none
  let f : DefinedFunction := ⟨header, body, s.currentScript, captured⟩
  match FunctionTable.define s.functions (header.name.key s.currentScript) f header.replace with
  | .error error => .error error
  | .ok functions => .ok { s with functions }

def delete (s : Session) (bang : Bool) (name : FunctionName) : Except RuntimeError Session :=
  let key := name.key s.currentScript
  if s.functions.contains key then .ok { s with functions := s.functions.erase key }
  else if bang then .ok s
  else .error (.unknownFunction name.text)

def enter (s : Session) (f : DefinedFunction) (args : List Value) : Session :=
  let (locals, heap) := s.heap.alloc
  let frame : CallFrame :=
    ⟨f.header.name.text, f.script, bindArguments f.header.params args, locals, f.captured⟩
  { s with heap, callStack := frame :: s.callStack }

def leave (s : Session) : Session := { s with callStack := s.callStack.tail }

end Session

end ExScript
