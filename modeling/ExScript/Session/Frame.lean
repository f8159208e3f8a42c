import ExScript.Session.Heap

set_option autoImplicit false

namespace ExScript

structure CallFrame where
  function : String
  script : String
  arguments : Bindings
  locals : FrameId
  captured : Option FrameId

-- Arguments under the names of their parameters. No function takes more than those, so `0`, the count of further
-- arguments, is zero.
def bindArguments (params : List String) (args : List Value) : Bindings :=
  let bound : Bindings :=
    (params.zip args).foldl (fun (bound : Bindings) (param, value) => bound.insert param value) .empty
  bound.insert "0" (.num 0)

namespace CallFrame

def local? (f : CallFrame) (h : Heap) (name : String) : Option Value :=
  match (h.read f.locals).get? name with
  | some value => some value
  | none => f.captured.bind fun outer => (h.read outer).get? name

def target (f : CallFrame) (h : Heap) (name : String) : FrameId :=
  match f.captured with
  | none => f.locals
  | some outer =>
      if (h.read outer).contains name && !(h.read f.locals).contains name then outer else f.locals

def setLocal (f : CallFrame) (h : Heap) (name : String) (value : Value) : Heap :=
  let id := f.target h name
  h.write id ((h.read id).insert name value)

-- The heap without a local variable, and whether there was one: its own goes before a captured one.
def removeLocal (f : CallFrame) (h : Heap) (name : String) : Bool × Heap :=
  if (h.read f.locals).contains name then
    (true, h.write f.locals ((h.read f.locals).erase name))
  else
    match f.captured with
    | none => (false, h)
    | some outer =>
        if (h.read outer).contains name then (true, h.write outer ((h.read outer).erase name))
        else (false, h)

end CallFrame

end ExScript
