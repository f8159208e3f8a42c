import ExScript.Session.World

set_option autoImplicit false

namespace ExScript

variable {σ : Type} [Host σ]

def findVariable (v : Variable) : Run σ (Option Value) := do
  let s ← session
  match s.slot v.scope with
  | .host scope => hostRead scope v.name
  | slot => return s.stored? slot v.name

def readVariable (v : Variable) : Run σ Value := do
  match ← findVariable v with
  | some value => return value
  | none => throw ((← session).undefined v)

def writeVariable (v : Variable) (value : Value) : Run σ PUnit := do
  let s ← session
  match s.slot v.scope with
  | .argument => throw (.readOnlyVariable v.text)
  | .host scope => hostWrite scope v.name value
  | slot => setSession (s.store slot v.name value)

def removeVariable (v : Variable) : Run σ Bool := do
  let s ← session
  match s.slot v.scope with
  | .argument => throw (.readOnlyVariable v.text)
  | .host scope => hostRemove scope v.name
  | slot =>
      let (existed, s) := s.discard slot v.name
      setSession s
      return existed

def removeVariables (bang : Bool) : List Variable → Run σ PUnit
  | [] => pure ⟨⟩
  | v :: vs => do
      let existed ← removeVariable v
      if existed || bang then removeVariables bang vs
      else throw ((← session).undefined v)

end ExScript
