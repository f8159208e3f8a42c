import ExScript.Session

set_option autoImplicit false

namespace ExScript

structure World (σ : Type) where
  session : Session
  host : σ
  -- latest first
  calls : List HostCall

abbrev Run (σ α : Type) := EStateM RuntimeError (World σ) α

namespace World

variable {σ : Type}

def start (session : Session) (host : σ) : World σ := ⟨session, host, []⟩

def called (w : World σ) (call : HostCall) (host : σ) : World σ :=
  { w with host, calls := call :: w.calls }

end World

variable {σ : Type} [Host σ]

def session : Run σ Session := fun w => .ok w.session w

def setSession (s : Session) : Run σ PUnit := fun w => .ok ⟨⟩ { w with session := s }

def updateSession (result : Except RuntimeError Session) : Run σ PUnit :=
  match result with
  | .error error => throw error
  | .ok s => setSession s

def hostEcho (message : String) : Run σ PUnit := fun w =>
  .ok ⟨⟩ (w.called (.echo message) (Host.echo w.host message))

def orRefused (refusal : Option HostError) : Run σ PUnit :=
  match refusal with
  | some error => throw (.host error)
  | none => pure ⟨⟩

def hostCommand (c : HostCommand) : Run σ PUnit := fun w =>
  let (refusal, host) := Host.command w.host c
  orRefused refusal (w.called (.command c refusal) host)

def hostRead (scope : Scope) (name : String) : Run σ (Option Value) := fun w =>
  let found := Host.read w.host scope name
  .ok found (w.called (.read scope name found) w.host)

def hostWrite (scope : Scope) (name : String) (value : Value) : Run σ PUnit := fun w =>
  let (refusal, host) := Host.write w.host scope name value
  orRefused refusal (w.called (.write scope name value refusal) host)

def hostRemove (scope : Scope) (name : String) : Run σ Bool := fun w =>
  let (existed, host) := Host.remove w.host scope name
  .ok existed (w.called (.remove scope name existed) host)

end ExScript
