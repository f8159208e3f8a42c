import ExScript.Session.Run

set_option autoImplicit false

namespace ExScript

variable {σ : Type}

abbrev Ending (σ α : Type) := EStateM.Result RuntimeError (World σ) α

section

variable {α β : Type}

def worldAfter : Ending σ α → World σ
  | .ok _ w => w
  | .error _ w => w

def mapped (f : α → β) : Ending σ α → Ending σ β
  | .ok a w => .ok (f a) w
  | .error error w => .error error w

@[simp]
theorem world_after_mapped (f : α → β) (ended : Ending σ α) : worldAfter (mapped f ended) = worldAfter ended := by
  cases ended <;> rfl

theorem bind_of_ok {first : Run σ α} {w v : World σ} {a : α} (ended : first w = .ok a v) (next : α → Run σ β) :
    (first >>= next) w = next a v := by
  show EStateM.bind first next w = next a v
  rw [EStateM.bind, ended]

theorem bind_of_error {first : Run σ α} {w v : World σ} {error : RuntimeError} (ended : first w = .error error v)
    (next : α → Run σ β) : (first >>= next) w = .error error v := by
  show EStateM.bind first next w = .error error v
  rw [EStateM.bind, ended]

@[simp]
theorem session_bind (next : Session → Run σ β) (w : World σ) : (session >>= next) w = next w.session w := rfl

theorem bind_pure_eq (first : Run σ α) (f : α → β) (w : World σ) :
    (first >>= fun a => pure (f a)) w = mapped f (first w) := by
  cases ended : first w with
  | ok a v => exact bind_of_ok ended _
  | error error v => exact bind_of_error ended _

theorem bind_error_cases {first : Run σ α} {next : α → Run σ β} {w v : World σ} {error : RuntimeError}
    (failed : (first >>= next) w = .error error v) :
    first w = .error error v ∨ ∃ a u, first w = .ok a u ∧ next a u = .error error v := by
  cases ended : first w with
  | error error' u =>
      rw [bind_of_error ended] at failed
      cases failed
      exact .inl rfl
  | ok a u =>
      rw [bind_of_ok ended] at failed
      exact .inr ⟨a, u, rfl, failed⟩

-- What two computations do one after the other, for a relation of worlds that may be chained.
theorem after_bind {R : World σ → World σ → Prop} (chained : ∀ {u v w}, R u v → R v w → R u w) {first : Run σ α}
    {next : α → Run σ β} {w : World σ} (before : R w (worldAfter (first w)))
    (after : ∀ a v, first w = .ok a v → R v (worldAfter (next a v))) : R w (worldAfter ((first >>= next) w)) := by
  cases ended : first w with
  | error error v =>
      rw [bind_of_error ended]
      rwa [ended] at before
  | ok a v =>
      rw [bind_of_ok ended]
      rw [ended] at before
      exact chained before (after a v ended)

end

variable [Host σ]

inductive Step : World σ → World σ → Prop
  | echo (w : World σ) (message : String) :
      Step w (w.called (.echo message) (Host.echo w.host message))
  | command (w : World σ) (c : HostCommand) :
      Step w (w.called (.command c (Host.command w.host c).1) (Host.command w.host c).2)
  | read (w : World σ) (v : Variable) (scope : Scope) (kept : w.session.slot v.scope = .host scope) :
      Step w (w.called (.read scope v.name (Host.read w.host scope v.name)) w.host)
  | write (w : World σ) (v : Variable) (scope : Scope) (value : Value)
      (kept : w.session.slot v.scope = .host scope) :
      Step w (w.called (.write scope v.name value (Host.write w.host scope v.name value).1)
        (Host.write w.host scope v.name value).2)
  | remove (w : World σ) (v : Variable) (scope : Scope) (kept : w.session.slot v.scope = .host scope) :
      Step w (w.called (.remove scope v.name (Host.remove w.host scope v.name).1)
        (Host.remove w.host scope v.name).2)
  | store (w : World σ) (v : Variable) (value : Value) :
      Step w { w with session := w.session.store (w.session.slot v.scope) v.name value }
  | discard (w : World σ) (v : Variable) :
      Step w { w with session := (w.session.discard (w.session.slot v.scope) v.name).2 }
  | define (w : World σ) (header : FunctionHeader) (body : List Statement) (s : Session)
      (filed : w.session.define header body = .ok s) : Step w { w with session := s }
  | delete (w : World σ) (bang : Bool) (name : FunctionName) (s : Session)
      (deleted : w.session.delete bang name = .ok s) : Step w { w with session := s }

-- Every run, successful or not, is a sequence of steps and of calls, of which `room` bounds how deep they nest. Facts
-- about whole runs follow by induction on it, without opening the interpreter again.
inductive Evolves : Nat → World σ → World σ → Prop
  | refl (room : Nat) (w : World σ) : Evolves room w w
  | step {room : Nat} {u v w : World σ} (before : Evolves room u v) (last : Step v w) : Evolves room u w
  | call {room : Nat} {u v w : World σ} (f : DefinedFunction) (args : List Value)
      (before : Evolves (room + 1) u v) (inside : Evolves room { v with session := v.session.enter f args } w) :
      Evolves (room + 1) u { w with session := w.session.leave }

theorem evolves_trans {room : Nat} {u v w : World σ} (first : Evolves room u v) (second : Evolves room v w) :
    Evolves room u w := by
  induction second with
  | refl => exact first
  | step _ last ih => exact .step (ih first) last
  | call f args _ inside ih _ => exact .call f args (ih first) inside

theorem evolves_of_step {room : Nat} {w w' : World σ} (only : Step w w') : Evolves room w w' :=
  .step (.refl room w) only

-- Frames on the stack are equal with all they hold: name, script, arguments and the identities of both
-- frames of locals. No frame of the heap goes away, so the identities mean what they meant before.
structure Session.Resumes (s t : Session) : Prop where
  settings : t.settings = s.settings
  callStack : t.callStack = s.callStack
  sourcing : t.sourcing = s.sourcing
  frames : s.heap.frames.size ≤ t.heap.frames.size

theorem resumes_refl (s : Session) : s.Resumes s := ⟨rfl, rfl, rfl, Nat.le_refl _⟩

theorem resumes_trans {r s t : Session} (first : r.Resumes s) (second : s.Resumes t) : r.Resumes t :=
  ⟨second.settings.trans first.settings, second.callStack.trans first.callStack,
    second.sourcing.trans first.sourcing, Nat.le_trans first.frames second.frames⟩

theorem resumes_write (s : Session) (id : FrameId) (frame : Bindings) :
    s.Resumes { s with heap := s.heap.write id frame } :=
  ⟨rfl, rfl, rfl, Nat.le_of_eq (by simp)⟩

theorem resumes_store (s : Session) (slot : Slot) (name : String) (value : Value) :
    s.Resumes (s.store slot name value) := by
  cases slot with
  | function =>
      dsimp only [Session.store]
      split
      · exact resumes_refl s
      · exact resumes_write s _ _
  | _ => exact ⟨rfl, rfl, rfl, Nat.le_refl _⟩

theorem resumes_remove_local (s : Session) (frame : CallFrame) (name : String) :
    s.Resumes { s with heap := (frame.removeLocal s.heap name).2 } := by
  unfold CallFrame.removeLocal
  split
  · exact resumes_write s _ _
  · split
    · exact resumes_refl s
    · split
      · exact resumes_write s _ _
      · exact resumes_refl s

theorem resumes_discard (s : Session) (slot : Slot) (name : String) :
    s.Resumes (s.discard slot name).2 := by
  cases slot with
  | function =>
      dsimp only [Session.discard]
      split
      · exact resumes_refl s
      · exact resumes_remove_local s _ name
  | argument => exact resumes_refl s
  | host scope => exact resumes_refl s
  | _ =>
      dsimp only [Session.discard]
      split <;> exact ⟨rfl, rfl, rfl, Nat.le_refl _⟩

def Session.declared (s : Session) (header : FunctionHeader) (body : List Statement) : DefinedFunction :=
  ⟨header, body, s.currentScript, if header.flags.closure then s.callStack.head?.map (·.locals) else none⟩

theorem define_ok {s t : Session} {header : FunctionHeader} {body : List Statement}
    (filed : s.define header body = .ok t) :
    t = { s with
      functions := s.functions.insert (header.name.key s.currentScript) (s.declared header body) } := by
  unfold Session.define FunctionTable.define at filed
  dsimp only at filed
  split at filed
  · cases filed
  · rename_i functions defined
    cases filed
    split at defined <;> cases defined
    rfl

theorem delete_ok {s t : Session} {bang : Bool} {name : FunctionName} (deleted : s.delete bang name = .ok t) :
    t = { s with functions := s.functions.erase (name.key s.currentScript) } ∨ t = s := by
  unfold Session.delete at deleted
  dsimp only at deleted
  split at deleted
  · cases deleted
    exact .inl rfl
  · split at deleted
    · cases deleted
      exact .inr rfl
    · cases deleted

theorem delete_fewer {s t : Session} {bang : Bool} {name : FunctionName} (deleted : s.delete bang name = .ok t)
    {key : FunctionKey} {f : DefinedFunction} (found : t.functions.get? key = some f) :
    s.functions.get? key = some f := by
  obtain rfl | rfl := delete_ok deleted
  · exact Table.get?_of_erase found
  · exact found

theorem resumes_define {s t : Session} {header : FunctionHeader} {body : List Statement}
    (filed : s.define header body = .ok t) : s.Resumes t := by
  rw [define_ok filed]
  exact ⟨rfl, rfl, rfl, Nat.le_refl _⟩

theorem resumes_delete {s t : Session} {bang : Bool} {name : FunctionName}
    (deleted : s.delete bang name = .ok t) : s.Resumes t := by
  obtain rfl | rfl := delete_ok deleted
  · exact ⟨rfl, rfl, rfl, Nat.le_refl _⟩
  · exact resumes_refl _

-- Leaving pops exactly the frame that entering pushed, since the body resumed the session in between.
theorem resumes_call {s t : Session} (f : DefinedFunction) (args : List Value)
    (inside : (s.enter f args).Resumes t) : s.Resumes t.leave := by
  refine ⟨inside.settings, ?_, inside.sourcing, ?_⟩
  · rw [Session.leave, inside.callStack]
    rfl
  · have grown : s.heap.frames.size ≤ (s.enter f args).heap.frames.size := by
      simp [Session.enter]
    exact Nat.le_trans grown inside.frames

theorem step_resumes {w w' : World σ} (taken : Step w w') : w.session.Resumes w'.session := by
  cases taken with
  | store v value => exact resumes_store _ _ _ _
  | discard v => exact resumes_discard _ _ _
  | define header body s filed => exact resumes_define filed
  | delete bang name s deleted => exact resumes_delete deleted
  | _ => exact resumes_refl _

theorem evolves_resumes {room : Nat} {w w' : World σ} (run : Evolves room w w') :
    w.session.Resumes w'.session := by
  induction run with
  | refl => exact resumes_refl _
  | step _ last ih => exact resumes_trans ih (step_resumes last)
  | call f args _ _ before inside => exact resumes_trans before (resumes_call f args inside)

theorem resumes_room {s t : Session} (resumed : s.Resumes t) : t.room = s.room := by
  rw [Session.room, Session.room, resumed.settings, resumed.callStack]

end ExScript
