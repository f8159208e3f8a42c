import ExScript.Proofs.Session.Comparison

set_option autoImplicit false

namespace ExScript

variable {σ : Type}

namespace World

def entered (w : World σ) (f : DefinedFunction) (args : List Value) : World σ :=
  { w with session := w.session.enter f args }

def opened (w : World σ) (id : String) : World σ :=
  { w with session := { w.session with sourcing := id :: w.session.sourcing } }

def closed (w : World σ) : World σ :=
  { w with session := { w.session with sourcing := w.session.sourcing.tail } }

end World

-- How a call of `f` ends whose body ended so.
def leaving (f : DefinedFunction) : Ending σ Value → Ending σ Value
  | .ok value w => .ok value { w with session := w.session.leave }
  | .error error w => .error (.inFunction f.header.name.text error) { w with session := w.session.leave }

def closing {α : Type} : Ending σ α → Ending σ α
  | .ok a w => .ok a w.closed
  | .error error w => .error error w.closed

theorem in_frame_eq (f : DefinedFunction) (args : List Value) (body : Run σ Value) (w : World σ) :
    inFrame f args body w = leaving f (body (w.entered f args)) := by
  unfold inFrame World.entered
  cases body { w with session := w.session.enter f args } <;> rfl

theorem while_sourcing_eq {α : Type} (id : String) (body : Run σ α) (w : World σ) :
    whileSourcing id body w = closing (body (w.opened id)) := by
  unfold whileSourcing World.opened
  cases body { w with session := { w.session with sourcing := id :: w.session.sourcing } } <;> rfl

@[simp]
theorem world_after_leaving (f : DefinedFunction) (ended : Ending σ Value) :
    worldAfter (leaving f ended) = { worldAfter ended with session := (worldAfter ended).session.leave } := by
  cases ended <;> rfl

@[simp]
theorem world_after_closing {α : Type} (ended : Ending σ α) : worldAfter (closing ended) = (worldAfter ended).closed := by
  cases ended <;> rfl

theorem resolve_found {name : FunctionName} {f : DefinedFunction} {w : World σ}
    (found : w.session.functions.get? (name.key w.session.currentScript) = some f) : resolve name w = .ok f w := by
  rw [resolve, session_bind, found]
  rfl

theorem resolve_absent {name : FunctionName} {w : World σ}
    (absent : w.session.functions.get? (name.key w.session.currentScript) = none) :
    resolve name w = .error (.unknownFunction name.text) w := by
  rw [resolve, session_bind, absent]
  rfl

variable [Host σ]

theorem resolve_evolves (room : Nat) (name : FunctionName) (w : World σ) :
    Evolves room w (worldAfter (resolve name w)) := by
  cases found : w.session.functions.get? (name.key w.session.currentScript) with
  | some f =>
      rw [resolve_found found]
      exact .refl room w
  | none =>
      rw [resolve_absent found]
      exact .refl room w

theorem declare_evolves (room : Nat) (header : FunctionHeader) (body : List Statement) (w : World σ) :
    Evolves room w (worldAfter (declare header body w)) := by
  rw [declare, session_bind]
  cases filed : w.session.define header body with
  | error error => exact .refl room w
  | ok s => exact evolves_of_step (.define w header body s filed)

theorem undeclare_evolves (room : Nat) (bang : Bool) (name : FunctionName) (w : World σ) :
    Evolves room w (worldAfter (undeclare bang name w)) := by
  rw [undeclare, session_bind]
  cases deleted : w.session.delete bang name with
  | error error => exact .refl room w
  | ok s => exact evolves_of_step (.delete w bang name s deleted)

theorem returnable_evolves (room : Nat) (w : World σ) : Evolves room w (worldAfter (returnable w)) := by
  rw [returnable, session_bind]
  cases w.session.callStack.isEmpty <;> exact .refl room w

section

variable {α β : Type} {room : Nat} {same : Unit → α → α → Prop} {same' : Unit → β → β → Prop}

-- The first computation evolves every world, and the second does the same wherever `room` more calls may nest.
def Steady (room : Nat) (same : Unit → α → α → Prop) (run run' : Run σ α) : Prop :=
  ∀ w, Evolves room w (worldAfter (run w)) ∧ (w.session.room = room → run' w = run w) ∧
    ∀ a v, run w = .ok a v → same () a a

theorem steady_self {run : Run σ α} (evolves : ∀ w, Evolves room w (worldAfter (run w))) :
    Steady room (fun _ => Eq) run run :=
  fun w => ⟨evolves w, fun _ => rfl, fun _ _ _ => rfl⟩

-- The rest starts with the room of the beginning, since what comes before it gives all its frames back.
theorem steady_bind {first first' : Run σ α} {next next' : α → Run σ β} (start : Steady room same first first')
    (rest : ∀ a, same () a a → Steady room same' (next a) (next' a)) :
    Steady room same' (first >>= next) (first' >>= next') := by
  intro w
  obtain ⟨evolves, equal, fits⟩ := start w
  cases ended : first w with
  | error error v =>
      rw [ended] at evolves equal
      rw [bind_of_error ended]
      refine ⟨evolves, fun sized => bind_of_error (equal sized) next', fun a v' failed => ?_⟩
      cases failed
  | ok a v =>
      rw [ended] at evolves equal
      obtain ⟨evolves', equal', fits'⟩ := rest a (fits a v ended) v
      rw [bind_of_ok ended]
      refine ⟨evolves_trans evolves evolves', fun sized => ?_, fits'⟩
      rw [bind_of_ok (equal sized), equal' ((resumes_room (evolves_resumes evolves)).trans sized)]

end

def steady (room : Nat) : Comparison σ where
  rewriting := .keep
  Stage := Unit
  Before _ _ := True
  SameFunction _ f g := g = f
  Compare _ := Steady room
  same_function_mono _ same := same
  pure _ a := steady_self fun w => .refl room w
  bind start rest := steady_bind start fun a fits => rest () a a trivial fits
  find _ v := steady_self ((find_variable_accesses v).evolves room)
  undefined _ v := steady_self ((accessing_undefined v).evolves room)
  write _ v x := steady_self ((write_variable_accesses v x).evolves room)
  remove _ v := steady_self ((remove_variable_accesses v).evolves room)
  resolve _ name w := ⟨resolve_evolves room name w, fun _ => rfl, fun _ _ _ => rfl⟩
  declare _ header body := by
    rw [keep_body]
    exact steady_self (declare_evolves room header body)
  undeclare _ bang name := steady_self (undeclare_evolves room bang name)
  shown _ values := steady_self fun w => evolves_of_step (.echo w _)
  returnable _ := steady_self (returnable_evolves room)
  command _ c := steady_self ((host_command_accesses c).evolves room)

-- The induction is on the calls that may nest; `invoke` finds out about them from the stack.
theorem invoke_steady (room : Nat) : (steady room : Comparison σ).CallsAgree (invokeWithin room) invoke := by
  induction room with
  | zero =>
      rintro ⟨⟩ f g args rfl w
      refine ⟨?_, fun sized => by rw [invoke, sized], fun _ _ _ => rfl⟩
      unfold invokeWithin
      cases g.refusal? args.length <;> exact .refl 0 w
  | succ room ih =>
      rintro ⟨⟩ f g args rfl w
      refine ⟨?_, fun sized => by rw [invoke, sized], fun _ _ _ => rfl⟩
      unfold invokeWithin
      cases g.refusal? args.length with
      | some error => exact .refl _ w
      | none =>
          dsimp only
          rw [in_frame_eq, world_after_leaving]
          exact .call g args (.refl _ w) (run_body_agree ih () g.body (w.entered g args)).1

theorem invoke_within_evolves (room : Nat) (f : DefinedFunction) (args : List Value) (w : World σ) :
    Evolves room w (worldAfter (invokeWithin room f args w)) :=
  (invoke_steady room () f f args rfl w).1

theorem run_body_evolves (room : Nat) (body : List Statement) (w : World σ) :
    Evolves room w (worldAfter (runBody (invokeWithin room) body w)) :=
  (run_body_agree (invoke_steady room) () body w).1

theorem invoke_evolves (f : DefinedFunction) (args : List Value) (w : World σ) :
    Evolves w.session.room w (worldAfter (invoke f args w)) :=
  invoke_within_evolves w.session.room f args w

theorem evaluate_evolves (e : Expr) (w : World σ) : Evolves w.session.room w (worldAfter (evaluate e w)) :=
  (evaluate_with_agree (invoke_steady w.session.room) () e w).1

theorem execute_evolves (s : Statement) (w : World σ) : Evolves w.session.room w (worldAfter (execute s w)) :=
  (execute_with_agree (invoke_steady w.session.room) () s w).1

theorem call_function_evolves (name : String) (args : List Value) (w : World σ) :
    Evolves w.session.room w (worldAfter (callFunction name args w)) := by
  rw [callFunction, session_bind]
  cases w.session.functions.get? (Session.globalKey name) with
  | some f => exact invoke_evolves f args w
  | none => exact .refl _ w

-- Every statement of a script starts with the room that the first one had.
theorem execute_all_evolves (statements : List Statement) (w : World σ) :
    Evolves w.session.room w (worldAfter (executeAll statements w)) := by
  induction statements generalizing w with
  | nil => exact .refl _ w
  | cons s rest ih =>
      have first := execute_evolves s w
      refine after_bind (R := Evolves w.session.room) evolves_trans first fun flow v ended => ?_
      rw [ended] at first
      rw [← resumes_room (evolves_resumes first)]
      exact ih v

theorem source_resumes (script : Script) (w : World σ) :
    w.session.Resumes (worldAfter (source script w)).session := by
  have kept := evolves_resumes (execute_all_evolves script.statements (w.opened script.id))
  rw [source, while_sourcing_eq, world_after_closing]
  exact ⟨kept.settings, kept.callStack, congrArg List.tail kept.sourcing, kept.frames⟩

theorem stacks_restored (w : World σ) :
    (∀ s : Statement, w.session.Resumes (worldAfter (execute s w)).session) ∧
    (∀ e : Expr, w.session.Resumes (worldAfter (evaluate e w)).session) ∧
    (∀ (f : DefinedFunction) (args : List Value), w.session.Resumes (worldAfter (invoke f args w)).session) ∧
    (∀ (name : String) (args : List Value), w.session.Resumes (worldAfter (callFunction name args w)).session) ∧
    (∀ script : Script, w.session.Resumes (worldAfter (source script w)).session) := by
  refine ⟨fun s => ?_, fun e => ?_, fun f args => ?_, fun name args => ?_, fun script => ?_⟩
  · exact evolves_resumes (execute_evolves s w)
  · exact evolves_resumes (evaluate_evolves e w)
  · exact evolves_resumes (invoke_evolves f args w)
  · exact evolves_resumes (call_function_evolves name args w)
  · exact source_resumes script w

end ExScript
