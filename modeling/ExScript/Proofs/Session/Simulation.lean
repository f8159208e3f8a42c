import ExScript.Proofs.Session.Stacks

set_option autoImplicit false

namespace ExScript

-- Both fail in the same way, or both go on with sessions that are alike.
def SameEnding (alike : Session → Session → Prop) :
    Except RuntimeError Session → Except RuntimeError Session → Prop
  | .error error, .error error' => error = error'
  | .ok s, .ok t => alike s t
  | _, _ => False

theorem same_ending_cases {alike : Session → Session → Prop} {ended ended' : Except RuntimeError Session}
    (endings : SameEnding alike ended ended') :
    (∃ error, ended = .error error ∧ ended' = .error error) ∨ (∃ s t, ended = .ok s ∧ ended' = .ok t ∧ alike s t) := by
  cases ended with
  | error error =>
      cases ended' with
      | error error' => exact .inl ⟨error, rfl, congrArg Except.error (Eq.symm endings)⟩
      | ok t => exact endings.elim
  | ok s =>
      cases ended' with
      | error error => exact endings.elim
      | ok t => exact .inr ⟨s, t, rfl, rfl, endings⟩

theorem rel_cases {α : Type} {p : α → α → Prop} {a b : Option α} (related : Option.Rel p a b) :
    (a = none ∧ b = none) ∨ ∃ x y, p x y ∧ a = some x ∧ b = some y := by
  cases related with
  | none => exact .inl ⟨rfl, rfl⟩
  | some here => exact .inr ⟨_, _, here, rfl, rfl⟩

-- What counts as alike may depend on a stage, which only grows as frames are added.
structure Simulation where
  rewriting : Rewriting
  Stage : Type
  Before : Stage → Stage → Prop
  Alike : Stage → Session → Session → Prop
  SameFunction : Stage → DefinedFunction → DefinedFunction → Prop
  before_refl : ∀ i, Before i i
  before_trans : ∀ {i j k}, Before i j → Before j k → Before i k
  same_function_mono : ∀ {i j f g}, Before i j → SameFunction i f g → SameFunction j f g
  header : ∀ {i f g}, SameFunction i f g → g.header = f.header
  body : ∀ {i f g}, SameFunction i f g → g.body = f.body.map rewriting.statement
  settings : ∀ {i s t}, Alike i s t → t.settings = s.settings
  depth : ∀ {i s t}, Alike i s t → t.callStack.length = s.callStack.length
  script : ∀ {i s t}, Alike i s t → t.currentScript = s.currentScript
  stored : ∀ {i s t}, Alike i s t → ∀ scope name, t.stored? (s.slot scope) name = s.stored? (s.slot scope) name
  store : ∀ {i s t}, Alike i s t → ∀ scope name value,
    Alike i (s.store (s.slot scope) name value) (t.store (s.slot scope) name value)
  discarded : ∀ {i s t}, Alike i s t → ∀ scope name,
    (t.discard (s.slot scope) name).1 = (s.discard (s.slot scope) name).1
  discard : ∀ {i s t}, Alike i s t → ∀ scope name,
    Alike i (s.discard (s.slot scope) name).2 (t.discard (s.slot scope) name).2
  function : ∀ {i s t}, Alike i s t → ∀ name : FunctionName,
    Option.Rel (SameFunction i) (s.functions.get? (name.key s.currentScript))
      (t.functions.get? (name.key s.currentScript))
  define : ∀ {i s t}, Alike i s t → ∀ header body,
    SameEnding (Alike i) (s.define header body) (t.define header (body.map rewriting.statement))
  delete : ∀ {i s t}, Alike i s t → ∀ bang name, SameEnding (Alike i) (s.delete bang name) (t.delete bang name)
  enter : ∀ {i s t f g}, Alike i s t → SameFunction i f g → ∀ args,
    ∃ j, Before i j ∧ Alike j (s.enter f args) (t.enter g args)
  leave : ∀ {i j s t s' t'}, Alike i s t → Before i j → Alike j s' t' → s.Resumes s'.leave → t.Resumes t'.leave →
    Alike j s'.leave t'.leave

variable {σ : Type}

namespace Simulation

variable (sim : Simulation)

structure AlikeWorlds (i : sim.Stage) (w v : World σ) : Prop where
  session : sim.Alike i w.session v.session
  host : v.host = w.host
  calls : v.calls = w.calls

-- Both end with a value or both with an error, at some later stage at which their worlds are alike.
def Outcome {α : Type} (alike : sim.Stage → World σ → World σ → Prop) (i : sim.Stage)
    (same : sim.Stage → α → α → Prop) :
    Ending σ α → Ending σ α → Prop
  | .ok a w, .ok b v => ∃ j, sim.Before i j ∧ same j a b ∧ alike j w v
  | .error error w, .error error' v => ∃ j, sim.Before i j ∧ error = error' ∧ alike j w v
  | _, _ => False

abbrev SameOutcome {α : Type} := sim.Outcome (σ := σ) (α := α) sim.AlikeWorlds

def Agree {α : Type} (i : sim.Stage) (same : sim.Stage → α → α → Prop) (run run' : Run σ α) : Prop :=
  ∀ w v, sim.AlikeWorlds i w v → sim.SameOutcome i same (run w) (run' v)

end Simulation

variable {sim : Simulation} {i : sim.Stage}

section

variable {α β : Type} {same : sim.Stage → α → α → Prop} {same' : sim.Stage → β → β → Prop}

theorem outcome_cases {alike : sim.Stage → World σ → World σ → Prop}
    {ended ended' : Ending σ α} (outcome : sim.Outcome alike i same ended ended') :
    (∃ a w b v j, ended = .ok a w ∧ ended' = .ok b v ∧ sim.Before i j ∧ same j a b ∧ alike j w v) ∨
    (∃ error w v j, ended = .error error w ∧ ended' = .error error v ∧ sim.Before i j ∧ alike j w v) := by
  cases ended with
  | ok a w =>
      cases ended' with
      | ok b v =>
          obtain ⟨j, later, values, worlds⟩ := outcome
          exact .inl ⟨a, w, b, v, j, rfl, rfl, later, values, worlds⟩
      | error error v => exact outcome.elim
  | error error w =>
      cases ended' with
      | ok b v => exact outcome.elim
      | error error' v =>
          obtain ⟨j, later, rfl, worlds⟩ := outcome
          exact .inr ⟨error, w, v, j, rfl, rfl, later, worlds⟩

theorem same_outcome_ok {a b : α} {w v : World σ} (alikeValues : same i a b) (alike : sim.AlikeWorlds i w v) :
    sim.SameOutcome i same (.ok a w) (.ok b v) :=
  ⟨i, sim.before_refl i, alikeValues, alike⟩

theorem same_outcome_error (error : RuntimeError) {w v : World σ} (alike : sim.AlikeWorlds i w v) :
    sim.SameOutcome (α := α) i same (.error error w) (.error error v) :=
  ⟨i, sim.before_refl i, rfl, alike⟩

theorem same_outcome_later {j : sim.Stage} (later : sim.Before i j)
    {ended ended' : Ending σ α} (outcome : sim.SameOutcome j same ended ended') :
    sim.SameOutcome i same ended ended' := by
  rcases outcome_cases outcome with
    ⟨a, w, b, v, k, rfl, rfl, further, values, alike⟩ | ⟨error, w, v, k, rfl, rfl, further, alike⟩
  · exact ⟨k, sim.before_trans later further, values, alike⟩
  · exact ⟨k, sim.before_trans later further, rfl, alike⟩

theorem agree_pure {a b : α} (values : same i a b) : sim.Agree i same (pure a : Run σ α) (pure b) :=
  fun _ _ alike => same_outcome_ok values alike

theorem agree_throw (error : RuntimeError) : sim.Agree i same (throw error : Run σ α) (throw error) :=
  fun _ _ alike => same_outcome_error error alike

theorem same_outcome_bind {first first' : Run σ α} {next next' : α → Run σ β} {w v : World σ}
    (outcome : sim.SameOutcome i same (first w) (first' v))
    (nextAgrees : ∀ j a b, sim.Before i j → same j a b → sim.Agree j same' (next a) (next' b)) :
    sim.SameOutcome i same' ((first >>= next) w) ((first' >>= next') v) := by
  show sim.SameOutcome i same' (EStateM.bind first next w) (EStateM.bind first' next' v)
  unfold EStateM.bind
  rcases outcome_cases outcome with
    ⟨a, w', b, v', j, ended, ended', later, values, alike⟩ | ⟨error, w', v', j, ended, ended', later, alike⟩
  · rw [ended, ended']
    exact same_outcome_later later (nextAgrees j a b later values w' v' alike)
  · rw [ended, ended']
    exact ⟨j, later, rfl, alike⟩

theorem agree_session {next next' : Session → Run σ α}
    (rest : ∀ w v : World σ, sim.AlikeWorlds i w v →
      sim.SameOutcome i same (next w.session w) (next' v.session v)) :
    sim.Agree i same (session >>= next) (session >>= next') := rest

end

theorem alike_outside {s t : Session} (alike : sim.Alike i s t) : t.callStack.isEmpty = s.callStack.isEmpty := by
  have depth := sim.depth alike
  cases inner : s.callStack <;> cases inner' : t.callStack <;> simp [inner, inner'] at depth ⊢

theorem alike_slot {s t : Session} (alike : sim.Alike i s t) (scope : Option Scope) : t.slot scope = s.slot scope :=
  Session.slot_congr (alike_outside alike) (sim.script alike) scope

theorem alike_undefined {s t : Session} (alike : sim.Alike i s t) (v : Variable) : t.undefined v = s.undefined v :=
  Session.undefined_congr (alike_outside alike) v

theorem alike_room {s t : Session} (alike : sim.Alike i s t) : t.room = s.room := by
  rw [Session.room, Session.room, sim.settings alike, sim.depth alike]

theorem alike_worlds_called {w v : World σ} (alike : sim.AlikeWorlds i w v) (call : HostCall) (host : σ) :
    sim.AlikeWorlds i (w.called call host) (v.called call host) :=
  ⟨alike.session, rfl, congrArg (List.cons call) alike.calls⟩

theorem alike_worlds_session {w v : World σ} (alike : sim.AlikeWorlds i w v) {s t : Session}
    (sessions : sim.Alike i s t) :
    sim.AlikeWorlds i { w with session := s } { v with session := t } :=
  ⟨sessions, alike.host, alike.calls⟩

section

variable [Host σ]

theorem find_variable_agrees (v : Variable) :
    sim.Agree i (fun _ => Eq) (findVariable v : Run σ (Option Value)) (findVariable v) := by
  refine agree_session fun w w' alike => ?_
  rw [alike_slot alike.session]
  have stored := sim.stored alike.session v.scope v.name
  cases kept : w.session.slot v.scope with
  | host scope =>
      show sim.SameOutcome i (fun _ => Eq) (hostRead scope v.name w) (hostRead scope v.name w')
      rw [hostRead, hostRead, alike.host]
      exact same_outcome_ok rfl (alike_worlds_called alike _ _)
  | _ =>
      rw [kept] at stored
      exact same_outcome_ok stored.symm alike

omit [Host σ] in
theorem undefined_agrees {α : Type} (v : Variable) : sim.Agree (α := α) (σ := σ) i (fun _ => Eq)
    (session >>= fun s => throw (s.undefined v)) (session >>= fun s => throw (s.undefined v)) := by
  refine agree_session fun w w' alike => ?_
  rw [alike_undefined alike.session]
  exact same_outcome_error _ alike

omit [Host σ] in
theorem returnable_agrees : sim.Agree i (fun _ => Eq) (returnable : Run σ PUnit) returnable := by
  refine agree_session fun w v alike => ?_
  rw [alike_outside alike.session]
  cases w.session.callStack.isEmpty with
  | true => exact same_outcome_error _ alike
  | false => exact same_outcome_ok rfl alike

omit [Host σ] in
theorem or_refused_agrees (refusal : Option HostError) :
    sim.Agree i (fun _ => Eq) (orRefused refusal : Run σ PUnit) (orRefused refusal) := by
  cases refusal with
  | some error => exact agree_throw _
  | none => exact agree_pure rfl

theorem host_command_agrees (c : HostCommand) :
    sim.Agree i (fun _ => Eq) (hostCommand c : Run σ PUnit) (hostCommand c) := by
  intro w v alike
  rw [hostCommand, hostCommand, alike.host]
  exact or_refused_agrees _ _ _ (alike_worlds_called alike _ _)

theorem show_values_agrees (values : List Value) :
    sim.Agree i (fun _ => Eq) (showValues values : Run σ PUnit) (showValues values) := by
  refine agree_session fun w v alike => ?_
  rw [sim.settings alike.session, hostEcho, hostEcho, alike.host]
  exact same_outcome_ok rfl (alike_worlds_called alike _ _)

theorem write_variable_agrees (v : Variable) (value : Value) :
    sim.Agree i (fun _ => Eq) (writeVariable v value : Run σ PUnit) (writeVariable v value) := by
  refine agree_session fun w w' alike => ?_
  rw [alike_slot alike.session]
  have stored := sim.store alike.session v.scope v.name value
  cases kept : w.session.slot v.scope with
  | argument => exact same_outcome_error _ alike
  | host scope =>
      show sim.SameOutcome i (fun _ => Eq) (hostWrite scope v.name value w) (hostWrite scope v.name value w')
      rw [hostWrite, hostWrite, alike.host]
      exact or_refused_agrees _ _ _ (alike_worlds_called alike _ _)
  | _ =>
      rw [kept] at stored
      exact same_outcome_ok rfl (alike_worlds_session alike stored)

theorem remove_variable_agrees (v : Variable) :
    sim.Agree i (fun _ => Eq) (removeVariable v : Run σ Bool) (removeVariable v) := by
  refine agree_session fun w w' alike => ?_
  rw [alike_slot alike.session]
  have existed := sim.discarded alike.session v.scope v.name
  have discarded := sim.discard alike.session v.scope v.name
  cases kept : w.session.slot v.scope with
  | argument => exact same_outcome_error _ alike
  | host scope =>
      show sim.SameOutcome i (fun _ => Eq) (hostRemove scope v.name w) (hostRemove scope v.name w')
      rw [hostRemove, hostRemove, alike.host]
      exact same_outcome_ok rfl (alike_worlds_called alike _ _)
  | _ =>
      rw [kept] at existed discarded
      exact same_outcome_ok existed.symm (alike_worlds_session alike discarded)

omit [Host σ] in
theorem resolve_agrees (name : FunctionName) :
    sim.Agree i sim.SameFunction (resolve name : Run σ DefinedFunction) (resolve name) := by
  refine agree_session fun w w' alike => ?_
  rw [sim.script alike.session]
  rcases rel_cases (sim.function alike.session name) with ⟨absent, absent'⟩ | ⟨f, g, same, found, found'⟩
  · rw [absent, absent']
    exact same_outcome_error _ alike
  · rw [found, found']
    exact same_outcome_ok same alike

omit [Host σ] in
theorem update_session_agrees {w v : World σ} (alike : sim.AlikeWorlds i w v)
    {updated updated' : Except RuntimeError Session} (endings : SameEnding (sim.Alike i) updated updated') :
    sim.SameOutcome i (fun _ => Eq) (updateSession updated w) (updateSession updated' v) := by
  rcases same_ending_cases endings with ⟨error, rfl, rfl⟩ | ⟨s, t, rfl, rfl, sessions⟩
  · exact same_outcome_error error alike
  · exact same_outcome_ok rfl (alike_worlds_session alike sessions)

end

-- Both bodies leave the stacks as they found them, so leaving the frames brings the callers back. What is
-- known of the callers, `alike`, may be less than what is known inside.
theorem in_frame_outcome {body body' : Run σ Value} (bodyAgrees : ∀ j, sim.Agree j (fun _ => Eq) body body')
    (resumes : ∀ w : World σ, w.session.Resumes (worldAfter (body w)).session)
    (resumes' : ∀ w : World σ, w.session.Resumes (worldAfter (body' w)).session)
    {f g : DefinedFunction} (headers : g.header = f.header) (args : List Value)
    {w v : World σ} {j : sim.Stage} (later : sim.Before i j)
    (entered : sim.AlikeWorlds j (w.entered f args) (v.entered g args))
    {alike : sim.Stage → World σ → World σ → Prop}
    (left : ∀ {k w' v'}, sim.Before i k → sim.AlikeWorlds k w' v' → w.session.Resumes w'.session.leave →
      v.session.Resumes v'.session.leave →
      alike k { w' with session := w'.session.leave } { v' with session := v'.session.leave }) :
    sim.Outcome alike i (fun _ => Eq) (inFrame f args body w) (inFrame g args body' v) := by
  have resumed := resumes_call f args (resumes (w.entered f args))
  have resumed' := resumes_call g args (resumes' (v.entered g args))
  rw [in_frame_eq, in_frame_eq]
  rcases outcome_cases (bodyAgrees j _ _ entered) with
    ⟨value, w', value', v', k, ended, ended', further, values, after⟩ | ⟨error, w', v', k, ended, ended', further, after⟩
  all_goals
    have reached := sim.before_trans later further
    rw [ended] at resumed ⊢
    rw [ended'] at resumed' ⊢
  · exact ⟨k, reached, values, left reached after resumed resumed'⟩
  · refine ⟨k, reached, ?_, left reached after resumed resumed'⟩
    rw [headers]

section

variable [Host σ]

-- Every access keeps worlds alike, so everything that the interpreter makes of them does.
def Simulation.comparison (sim : Simulation) : Comparison σ where
  rewriting := sim.rewriting
  Stage := sim.Stage
  Before := sim.Before
  SameFunction := sim.SameFunction
  Compare := sim.Agree
  same_function_mono := sim.same_function_mono
  pure _ _ := agree_pure rfl
  bind first next w v alike := same_outcome_bind (first w v alike) next
  find _ v := find_variable_agrees v
  undefined _ v := undefined_agrees v
  write _ v x := write_variable_agrees v x
  remove _ v := remove_variable_agrees v
  resolve _ name := resolve_agrees name
  declare _ header body := agree_session fun _ _ alike =>
    update_session_agrees alike (sim.define alike.session header body)
  undeclare _ bang name := agree_session fun _ _ alike =>
    update_session_agrees alike (sim.delete alike.session bang name)
  shown _ values := show_values_agrees values
  returnable _ := returnable_agrees
  command _ c := host_command_agrees c

theorem run_body_resumes (room : Nat) (body : List Statement) (w : World σ) :
    w.session.Resumes (worldAfter (runBody (invokeWithin room) body w)).session :=
  evolves_resumes (run_body_evolves room body w)

variable (sim)

-- The induction is on how many more calls may nest.
theorem invoke_within_agrees (room : Nat) :
    (sim.comparison : Comparison σ).CallsAgree (invokeWithin room) (invokeWithin room) := by
  induction room with
  | zero =>
      intro i f g args functions
      unfold invokeWithin DefinedFunction.refusal?
      rw [sim.header functions]
      split
      · exact agree_throw _
      · refine agree_session fun w v alike => ?_
        rw [sim.settings alike.session]
        exact same_outcome_error _ alike
  | succ room ih =>
      intro i f g args functions
      unfold invokeWithin DefinedFunction.refusal?
      rw [sim.header functions, sim.body functions]
      split
      · exact agree_throw _
      · intro w v alike
        obtain ⟨j, later, entered⟩ := sim.enter alike.session functions args
        refine in_frame_outcome (fun j => run_body_agree ih j f.body) (run_body_resumes room _) (run_body_resumes room _)
          (sim.header functions) args later ⟨entered, alike.host, alike.calls⟩ fun reached after resumed resumed' => ?_
        exact alike_worlds_session after (sim.leave alike.session reached after.session resumed resumed')

theorem execute_agrees (i : sim.Stage) (s : Statement) :
    sim.Agree i (fun _ => Eq) (execute s : Run σ Flow) (execute (sim.rewriting.statement s)) := by
  intro w v alike
  unfold execute
  rw [alike_room alike.session]
  exact execute_with_agree (invoke_within_agrees sim _) i s w v alike

theorem execute_all_agrees (i : sim.Stage) (statements : List Statement) :
    sim.Agree i (fun _ => Eq) (executeAll statements : Run σ PUnit)
      (executeAll (statements.map sim.rewriting.statement)) := by
  induction statements generalizing i with
  | nil => exact agree_pure rfl
  | cons s rest ih =>
      exact fun w v alike => same_outcome_bind (execute_agrees sim i s w v alike) fun j _ _ _ _ => ih j

end

end ExScript
