import ExScript.Proofs.Session.Evolution

set_option autoImplicit false

namespace ExScript

variable {σ : Type} [Host σ]

namespace World

def held? (w : World σ) : Slot → String → Option Value
  | .host scope, name => Host.read w.host scope name
  | slot, name => w.session.stored? slot name

def value? (w : World σ) (v : Variable) : Option Value := w.held? (w.session.slot v.scope) v.name

-- The world after looking a variable up: the host was asked for it if it keeps it.
def looked (w : World σ) (v : Variable) : World σ :=
  match w.session.slot v.scope with
  | .host scope => w.called (.read scope v.name (Host.read w.host scope v.name)) w.host
  | _ => w

end World

theorem held?_own {slot : Slot} (own : ∀ scope, slot ≠ .host scope) (w : World σ) (name : String) :
    w.held? slot name = w.session.stored? slot name := by
  cases slot with
  | host scope => exact absurd rfl (own scope)
  | _ => rfl

@[simp]
theorem looked_session (w : World σ) (v : Variable) : (w.looked v).session = w.session := by
  unfold World.looked
  cases w.session.slot v.scope <;> rfl

@[simp]
theorem looked_host (w : World σ) (v : Variable) : (w.looked v).host = w.host := by
  unfold World.looked
  cases w.session.slot v.scope <;> rfl

theorem looked_evolves (room : Nat) (w : World σ) (v : Variable) : Evolves room w (w.looked v) := by
  unfold World.looked
  cases kept : w.session.slot v.scope with
  | host scope => exact evolves_of_step (.read w v scope kept)
  | _ => exact .refl room w

theorem find_variable_eq (v : Variable) (w : World σ) : findVariable v w = .ok (w.value? v) (w.looked v) := by
  rw [findVariable, session_bind]
  unfold World.value? World.held? World.looked
  cases w.session.slot v.scope <;> rfl

section

variable {v : Variable} {w : World σ}

theorem read_variable_of_some {x : Value} (found : w.value? v = some x) : readVariable v w = .ok x (w.looked v) := by
  rw [readVariable, bind_of_ok (find_variable_eq v w), found]
  rfl

theorem read_variable_of_none (missing : w.value? v = none) :
    readVariable v w = .error (w.session.undefined v) (w.looked v) := by
  rw [readVariable, bind_of_ok (find_variable_eq v w), missing, ← looked_session w v]
  rfl

theorem read_variable_error {w' : World σ} {error : RuntimeError} (failed : readVariable v w = .error error w') :
    w.value? v = none ∧ error = w.session.undefined v := by
  cases found : w.value? v with
  | some x =>
      rw [read_variable_of_some found] at failed
      cases failed
  | none =>
      rw [read_variable_of_none found] at failed
      cases failed
      exact ⟨rfl, rfl⟩

@[simp]
theorem world_after_read_variable (v : Variable) (w : World σ) : worldAfter (readVariable v w) = w.looked v := by
  cases found : w.value? v with
  | some x => rw [read_variable_of_some found, worldAfter]
  | none => rw [read_variable_of_none found, worldAfter]

end

theorem slot_argument {s : Session} {scope : Option Scope} (slot : s.slot scope = .argument) :
    scope = some .argument := by
  unfold Session.slot at slot
  split at slot <;> try cases slot
  · rfl
  all_goals split at slot <;> cases slot

-- Arguments are refused; the host is asked for what it keeps, and the session keeps the rest.
theorem write_variable_cases (v : Variable) (x : Value) (w : World σ) :
    (v.scope = some .argument ∧ writeVariable v x w = .error (.readOnlyVariable v.text) w) ∨
    (∃ scope, w.session.slot v.scope = .host scope ∧ writeVariable v x w = hostWrite scope v.name x w) ∨
    ((∀ scope, w.session.slot v.scope ≠ .host scope) ∧ w.session.slot v.scope ≠ .argument ∧
      writeVariable v x w = .ok ⟨⟩ { w with session := w.session.store (w.session.slot v.scope) v.name x }) := by
  rw [writeVariable, session_bind]
  cases kept : w.session.slot v.scope with
  | argument => exact .inl ⟨slot_argument kept, rfl⟩
  | host scope => exact .inr (.inl ⟨scope, rfl, rfl⟩)
  | _ => exact .inr (.inr ⟨by simp, by simp, rfl⟩)

theorem remove_variable_cases (v : Variable) (w : World σ) :
    (v.scope = some .argument ∧ removeVariable v w = .error (.readOnlyVariable v.text) w) ∨
    (∃ scope, w.session.slot v.scope = .host scope ∧ removeVariable v w = hostRemove scope v.name w) ∨
    ((∀ scope, w.session.slot v.scope ≠ .host scope) ∧ w.session.slot v.scope ≠ .argument ∧
      removeVariable v w = .ok (w.session.discard (w.session.slot v.scope) v.name).1
        { w with session := (w.session.discard (w.session.slot v.scope) v.name).2 }) := by
  rw [removeVariable, session_bind]
  cases kept : w.session.slot v.scope with
  | argument => exact .inl ⟨slot_argument kept, rfl⟩
  | host scope => exact .inr (.inl ⟨scope, rfl, rfl⟩)
  | _ => exact .inr (.inr ⟨by simp, by simp, rfl⟩)

def removeTarget (bang : Bool) (target : Variable) : Run σ PUnit := do
  let existed ← removeVariable target
  if existed || bang then return ⟨⟩
  else throw ((← session).undefined target)

theorem remove_variables_cons (bang : Bool) (target : Variable) (targets : List Variable) :
    (removeVariables bang (target :: targets) : Run σ PUnit) =
      removeTarget bang target >>= fun _ => removeVariables bang targets := by
  simp only [removeVariables, removeTarget, bind_assoc]
  refine congrArg (removeVariable target >>= ·) (funext fun existed => ?_)
  cases existed || bang <;> rfl

omit [Host σ] in
theorem or_refused_world (refusal : Option HostError) (w : World σ) : worldAfter (orRefused refusal w) = w := by
  cases refusal <;> rfl

theorem store_functions (s : Session) (slot : Slot) (name : String) (value : Value) :
    (s.store slot name value).functions = s.functions := by
  cases slot with
  | function => dsimp only [Session.store]; split <;> rfl
  | _ => rfl

theorem discard_functions (s : Session) (slot : Slot) (name : String) :
    (s.discard slot name).2.functions = s.functions := by
  cases slot with
  | argument => rfl
  | host scope => rfl
  | _ => dsimp only [Session.discard]; split <;> rfl

def RuntimeError.isAccess : RuntimeError → Bool
  | .undefinedVariable .. | .readOnlyVariable _ | .host _ => true
  | _ => false

-- The computation accesses variables and the host and does nothing else.
structure Accessing {α : Type} (run : Run σ α) : Prop where
  evolves : ∀ room w, Evolves room w (worldAfter (run w))
  functions : ∀ w, (worldAfter (run w)).session.functions = w.session.functions
  fails : ∀ w error v, run w = .error error v → error.isAccess = true

section

variable {α β : Type}

theorem accessing_pure (a : α) : Accessing (pure a : Run σ α) :=
  ⟨fun room w => .refl room w, fun _ => rfl, fun _ _ _ failed => nomatch failed⟩

theorem accessing_undefined (v : Variable) :
    Accessing (session >>= fun s => throw (s.undefined v) : Run σ α) := by
  refine ⟨fun room w => .refl room w, fun _ => rfl, fun w error v' failed => ?_⟩
  cases failed
  rfl

theorem accessing_bind {first : Run σ α} {next : α → Run σ β} (before : Accessing first)
    (after : ∀ a, Accessing (next a)) : Accessing (first >>= next) := by
  refine ⟨fun room w => ?_, fun w => ?_, fun w error v failed => ?_⟩
  · exact after_bind (R := Evolves room) evolves_trans (before.evolves room w) fun a v _ => (after a).evolves room v
  · exact after_bind (R := fun u v => v.session.functions = u.session.functions) (fun one two => two.trans one)
      (before.functions w) fun a v _ => (after a).functions v
  · obtain stopped | ⟨a, u, -, stopped⟩ := bind_error_cases failed
    · exact before.fails w error v stopped
    · exact (after a).fails u error v stopped

theorem accessing_map {first : Run σ α} (accessing : Accessing first) (f : α → β) :
    Accessing (first >>= fun a => pure (f a)) := accessing_bind accessing fun a => accessing_pure (f a)

end

theorem find_variable_accesses (v : Variable) : Accessing (findVariable v : Run σ (Option Value)) := by
  refine ⟨fun room w => ?_, fun w => ?_, fun w error v' failed => ?_⟩
  · rw [find_variable_eq]
    exact looked_evolves room w v
  · simp [find_variable_eq, worldAfter]
  · rw [find_variable_eq] at failed
    cases failed

theorem read_variable_accesses (v : Variable) : Accessing (readVariable v : Run σ Value) := by
  refine accessing_bind (find_variable_accesses v) fun found => ?_
  cases found with
  | some value => exact accessing_pure value
  | none => exact accessing_undefined v

theorem assigned_accesses (target : Variable) (op : AssignOp) (value : Value) :
    Accessing (assigned target op value : Run σ Value) := by
  cases op with
  | assign => exact accessing_pure value
  | append => exact accessing_map (read_variable_accesses target) _

omit [Host σ] in
theorem or_refused_error {refusal : Option HostError} {w v : World σ} {error : RuntimeError}
    (failed : orRefused refusal w = .error error v) : ∃ cause, refusal = some cause ∧ error = .host cause ∧ v = w := by
  cases refusal with
  | none => cases failed
  | some cause =>
      cases failed
      exact ⟨cause, rfl, rfl, rfl⟩

theorem host_command_accesses (c : HostCommand) : Accessing (hostCommand c : Run σ PUnit) := by
  refine ⟨fun room w => ?_, fun w => ?_, fun w error v failed => ?_⟩
  · rw [hostCommand, or_refused_world]
    exact evolves_of_step (.command w c)
  · rw [hostCommand, or_refused_world]
    rfl
  · obtain ⟨cause, -, rfl, -⟩ := or_refused_error failed
    rfl

theorem write_variable_error {v : Variable} {x : Value} {w w' : World σ} {error : RuntimeError}
    (failed : writeVariable v x w = .error error w') :
    error = .readOnlyVariable v.text ∨ ∃ cause, error = .host cause := by
  obtain ⟨-, ended⟩ | ⟨scope, -, ended⟩ | ⟨-, -, ended⟩ := write_variable_cases v x w
  · rw [ended] at failed
    cases failed
    exact .inl rfl
  · rw [ended] at failed
    obtain ⟨cause, -, rfl, -⟩ := or_refused_error failed
    exact .inr ⟨cause, rfl⟩
  · rw [ended] at failed
    cases failed

theorem write_variable_accesses (v : Variable) (x : Value) : Accessing (writeVariable v x : Run σ PUnit) := by
  refine ⟨fun room w => ?_, fun w => ?_, fun w error v' failed => ?_⟩
  · obtain ⟨-, ended⟩ | ⟨scope, kept, ended⟩ | ⟨-, -, ended⟩ := write_variable_cases v x w
    · rw [ended]
      exact .refl room w
    · rw [ended, hostWrite, or_refused_world]
      exact evolves_of_step (.write w v scope x kept)
    · rw [ended]
      exact evolves_of_step (.store w v x)
  · obtain ⟨-, ended⟩ | ⟨scope, kept, ended⟩ | ⟨-, -, ended⟩ := write_variable_cases v x w
    · rw [ended, worldAfter]
    · rw [ended, hostWrite, or_refused_world]
      rfl
    · rw [ended]
      exact store_functions _ _ _ _
  · obtain rfl | ⟨cause, rfl⟩ := write_variable_error failed <;> rfl

theorem remove_variable_error {v : Variable} {w w' : World σ} {error : RuntimeError}
    (failed : removeVariable v w = .error error w') : error = .readOnlyVariable v.text := by
  obtain ⟨-, ended⟩ | ⟨scope, -, ended⟩ | ⟨-, -, ended⟩ := remove_variable_cases v w
  all_goals
    rw [ended] at failed
    cases failed
  rfl

theorem remove_variable_accesses (v : Variable) : Accessing (removeVariable v : Run σ Bool) := by
  refine ⟨fun room w => ?_, fun w => ?_, fun w error v' failed => ?_⟩
  · obtain ⟨-, ended⟩ | ⟨scope, kept, ended⟩ | ⟨-, -, ended⟩ := remove_variable_cases v w <;> rw [ended]
    · exact .refl room w
    · exact evolves_of_step (.remove w v scope kept)
    · exact evolves_of_step (.discard w v)
  · obtain ⟨-, ended⟩ | ⟨scope, kept, ended⟩ | ⟨-, -, ended⟩ := remove_variable_cases v w <;> rw [ended]
    · rfl
    · rfl
    · exact discard_functions _ _ _
  · rw [remove_variable_error failed]
    rfl

theorem remove_target_accesses (bang : Bool) (target : Variable) :
    Accessing (removeTarget bang target : Run σ PUnit) := by
  refine accessing_bind (remove_variable_accesses target) fun existed => ?_
  cases existed || bang with
  | true => exact accessing_pure _
  | false => exact accessing_undefined target

theorem remove_variables_accesses (bang : Bool) (targets : List Variable) :
    Accessing (removeVariables bang targets : Run σ PUnit) := by
  induction targets with
  | nil => exact accessing_pure _
  | cons target targets ih =>
      rw [remove_variables_cons]
      exact accessing_bind (remove_target_accesses bang target) fun _ => ih

theorem store_accesses (target : Variable) (op : AssignOp) (value : Value) :
    Accessing (assigned target op value >>= writeVariable target : Run σ PUnit) :=
  accessing_bind (assigned_accesses target op value) (write_variable_accesses target)

end ExScript
