import ExScript.Proofs.Session.Failure
import ExScript.Proofs.Session.References

set_option autoImplicit false

namespace ExScript

def Statement.isCallFree : Statement → Bool
  | .echo exprs => exprs.all Expr.isCallFree
  | .return e | .assign _ _ e => e.isCallFree
  | .call .. => false
  | .function .. | .unlet .. | .delfunction .. | .command _ => true

-- The call asked the host for something and changed nothing.
def HostCall.isIdle : HostCall → Bool
  | .read .. => true
  | .command _ refusal | .write _ _ _ refusal => refusal.isSome
  | .remove _ _ existed => !existed
  | .echo _ => false

structure Untouched (w w' : World Recorder) : Prop where
  session : w'.session = w.session
  host : w'.host = w.host
  calls : ∃ made, w'.calls = made ++ w.calls ∧ ∀ call ∈ made, call.isIdle = true

section

variable {w w' w'' : World Recorder}

theorem untouched_refl (w : World Recorder) : Untouched w w := ⟨rfl, rfl, [], rfl, by simp⟩

theorem untouched_trans (first : Untouched w w') (second : Untouched w' w'') : Untouched w w'' := by
  obtain ⟨made, calls, idle⟩ := first.calls
  obtain ⟨later, calls', idle'⟩ := second.calls
  refine ⟨second.session.trans first.session, second.host.trans first.host, later ++ made, ?_, ?_⟩
  · rw [calls', calls, List.append_assoc]
  · intro call member
    rcases List.mem_append.mp member with late | early
    · exact idle' call late
    · exact idle call early

theorem untouched_called (w : World Recorder) {call : HostCall} {host : Recorder} (idle : call.isIdle = true)
    (same : host = w.host) : Untouched w (w.called call host) :=
  ⟨rfl, same, [call], rfl, by simpa using idle⟩

end

theorem looked_untouched (w : World Recorder) (v : Variable) : Untouched w (w.looked v) := by
  unfold World.looked
  cases w.session.slot v.scope with
  | host scope => exact untouched_called w rfl rfl
  | _ => exact untouched_refl w

theorem looked_all_untouched (w : World Recorder) (vs : List Variable) : Untouched w (w.lookedAll vs) := by
  induction vs generalizing w with
  | nil => exact untouched_refl w
  | cons v vs ih => exact untouched_trans (looked_untouched w v) (ih (w.looked v))

theorem evaluate_with_untouched (invoke : Invoke Recorder) {e : Expr} (callFree : e.isCallFree = true)
    (w : World Recorder) : Untouched w (worldAfter (evaluateWith invoke e w)) := by
  obtain ⟨x, -, -, ended⟩ | ⟨-, before, v, after, -, -, -, failed⟩ := evaluate_with_reads invoke e callFree w
  · rw [ended]
    exact looked_all_untouched w _
  · rw [failed]
    exact looked_all_untouched w _

theorem evaluate_all_with_untouched (invoke : Invoke Recorder) {es : List Expr}
    (callFree : es.all Expr.isCallFree = true) (w : World Recorder) :
    Untouched w (worldAfter (evaluateAllWith invoke es w)) := by
  induction es generalizing w with
  | nil => exact untouched_refl w
  | cons e es ih =>
      obtain ⟨headFree, tailFree⟩ := Bool.and_eq_true_iff.mp callFree
      rw [evaluateAllWith]
      refine after_bind (R := Untouched) untouched_trans (evaluate_with_untouched invoke headFree w) fun value v _ => ?_
      rw [bind_pure_eq, world_after_mapped]
      exact ih tailFree v

theorem assigned_untouched (target : Variable) (op : AssignOp) (value : Value) (w : World Recorder) :
    Untouched w (worldAfter (assigned target op value w)) := by
  cases op with
  | assign => exact untouched_refl w
  | append =>
      rw [assigned, bind_pure_eq, world_after_mapped, world_after_read_variable]
      exact looked_untouched w target

theorem write_refused {r : Recorder} {scope : Scope} {name : String} {value : Value} {error : HostError}
    (refused : (r.write scope name value).1 = some error) : (r.write scope name value).2 = r := by
  unfold Recorder.write at refused ⊢
  by_cases vim : scope = .vim
  · rw [if_pos vim]
  · rw [if_neg vim] at refused
    cases refused

theorem command_refused {r : Recorder} {c : HostCommand} {error : HostError}
    (refused : (r.command c).1 = some error) : (r.command c).2 = r := by
  unfold Recorder.command at refused ⊢
  cases found : r.refusal? c with
  | some error' => rfl
  | none =>
      rw [found] at refused
      cases refused

section

variable {w w' : World Recorder} {error : RuntimeError}

theorem returnable_untouched (w : World Recorder) : Untouched w (worldAfter (returnable w)) := by
  rw [returnable, session_bind]
  cases w.session.callStack.isEmpty <;> exact untouched_refl w

theorem host_write_untouched {scope : Scope} {name : String} {value : Value}
    (failed : hostWrite scope name value w = .error error w') : Untouched w w' := by
  obtain ⟨cause, refused, -, rfl⟩ := or_refused_error failed
  exact untouched_called w (by simp [HostCall.isIdle, refused]) (write_refused refused)

theorem host_command_untouched {c : HostCommand} (failed : hostCommand c w = .error error w') : Untouched w w' := by
  obtain ⟨cause, refused, -, rfl⟩ := or_refused_error failed
  exact untouched_called w (by simp [HostCall.isIdle, refused]) (command_refused refused)

theorem write_variable_untouched {v : Variable} {value : Value} (failed : writeVariable v value w = .error error w') :
    Untouched w w' := by
  obtain ⟨-, ended⟩ | ⟨scope, -, ended⟩ | ⟨-, -, ended⟩ := write_variable_cases v value w
  · rw [ended] at failed
    cases failed
    exact untouched_refl w
  · rw [ended] at failed
    exact host_write_untouched failed
  · rw [ended] at failed
    cases failed

theorem update_session_untouched {result : Except RuntimeError Session}
    (failed : updateSession result w = .error error w') : Untouched w w' := by
  cases result with
  | ok s => cases failed
  | error cause =>
      cases failed
      exact untouched_refl w

-- Only the last step changes anything, and it does so when it does not fail.
theorem untouched_bind {α β : Type} {first : Run Recorder α} {next : α → Run Recorder β}
    (before : Untouched w (worldAfter (first w))) (after : ∀ a u, next a u = .error error w' → Untouched u w')
    (failed : (first >>= next) w = .error error w') : Untouched w w' := by
  obtain stopped | ⟨a, u, ended, stopped⟩ := bind_error_cases failed
  · rwa [stopped] at before
  · rw [ended] at before
    exact untouched_trans before (after a u stopped)

theorem execute_with_untouched (invoke : Invoke Recorder) {s : Statement} (callFree : s.isCallFree = true)
    (kept : ∀ bang targets, s ≠ .unlet bang targets) (failed : executeWith invoke s w = .error error w') :
    Untouched w w' := by
  cases s with
  | function header body =>
      rw [execute_with_function, bind_pure_eq] at failed
      exact update_session_untouched (mapped_eq_error failed)
  | echo exprs =>
      rw [execute_with_echo] at failed
      refine untouched_bind (evaluate_all_with_untouched invoke callFree w) (fun values u stopped => ?_) failed
      cases stopped
  | «return» e =>
      rw [execute_with_return] at failed
      refine untouched_bind (returnable_untouched w) (fun _ u stopped => ?_) failed
      have evaluated := evaluate_with_untouched invoke callFree u
      rw [bind_pure_eq] at stopped
      rwa [mapped_eq_error stopped] at evaluated
  | assign target op e =>
      refine untouched_bind (evaluate_with_untouched invoke callFree w) (fun value u stopped => ?_) failed
      refine untouched_bind (assigned_untouched target op value u) (fun value' u' stopped => ?_) stopped
      rw [bind_pure_eq] at stopped
      exact write_variable_untouched (mapped_eq_error stopped)
  | unlet bang targets => exact absurd rfl (kept bang targets)
  | call range name args => cases callFree
  | delfunction bang name =>
      rw [execute_with_delfunction, bind_pure_eq] at failed
      exact update_session_untouched (mapped_eq_error failed)
  | command c =>
      rw [executeWith, bind_pure_eq] at failed
      exact host_command_untouched (mapped_eq_error failed)

end

-- Of each store: removing tells whether there was something to read, and if not, changes nothing.
theorem taken_existed {α : Type} (held : Bool) (without kept : α) :
    (if held = true then (true, without) else (false, kept)).1 = held ∧
      ((if held = true then (true, without) else (false, kept)).1 = false →
        (if held = true then (true, without) else (false, kept)).2 = kept) := by
  cases held <;> simp

theorem remove_local_existed (f : CallFrame) (h : Heap) (name : String) :
    (f.removeLocal h name).1 = (f.local? h name).isSome ∧
      ((f.removeLocal h name).1 = false → (f.removeLocal h name).2 = h) := by
  unfold CallFrame.removeLocal CallFrame.local? Table.contains
  cases (h.read f.locals).get? name with
  | some value => simp
  | none =>
      cases f.captured with
      | none => simp
      | some outer => exact taken_existed _ _ _

theorem discard_existed (s : Session) (slot : Slot) (name : String) (removable : slot ≠ .argument) :
    (s.discard slot name).1 = (s.stored? slot name).isSome ∧
      ((s.discard slot name).1 = false → (s.discard slot name).2 = s) := by
  cases slot with
  | global => exact taken_existed _ _ _
  | script id => exact taken_existed _ _ _
  | argument => exact absurd rfl removable
  | function =>
      obtain ⟨settings, globals, namespaces, functions, callStack, sourcing, heap⟩ := s
      cases callStack with
      | nil => exact ⟨rfl, fun _ => rfl⟩
      | cons frame frames =>
          obtain ⟨existed, same⟩ := remove_local_existed frame heap name
          refine ⟨existed, fun missing => ?_⟩
          exact congrArg (Session.mk settings globals namespaces functions (frame :: frames) sourcing) (same missing)
  | host scope => exact ⟨rfl, fun _ => rfl⟩

theorem remove_existed (r : Recorder) (scope : Scope) (name : String) :
    (r.remove scope name).1 = (r.read scope name).isSome ∧
      ((r.remove scope name).1 = false → (r.remove scope name).2 = r) := taken_existed _ _ _

def World.state (w : World Recorder) : Session × Recorder := (w.session, w.host)

def withoutVariable (state : Session × Recorder) (v : Variable) : Session × Recorder :=
  match state.1.slot v.scope with
  | .host scope => (state.1, (state.2.remove scope v.name).2)
  | slot => ((state.1.discard slot v.name).2, state.2)

theorem without_variable_host {w : World Recorder} {v : Variable} {scope : Scope}
    (kept : w.session.slot v.scope = .host scope) :
    withoutVariable w.state v = (w.session, (w.host.remove scope v.name).2) := by
  unfold withoutVariable World.state
  dsimp only
  rw [kept]

theorem without_variable_own {w : World Recorder} {v : Variable} (own : ∀ scope, w.session.slot v.scope ≠ .host scope) :
    withoutVariable w.state v = ((w.session.discard (w.session.slot v.scope) v.name).2, w.host) := by
  unfold withoutVariable World.state
  dsimp only
  cases kept : w.session.slot v.scope with
  | host scope => exact absurd kept (own scope)
  | _ => rfl

-- Why a target of `unlet` stops it: an argument, or without a bang a variable that cannot be read either.
inductive Unremovable (bang : Bool) (v : Variable) (w : World Recorder) : RuntimeError → Prop
  | readOnly (argument : v.scope = some .argument) : Unremovable bang v w (.readOnlyVariable v.text)
  | missing {error : RuntimeError} {w' : World Recorder} (strict : bang = false)
      (unread : readVariable v w = .error error w') : Unremovable bang v w error

theorem eq_none_of_existed {α : Type} {existed : Bool} {found : Option α} (same : existed = found.isSome)
    (missing : existed = false) : found = none := by
  rw [missing] at same
  exact Option.not_isSome_iff_eq_none.mp (Bool.eq_false_iff.mp same.symm)

theorem remove_variable_run (v : Variable) (w : World Recorder) :
    (v.scope = some .argument ∧ removeVariable v w = .error (.readOnlyVariable v.text) w) ∨
      ∃ existed w', removeVariable v w = .ok existed w' ∧ w'.state = withoutVariable w.state v ∧
        (existed = false → Untouched w w' ∧ w.value? v = none) := by
  obtain argument | ⟨scope, kept, ended⟩ | ⟨own, inside, ended⟩ := remove_variable_cases v w
  · exact .inl argument
  · obtain ⟨existed, same⟩ := remove_existed w.host scope v.name
    refine .inr ⟨(w.host.remove scope v.name).1, _, ended, (without_variable_host kept).symm, fun missing => ⟨?_, ?_⟩⟩
    · exact untouched_called w (congrArg Bool.not missing) (same missing)
    · rw [World.value?, kept]
      exact eq_none_of_existed existed missing
  · obtain ⟨existed, same⟩ := discard_existed w.session (w.session.slot v.scope) v.name inside
    refine .inr ⟨_, _, ended, ?_, fun missing => ⟨⟨same missing, rfl, [], rfl, by simp⟩, ?_⟩⟩
    · exact (without_variable_own own).symm
    · rw [World.value?, held?_own own]
      exact eq_none_of_existed existed missing

theorem remove_target_run (bang : Bool) (v : Variable) (w : World Recorder) :
    (∃ w', removeTarget bang v w = .ok ⟨⟩ w' ∧ w'.state = withoutVariable w.state v) ∨
      ∃ error w', removeTarget bang v w = .error error w' ∧ Untouched w w' ∧ Unremovable bang v w error := by
  unfold removeTarget
  obtain ⟨argument, failed⟩ | ⟨existed, w', removed, state, missing⟩ := remove_variable_run v w
  · exact .inr ⟨_, w, bind_of_error failed _, untouched_refl w, .readOnly argument⟩
  · rw [bind_of_ok removed]
    by_cases goesOn : (existed || bang) = true
    · rw [if_pos goesOn]
      exact .inl ⟨w', rfl, state⟩
    · rw [if_neg goesOn]
      obtain ⟨absent, strict⟩ := Bool.or_eq_false_iff.mp (Bool.eq_false_iff.mpr goesOn)
      obtain ⟨untouched, unset⟩ := missing absent
      have unread := read_variable_of_none unset
      rw [← untouched.session] at unread
      exact .inr ⟨_, w', rfl, untouched, .missing strict unread⟩

-- The induction is on the targets; each starts from the state that the ones before it left.
theorem remove_variables_stops {bang : Bool} {targets : List Variable} {w w' : World Recorder} {error : RuntimeError}
    (failed : removeVariables bang targets w = .error error w') :
    ∃ before v after u, targets = before ++ v :: after ∧ removeVariables bang before w = .ok ⟨⟩ u ∧
      u.state = before.foldl withoutVariable w.state ∧ Untouched u w' ∧ Unremovable bang v u error := by
  induction targets generalizing w with
  | nil => cases failed
  | cons target targets ih =>
      rw [remove_variables_cons] at failed
      rcases remove_target_run bang target w with ⟨u, removed, state⟩ | ⟨cause, u, stopped, untouched, reason⟩
      · rw [bind_of_ok removed] at failed
        obtain ⟨before, v, after, u', rfl, ended, states, untouched, reason⟩ := ih failed
        refine ⟨target :: before, v, after, u', rfl, ?_, ?_, untouched, reason⟩
        · rw [remove_variables_cons, bind_of_ok removed, ended]
        · rw [states, state]
          rfl
      · rw [bind_of_error stopped] at failed
        cases failed
        exact ⟨[], target, targets, w, rfl, rfl, rfl, untouched, reason⟩

theorem failing_statement_changes_nothing (s : Statement) (w w' : World Recorder) (error : RuntimeError)
    (failed : execute s w = .error error w') :
    (s.isCallFree = true → (∀ bang targets, s ≠ .unlet bang targets) → Untouched w w') ∧
    ∀ bang targets, s = .unlet bang targets →
      ∃ before v after u, targets = before ++ v :: after ∧ execute (.unlet bang before) w = .ok .next u ∧
        u.state = before.foldl withoutVariable w.state ∧ Untouched u w' ∧ Unremovable bang v u error := by
  refine ⟨fun callFree other => execute_with_untouched _ callFree other failed, ?_⟩
  rintro bang targets rfl
  have ended : mapped (fun _ => Flow.next) (removeVariables bang targets w) = .error error w' :=
    (bind_pure_eq _ _ w).symm.trans failed
  obtain ⟨before, v, after, u, rfl, removed, state, untouched, reason⟩ := remove_variables_stops (mapped_eq_error ended)
  exact ⟨before, v, after, u, rfl, bind_of_ok removed _, state, untouched, reason⟩

-- The second operand of the `echo` is missing, and so is the third target of the `unlet`.
theorem settled_world_failures :
    (∃ w', execute (.echo [.variable ⟨some .buffer, "y"⟩, .variable ⟨none, "z"⟩]) settledWorld =
        .error (.undefinedVariable .global "z") w' ∧ Untouched settledWorld w') ∧
    ∃ w', execute (.unlet false [⟨none, "x"⟩, ⟨some .buffer, "y"⟩, ⟨none, "z"⟩, ⟨none, "x"⟩]) settledWorld =
        .error (.undefinedVariable .global "z") w' ∧
      ∃ before v after u, [⟨none, "x"⟩, ⟨some .buffer, "y"⟩, ⟨none, "z"⟩, ⟨none, "x"⟩] = before ++ v :: after ∧
        execute (.unlet false before) settledWorld = .ok .next u ∧
        u.state = before.foldl withoutVariable settledWorld.state ∧ Untouched u w' ∧
        Unremovable false v u (.undefinedVariable .global "z") := by
  refine ⟨⟨_, rfl, ?_⟩, ⟨_, rfl, ?_⟩⟩
  · have quiet := failing_statement_changes_nothing (.echo [.variable ⟨some .buffer, "y"⟩, .variable ⟨none, "z"⟩])
      settledWorld _ _ rfl
    exact quiet.1 rfl (by simp)
  · exact (failing_statement_changes_nothing (.unlet false _) settledWorld _ _ rfl).2 _ _ rfl

end ExScript
