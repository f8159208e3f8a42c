import ExScript.Proofs.Session.Atomicity
import ExScript.Script.Parser

set_option autoImplicit false

namespace ExScript

-- A task that fails makes every task fail that came to it, and calls on the way only wrap its error.
section

variable {σ : Type} [Host σ] {t t' : Task} {w w' v : World σ} {error : RuntimeError}

theorem starts_fails (started : Starts t w t' w') (failed : t'.run w' = .error error v) :
    ∃ error' v', t.run w = .error error' v' ∧ error'.root = error.root := by
  cases started with
  | left l r w => exact ⟨error, v, by rw [run_concat, bind_of_error failed], rfl⟩
  | right l r ended => exact ⟨error, v, by rw [run_concat, bind_of_ok ended, bind_of_error failed], rfl⟩
  | arguments args found =>
      exact ⟨error, v, by rw [run_call, bind_of_ok (resolve_found found), bind_of_error failed], rfl⟩
  | callee found ended =>
      exact ⟨error, v, by rw [run_call, bind_of_ok (resolve_found found), bind_of_ok ended, failed], rfl⟩
  | head e es w => exact ⟨error, v, by rw [run_arguments, bind_of_error failed], rfl⟩
  | tail e es ended => exact ⟨error, v, by rw [run_arguments, bind_of_ok ended, bind_of_error failed], rfl⟩
  | @enter f args w accepted below =>
      refine ⟨.inFunction f.header.name.text error, { v with session := v.session.leave }, ?_, rfl⟩
      have inside : runBody invoke f.body (w.entered f args) = .error error v := failed
      rw [Task.run, invoke_in_frame accepted below, in_frame_eq, inside, leaving]
  | first s rest w => exact ⟨error, v, by rw [run_body, bind_of_error failed], rfl⟩
  | next s rest ended =>
      refine ⟨error, v, ?_, rfl⟩
      rw [run_body, bind_of_ok ended]
      exact failed
  | shown exprs w => exact ⟨error, v, by rw [run_echo, bind_of_error failed], rfl⟩
  | «show» ended => exact ⟨error, v, by rw [run_echo, bind_of_ok ended, bind_of_error failed], rfl⟩
  | result e inside =>
      exact ⟨error, v, by rw [run_return, if_neg (by simp [inside]), failed, mapped], rfl⟩
  | stored target op e w => exact ⟨error, v, by rw [run_assign, bind_of_error failed], rfl⟩
  | store target op ended => exact ⟨error, v, by rw [run_assign, bind_of_ok ended, bind_of_error failed], rfl⟩
  | unlet bang targets w => exact ⟨error, v, by rw [run_unlet, bind_of_error failed], rfl⟩
  | firstTarget bang target targets w => exact ⟨error, v, by rw [run_targets, bind_of_error failed], rfl⟩
  | nextTarget targets ended => exact ⟨error, v, by rw [run_targets, bind_of_ok ended, failed], rfl⟩
  | called range name args w => exact ⟨error, v, by rw [run_calls, bind_of_error failed], rfl⟩
  | firstTop s rest w => exact ⟨error, v, by rw [run_script, bind_of_error failed], rfl⟩
  | nextTop s rest ended => exact ⟨error, v, by rw [run_script, bind_of_ok ended, failed], rfl⟩
  | opened script w =>
      have inside : executeAll script.statements (w.opened script.id) = .error error v := failed
      exact ⟨error, v.closed, by rw [Task.run, source, while_sourcing_eq, inside, closing], rfl⟩
  | named args found => exact ⟨error, v, by rw [run_named args found, failed], rfl⟩

theorem visits_fails (visited : Visits t w t' w') (failed : t'.run w' = .error error v) :
    ∃ error' v', t.run w = .error error' v' ∧ error'.root = error.root := by
  induction visited generalizing v with
  | here t w => exact ⟨error, v, failed, rfl⟩
  | inside started rest ih =>
      obtain ⟨cause, v', inner, same⟩ := ih failed
      obtain ⟨error', v'', outer, root⟩ := starts_fails started inner
      exact ⟨error', v'', outer, root.trans same⟩

end

def VimSince (start w : World Recorder) : Prop :=
  ∃ made, w.calls = made ++ start.calls ∧
    (∀ name, w.host.read .vim name =
      if .remove .vim name true ∈ made then none else start.host.read .vim name) ∧
    ∀ name value refusal, .write .vim name value refusal ∈ made → refusal = some (.readOnlyVariable ("v:" ++ name))

section

variable {start w w' : World Recorder}

theorem vim_since_refl (w : World Recorder) : VimSince w w :=
  ⟨[], rfl, fun name => by simp, by simp⟩

theorem vim_since_session (since : VimSince start w) (s : Session) : VimSince start { w with session := s } := since

theorem vim_since_called {call : HostCall} {host : Recorder} (since : VimSince start w)
    (reads : ∀ name, host.read .vim name = if call = .remove .vim name true then none else w.host.read .vim name)
    (writes : ∀ name value refusal, call = .write .vim name value refusal →
      refusal = some (.readOnlyVariable ("v:" ++ name))) : VimSince start (w.called call host) := by
  obtain ⟨made, calls, kept, refused⟩ := since
  refine ⟨call :: made, congrArg (List.cons call) calls, fun name => ?_, fun name value refusal member => ?_⟩
  · have after : (w.called call host).host.read .vim name = host.read .vim name := rfl
    rw [after, reads]
    by_cases removed : call = .remove .vim name true
    · rw [if_pos removed, if_pos (by simp [removed])]
    · rw [if_neg removed, kept]
      simp only [List.mem_cons, Ne.symm removed, false_or]
  · rcases List.mem_cons.mp member with here | before
    · exact writes name value refusal here.symm
    · exact refused name value refusal before

end

section

variable (r : Recorder)

theorem write_keeps_vim (scope : Scope) (other : String) (value : Value) (name : String) :
    (r.write scope other value).2.read .vim name = r.read .vim name := by
  rw [r.read_write, if_neg]
  rintro ⟨different, same⟩
  exact different (congrArg Prod.fst same).symm

theorem remove_takes_vim (scope : Scope) (other name : String) : (r.remove scope other).2.read .vim name =
    if HostCall.remove scope other (r.remove scope other).1 = .remove .vim name true then none
    else r.read .vim name := by
  rw [r.read_remove, (remove_existed r scope other).1]
  by_cases same : (Scope.vim, name) = (scope, other)
  · cases same
    cases held : r.read .vim other <;> simp
  · have different : HostCall.remove scope other (r.read scope other).isSome ≠ .remove .vim name true := by
      intro call
      injection call with scopes names
      exact same (by rw [scopes, names])
    rw [if_neg same, if_neg different]

end

theorem step_vim_since {start w w' : World Recorder} (step : Step w w') (since : VimSince start w) :
    VimSince start w' := by
  cases step with
  | echo message => exact vim_since_called since (fun name => by rw [if_neg (by simp)]; rfl) (by simp)
  | command c =>
      refine vim_since_called since (fun name => ?_) (by simp)
      rw [if_neg (by simp)]
      exact w.host.read_command c .vim name
  | read v scope kept => exact vim_since_called since (fun name => by rw [if_neg (by simp)]) (by simp)
  | write v scope value kept =>
      refine vim_since_called since (fun name => ?_) fun name value' refusal same => ?_
      · rw [if_neg (by simp)]
        exact write_keeps_vim w.host scope v.name value name
      · cases same
        rfl
  | remove v scope kept =>
      exact vim_since_called since (fun name => remove_takes_vim w.host scope v.name name) (by simp)
  | store v value => exact vim_since_session since _
  | discard v => exact vim_since_session since _
  | define header body s filed => exact vim_since_session since s
  | delete bang name s deleted => exact vim_since_session since s

def vimInvariant (start : World Recorder) : Invariant Recorder where
  Holds := VimSince start
  Fits _ _ := True
  starts _ _ _ := trivial
  leaf leaf since _ := evolves_steps step_vim_since (leaf_evolves leaf _) rfl since
  enter since _ _ := vim_since_session since _
  leave _ since _ := vim_since_session since _
  opened _ since := vim_since_session since _
  closed since := vim_since_session since _

-- The world after several tasks, each of which starts in the world that the one before it left, failed or not.
def worldAfterAll {σ : Type} [Host σ] (w : World σ) : List Task → World σ
  | [] => w
  | t :: tasks => worldAfterAll (worldAfter (t.run w)) tasks

theorem world_after_all_vim_since {start w : World Recorder} (tasks : List Task) (since : VimSince start w) :
    VimSince start (worldAfterAll w tasks) := by
  induction tasks generalizing w with
  | nil => exact since
  | cons t tasks ih => exact ih (run_holds (vimInvariant start) t since trivial)

-- An assignment that first reads the variable fails already if there is none.
theorem store_vim_fails (name : String) (op : AssignOp) (value : Value) (w : World Recorder) :
    ∃ error v, (Task.store ⟨some .vim, name⟩ op value).run w = .error error v ∧
      (error = .host (.readOnlyVariable ("v:" ++ name)) ∨
        op = .append ∧ w.host.read .vim name = none ∧ error = .undefinedVariable .vim name) := by
  have refused : ∀ value' (v : World Recorder), ∃ v', writeVariable ⟨some .vim, name⟩ value' v =
      .error (.host (.readOnlyVariable ("v:" ++ name))) v' := fun value' v => ⟨_, rfl⟩
  cases op with
  | assign =>
      obtain ⟨v, fails⟩ := refused value w
      exact ⟨_, v, fails, .inl rfl⟩
  | append =>
      have looked : findVariable ⟨some .vim, name⟩ w =
          .ok (w.host.read .vim name) (w.called (.read .vim name (w.host.read .vim name)) w.host) := rfl
      cases found : w.host.read .vim name with
      | none =>
          rw [found] at looked
          have missing : readVariable ⟨some .vim, name⟩ w =
              .error (.undefinedVariable .vim name) (w.called (.read .vim name none) w.host) := bind_of_ok looked _
          have stops := bind_of_error missing fun before => pure (before.concat value)
          exact ⟨_, _, bind_of_error stops _, .inr ⟨rfl, rfl, rfl⟩⟩
      | some before =>
          rw [found] at looked
          have there : readVariable ⟨some .vim, name⟩ w =
              .ok before (w.called (.read .vim name (some before)) w.host) := bind_of_ok looked _
          have goesOn := bind_of_ok there fun before => pure (before.concat value)
          obtain ⟨v, fails⟩ := refused (before.concat value) (w.called (.read .vim name (some before)) w.host)
          exact ⟨_, v, (bind_of_ok goesOn _).trans fails, .inl rfl⟩

theorem remove_vim (name : String) (bang : Bool) (w : World Recorder) :
    (w.host.read .vim name ≠ none ∨ bang = true → ∃ v, (Task.remove bang ⟨some .vim, name⟩).run w = .ok ⟨⟩ v) ∧
    (w.host.read .vim name = none → bang = false →
      ∃ v, (Task.remove bang ⟨some .vim, name⟩).run w = .error (.undefinedVariable .vim name) v) := by
  have removed : removeVariable ⟨some .vim, name⟩ w = .ok (w.host.remove .vim name).1
      (w.called (.remove .vim name (w.host.remove .vim name).1) (w.host.remove .vim name).2) := rfl
  rw [Task.run, removeTarget, bind_of_ok removed, (remove_existed w.host .vim name).1]
  constructor
  · intro allowed
    have goesOn : ((w.host.read .vim name).isSome || bang) = true := by
      simpa [Option.isSome_iff_ne_none] using allowed
    rw [if_pos goesOn]
    exact ⟨_, rfl⟩
  · intro missing noBang
    rw [missing, noBang]
    exact ⟨_, rfl⟩

theorem vim_variables_change_by_removal_only (tasks : List Task) (w : World Recorder) :
    VimSince w (worldAfterAll w tasks) ∧
    ∀ before t after, tasks = before ++ t :: after → ∀ name w',
      (∀ op value, Visits t (worldAfterAll w before) (.store ⟨some .vim, name⟩ op value) w' →
        ∃ error v, t.run (worldAfterAll w before) = .error error v ∧
          (error.root = .host (.readOnlyVariable ("v:" ++ name)) ∨
            op = .append ∧ w'.host.read .vim name = none ∧ error.root = .undefinedVariable .vim name)) ∧
      ∀ bang, Visits t (worldAfterAll w before) (.remove bang ⟨some .vim, name⟩) w' →
        (∃ v, (Task.remove bang ⟨some .vim, name⟩).run w' = .ok ⟨⟩ v) ∧
            (w'.host.read .vim name ≠ none ∨ bang = true) ∨
          ∃ error v, t.run (worldAfterAll w before) = .error error v ∧
            error.root = .undefinedVariable .vim name ∧ w'.host.read .vim name = none := by
  refine ⟨world_after_all_vim_since tasks (vim_since_refl w), fun before t after _ name w' => ⟨?_, ?_⟩⟩
  · intro op value visited
    obtain ⟨cause, v, failed, kind⟩ := store_vim_fails name op value w'
    obtain ⟨error, v', whole, root⟩ := visits_fails visited failed
    refine ⟨error, v', whole, ?_⟩
    rw [root]
    rcases kind with rfl | ⟨append, missing, rfl⟩
    · exact .inl rfl
    · exact .inr ⟨append, missing, rfl⟩
  · intro bang visited
    obtain ⟨removes, fails⟩ := remove_vim name bang w'
    by_cases allowed : w'.host.read .vim name ≠ none ∨ bang = true
    · exact .inl ⟨removes allowed, allowed⟩
    · obtain ⟨missing, noBang⟩ := not_or.mp allowed
      obtain ⟨v, failed⟩ := fails (not_not.mp missing) (Bool.eq_false_iff.mpr noBang)
      obtain ⟨error, v', whole, root⟩ := visits_fails visited failed
      exact .inr ⟨error, v', whole, root, not_not.mp missing⟩

def countingHost : Recorder := Recorder.empty.withVariable .vim "count" (.num 1)

-- Without a bang, and without a fault: the host has no say in what is removed.
theorem unlet_removes_vim_variable :
    ∃ script, Script.parse "s" "unlet v:count".toList = .ok script ∧
      countingHost.read .vim "count" = some (.num 1) ∧
      ∃ w, (Task.source script).run (.start .fresh countingHost) = .ok ⟨⟩ w ∧
        w.host.read .vim "count" = none ∧ w.calls = [.remove .vim "count" true] := by
  refine ⟨⟨"s", [.unlet false [⟨some .vim, "count"⟩]], [1]⟩, by with_unfolding_all rfl, by decide +kernel, ?_⟩
  exact ⟨_, rfl, by decide +kernel, by decide +kernel⟩

end ExScript
