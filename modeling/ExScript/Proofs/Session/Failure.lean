import ExScript.Host.Recorder
import ExScript.Proofs.Session.Moments

set_option autoImplicit false

namespace ExScript

variable {σ : Type} [Host σ]

theorem define_error {s : Session} {header : FunctionHeader} {body : List Statement} {error : RuntimeError}
    (failed : s.define header body = .error error) :
    error = .functionAlreadyDefined header.name.text ∧ header.replace = false ∧
      s.functions.contains (header.name.key s.currentScript) = true := by
  unfold Session.define FunctionTable.define at failed
  dsimp only at failed
  split at failed
  · rename_i refused
    cases failed
    split at refused
    · rename_i taken
      cases refused
      exact ⟨rfl, by simpa using taken⟩
    · cases refused
  · cases failed

theorem delete_error {s : Session} {bang : Bool} {name : FunctionName} {error : RuntimeError}
    (failed : s.delete bang name = .error error) : error = .unknownFunction name.text := by
  unfold Session.delete at failed
  dsimp only at failed
  split at failed
  · cases failed
  · split at failed <;> cases failed
    rfl

section

variable {α β : Type}

omit [Host σ] in
theorem mapped_eq_error {f : α → β} {ended : Ending σ α} {error : RuntimeError} {v : World σ}
    (failed : mapped f ended = .error error v) : ended = .error error v := by
  cases ended <;> cases failed
  rfl

omit [Host σ] in
theorem update_session_eq_error {result : Except RuntimeError Session} {w v : World σ} {error : RuntimeError}
    (failed : updateSession result w = .error error v) : result = .error error := by
  cases result with
  | ok s => cases failed
  | error error' =>
      cases failed
      rfl

omit [Host σ] in
theorem leaving_eq_error {f : DefinedFunction} {ended : Ending σ Value} {error : RuntimeError} {v : World σ}
    (failed : leaving f ended = .error error v) :
    ∃ cause v', ended = .error cause v' ∧ error = .inFunction f.header.name.text cause := by
  cases ended with
  | ok value w => cases failed
  | error cause v' =>
      cases failed
      exact ⟨cause, v', rfl, rfl⟩

omit [Host σ] in
theorem closing_eq_error {ended : Ending σ α} {error : RuntimeError} {v : World σ}
    (failed : closing ended = .error error v) : ∃ v', ended = .error error v' := by
  cases ended with
  | ok value w => cases failed
  | error error' v' =>
      cases failed
      exact ⟨v', rfl⟩

end

-- How a leaf may fail: only a declaration with a function that is there, only a deletion with one that is not.
inductive LeafError : Task → World σ → RuntimeError → Prop
  | access {t : Task} (leaf : Leaf t) {w v : World σ} {error : RuntimeError} (failed : t.run w = .error error v)
      (kind : error.isAccess = true) : LeafError t w error
  | declare {header : FunctionHeader} (body : List Statement) {w : World σ} (kept : header.replace = false)
      (taken : w.session.functions.contains (header.name.key w.session.currentScript) = true) :
      LeafError (.execute (.function header body)) w (.functionAlreadyDefined header.name.text)
  | delete (bang : Bool) (name : FunctionName) (w : World σ) :
      LeafError (.execute (.delfunction bang name)) w (.unknownFunction name.text)

theorem leaf_error {t : Task} (leaf : Leaf t) {w v : World σ} {error : RuntimeError}
    (failed : t.run w = .error error v) : LeafError t w error := by
  cases leaf with
  | reference x => exact .access (.reference x) failed ((read_variable_accesses x).fails w error v failed)
  | declare header body =>
      rw [run_of_yields (.declare header body w)] at failed
      obtain ⟨rfl, kept, taken⟩ := define_error (update_session_eq_error (mapped_eq_error failed))
      exact .declare body kept taken
  | delete bang name =>
      rw [run_of_yields (.delete bang name w)] at failed
      rw [delete_error (update_session_eq_error (mapped_eq_error failed))]
      exact .delete bang name w
  | command c =>
      refine .access (.command c) failed ?_
      rw [run_of_yields (.command c w)] at failed
      exact (host_command_accesses c).fails w error v (mapped_eq_error failed)
  | «show» values => cases failed
  | store target op value =>
      exact .access (.store target op value) failed ((store_accesses target op value).fails w error v failed)
  | remove bang target =>
      exact .access (.remove bang target) failed ((remove_target_accesses bang target).fails w error v failed)

-- The task itself fails so in the world `w`, apart from the tasks that it starts.
inductive Raises : Task → World σ → RuntimeError → Prop
  | leaf {t : Task} {w : World σ} {error : RuntimeError} (kind : LeafError t w error) : Raises t w error
  | unknown (name : FunctionName) (args : List Expr) (w : World σ) :
      Raises (.evaluate (.call name args)) w (.unknownFunction name.text)
  | refused {f : DefinedFunction} {args : List Value} (w : World σ) {error : RuntimeError}
      (refused : f.refusal? args.length = some error) : Raises (.invoke f args) w error
  | tooDeep (f : DefinedFunction) (args : List Value) {w : World σ}
      (full : w.session.settings.maxDepth ≤ w.session.callStack.length) :
      Raises (.invoke f args) w (.callDepthExceeded w.session.settings.maxDepth)
  | returnOutside (e : Expr) {w : World σ} (outside : w.session.callStack = []) :
      Raises (.execute (.return e)) w .returnOutsideFunction
  | unknownName (name : String) (args : List Value) (w : World σ) :
      Raises (.call name args) w (.unknownFunction name)

theorem refusal_cases {f : DefinedFunction} {count : Nat} {error : RuntimeError}
    (refused : f.refusal? count = some error) : error = .dictFunction f.header.name.text ∨
      error = .tooFewArguments f.header.name.text ∨ error = .tooManyArguments f.header.name.text := by
  unfold DefinedFunction.refusal? at refused
  split at refused
  · exact .inl (Option.some.inj refused).symm
  · split at refused
    · exact .inr (.inl (Option.some.inj refused).symm)
    · split at refused
      · exact .inr (.inr (Option.some.inj refused).symm)
      · cases refused

section

variable {t : Task} {w : World σ} {error : RuntimeError}

theorem raises_bare (raised : Raises t w error) : error.root = error ∧ error.trace = [] := by
  cases raised with
  | leaf kind =>
      cases kind with
      | access _ _ kind =>
          cases error with
          | inFunction function cause => cases kind
          | _ => exact ⟨rfl, rfl⟩
      | declare => exact ⟨rfl, rfl⟩
      | delete => exact ⟨rfl, rfl⟩
  | refused _ refused => rcases refusal_cases refused with rfl | rfl | rfl <;> exact ⟨rfl, rfl⟩
  | _ => exact ⟨rfl, rfl⟩

theorem raises_call_depth_exceeded {limit : Nat} (raised : Raises t w (.callDepthExceeded limit)) :
    limit = w.session.settings.maxDepth ∧ w.session.settings.maxDepth ≤ w.session.callStack.length := by
  cases raised with
  | leaf kind =>
      cases kind with
      | access _ _ kind => cases kind
  | refused _ refused => rcases refusal_cases refused with same | same | same <;> cases same
  | tooDeep f args full => exact ⟨rfl, full⟩

theorem raises_already_defined {name : String} (raised : Raises t w (.functionAlreadyDefined name)) :
    ∃ header body, t = .execute (.function header body) := by
  cases raised with
  | leaf kind =>
      cases kind with
      | access _ _ kind => cases kind
      | declare body kept taken => exact ⟨_, body, rfl⟩
  | refused _ refused => rcases refusal_cases refused with same | same | same <;> cases same

theorem raises_return_outside (raised : Raises t w .returnOutsideFunction) :
    (∃ e, t = .execute (.return e)) ∧ w.session.callStack = [] := by
  cases raised with
  | leaf kind =>
      cases kind with
      | access _ _ kind => cases kind
  | refused _ refused => rcases refusal_cases refused with same | same | same <;> cases same
  | returnOutside e outside => exact ⟨⟨e, rfl⟩, outside⟩

end

-- The functions that are running, innermost first.
def World.running (w : World σ) : List String := w.session.callStack.map (·.function)

omit [Host σ] in
theorem resumes_running {w v : World σ} (resumed : w.session.Resumes v.session) : v.running = w.running := by
  rw [World.running, World.running, resumed.callStack]

-- The error was raised at a moment of the run, and its trace is what stood on the stack then.
def RaisedWithin (t : Task) (w : World σ) (error : RuntimeError) : Prop :=
  ∃ t' w', Visits t w t' w' ∧ Raises t' w' error.root ∧ w'.running = error.trace.reverse ++ w.running

section

variable {t t' : Task} {w w' : World σ} {error : RuntimeError}

theorem raised_within_here (raised : Raises t w error) : RaisedWithin t w error := by
  obtain ⟨root, trace⟩ := raises_bare raised
  refine ⟨t, w, .here t w, ?_, ?_⟩
  · rwa [root]
  · rw [trace]
    rfl

theorem raised_within_start (started : Starts t w t' w') (same : w'.running = w.running)
    (raised : RaisedWithin t' w' error) : RaisedWithin t w error := by
  obtain ⟨t'', w'', visited, root, trace⟩ := raised
  exact ⟨t'', w'', .inside started visited, root, by rw [trace, same]⟩

theorem raised_within_first (started : Starts t w t' w) (raised : RaisedWithin t' w error) : RaisedWithin t w error :=
  raised_within_start started rfl raised

theorem raised_within_next (started : Starts t w t' w') (resumed : w.session.Resumes w'.session)
    (raised : RaisedWithin t' w' error) : RaisedWithin t w error :=
  raised_within_start started (resumes_running resumed) raised

-- The call adds its function to the trace exactly where its frame is on the stack.
theorem raised_within_enter {f : DefinedFunction} {args : List Value} (accepted : f.refusal? args.length = none)
    (below : w.session.callStack.length < w.session.settings.maxDepth)
    (raised : RaisedWithin (.body f.body) (w.entered f args) error) :
    RaisedWithin (.invoke f args) w (.inFunction f.header.name.text error) := by
  obtain ⟨t'', w'', visited, root, trace⟩ := raised
  refine ⟨t'', w'', .inside (.enter accepted below) visited, root, ?_⟩
  have entered : (w.entered f args).running = f.header.name.text :: w.running := rfl
  rw [trace, entered, RuntimeError.trace, List.reverse_cons, List.append_assoc]
  rfl

end

-- Each rule that passes an error on starts the task whose error it is.
theorem yields_raised_within {t : Task} {w : World σ} {ended : Ending σ t.Answer} (derived : Yields t w ended)
    {error : RuntimeError} {v : World σ} (failed : ended = .error error v) : RaisedWithin t w error := by
  induction derived generalizing error v with
  | reference x w => exact raised_within_here (.leaf (leaf_error (.reference x) failed))
  | concat first _ _ right =>
      exact raised_within_next (.right _ _ (run_of_yields first)) (yields_resumes first) (right (mapped_eq_error failed))
  | concatFails r _ left =>
      cases failed
      exact raised_within_first (.left _ _ _) (left rfl)
  | unknown args absent =>
      cases failed
      exact raised_within_here (.unknown _ _ _)
  | call found first _ _ result =>
      exact raised_within_next (.callee found (run_of_yields first)) (yields_resumes first) (result failed)
  | callFails found _ given =>
      cases failed
      exact raised_within_first (.arguments _ found) (given rfl)
  | arguments first _ _ tail =>
      exact raised_within_next (.tail _ _ (run_of_yields first)) (yields_resumes first) (tail (mapped_eq_error failed))
  | argumentsFail es _ head =>
      cases failed
      exact raised_within_first (.head _ _ _) (head rfl)
  | refused w refused =>
      cases failed
      exact raised_within_here (.refused w refused)
  | tooDeep accepted full =>
      cases failed
      exact raised_within_here (.tooDeep _ _ full)
  | invoke accepted below _ body =>
      obtain ⟨cause, v', inside, rfl⟩ := leaving_eq_error failed
      exact raised_within_enter accepted below (body inside)
  | bodyGoesOn before _ _ others =>
      exact raised_within_next (.next _ _ (run_of_yields before)) (yields_resumes before) (others failed)
  | bodyFails rest _ first =>
      cases failed
      exact raised_within_first (.first _ _ _) (first rfl)
  | declare header body w =>
      have ended := (run_of_yields (.declare header body w)).trans failed
      exact raised_within_here (.leaf (leaf_error (.declare header body) ended))
  | echo before _ _ shown =>
      exact raised_within_next (.show (run_of_yields before)) (yields_resumes before) (shown (mapped_eq_error failed))
  | echoFails _ given =>
      cases failed
      exact raised_within_first (.shown _ _) (given rfl)
  | returnOutside e outside =>
      cases failed
      exact raised_within_here (.returnOutside e (List.isEmpty_iff.mp outside))
  | returns inside _ result => exact raised_within_first (.result _ inside) (result (mapped_eq_error failed))
  | assign before _ _ stored =>
      exact raised_within_next (.store _ _ (run_of_yields before)) (yields_resumes before)
        (stored (mapped_eq_error failed))
  | assignFails target op _ given =>
      cases failed
      exact raised_within_first (.stored _ _ _ _) (given rfl)
  | unlet _ removed => exact raised_within_first (.unlet _ _ _) (removed (mapped_eq_error failed))
  | calls range _ result => exact raised_within_first (.called _ _ _ _) (result (mapped_eq_error failed))
  | delete bang name w =>
      have ended := (run_of_yields (.delete bang name w)).trans failed
      exact raised_within_here (.leaf (leaf_error (.delete bang name) ended))
  | command c w =>
      exact raised_within_here (.leaf (leaf_error (.command c) ((run_of_yields (.command c w)).trans failed)))
  | store target op value w => exact raised_within_here (.leaf (leaf_error (.store target op value) failed))
  | remove bang target w => exact raised_within_here (.leaf (leaf_error (.remove bang target) failed))
  | targets before _ _ others =>
      exact raised_within_next (.nextTarget _ (run_of_yields before)) (yields_resumes before) (others failed)
  | targetsFail targets _ first => exact raised_within_first (.firstTarget _ _ _ _) (first failed)
  | scriptGoesOn before _ _ others =>
      exact raised_within_next (.nextTop _ _ (run_of_yields before)) (yields_resumes before) (others failed)
  | scriptFails rest _ first =>
      cases failed
      exact raised_within_first (.firstTop _ _ _) (first rfl)
  | source _ inside =>
      obtain ⟨v', failed'⟩ := closing_eq_error failed
      exact raised_within_start (.opened _ _) rfl (inside failed')
  | unknownName args absent =>
      cases failed
      exact raised_within_here (.unknownName _ _ _)
  | named found _ result => exact raised_within_first (.named _ found) (result failed)
  | _ => cases failed

theorem error_raised_within {t : Task} {w v : World σ} {error : RuntimeError} (failed : t.run w = .error error v) :
    RaisedWithin t w error :=
  yields_raised_within (yields_run t w) failed

-- Below the limit of the session `start` at every moment; only entering a function adds a frame.
def depthBound (start : Session) : Invariant σ where
  Holds w := w.session.settings = start.settings ∧ w.session.callStack.length ≤ start.settings.maxDepth
  Fits _ _ := True
  starts _ _ _ := trivial
  leaf {t w} _ holds _ := by
    have resumed := run_resumes t w
    rwa [resumed.settings, resumed.callStack]
  enter {f args w} holds _ below := by
    refine ⟨holds.1, ?_⟩
    rw [← holds.1]
    exact below
  leave holds _ resumed := by
    obtain ⟨settings, depth⟩ := holds
    exact ⟨resumed.settings.trans settings, by rwa [resumed.callStack]⟩
  opened _ holds := holds
  closed holds := holds

theorem call_depth_bounded (t : Task) (w : World σ) (idle : w.session.callStack = []) :
    (∀ v, Passes t w v → v.session.callStack.length ≤ w.session.settings.maxDepth) ∧
    (∀ error v, t.run w = .error error v →
      error.trace.length ≤ w.session.settings.maxDepth ∧
      (∀ limit, error.root = .callDepthExceeded limit →
        limit = w.session.settings.maxDepth ∧ error.trace.length = w.session.settings.maxDepth) ∧
      (error.root = .returnOutsideFunction → error.trace = [])) := by
  have start : (depthBound w.session).Holds w := ⟨rfl, by simp [idle]⟩
  refine ⟨fun v passed => (passes_holds (depthBound w.session) passed start trivial).2, fun error v failed => ?_⟩
  obtain ⟨t', w', visited, raised, stack⟩ := error_raised_within failed
  obtain ⟨⟨settings, depth⟩, -⟩ := visits_holds (depthBound w.session) visited start trivial
  -- the stack was empty at the beginning, so the trace is the whole stack of the moment
  have frames : w'.session.callStack.length = error.trace.length := by
    simpa [World.running, idle] using congrArg List.length stack
  refine ⟨frames ▸ depth, fun limit root => ?_, fun root => ?_⟩
  · rw [root] at raised
    obtain ⟨limited, full⟩ := raises_call_depth_exceeded raised
    rw [settings] at limited full
    exact ⟨limited, Nat.le_antisymm (frames ▸ depth) (frames ▸ full)⟩
  · rw [root] at raised
    have outside := (raises_return_outside raised).2
    rw [outside] at frames
    exact List.length_eq_zero_iff.mp frames.symm

-- A function that calls itself within an operand of a message.
def descent : Script :=
  ⟨"d.vim", [.function ⟨⟨none, "F"⟩, [], .empty, false⟩
      [.echo [.literal (.num 1), .concat (.literal (.str "a")) (.call ⟨none, "F"⟩ [])]],
    .call none ⟨none, "F"⟩ []], [1, 4]⟩

def descended : RuntimeError := .inFunction "F" (.inFunction "F" (.inFunction "F" (.callDepthExceeded 3)))

theorem descent_reaches_limit :
    ∃ v, (Task.source descent).run (.start (.ofSettings ⟨3, " "⟩) Recorder.empty) = .error descended v ∧
      descended.root = .callDepthExceeded 3 ∧ descended.trace.length = 3 := by
  obtain ⟨v, failed⟩ : ∃ v, (Task.source descent).run (.start (.ofSettings ⟨3, " "⟩) Recorder.empty) =
      .error descended v := ⟨_, by with_unfolding_all rfl⟩
  have bounds := (call_depth_bounded (.source descent) (.start (.ofSettings ⟨3, " "⟩) Recorder.empty) rfl).2
  exact ⟨v, failed, rfl, ((bounds _ _ failed).2.1 3 rfl).2⟩

end ExScript
