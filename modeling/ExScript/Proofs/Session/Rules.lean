import ExScript.Proofs.Session.Tasks

set_option autoImplicit false

namespace ExScript

variable {σ : Type}

variable [Host σ]

-- The rules know no bound but the one that a call compares with the stack, so a derivation exists only for a run
-- that ends.
inductive Yields : (t : Task) → World σ → Ending σ t.Answer → Prop
  | literal (value : Value) (w : World σ) : Yields (.evaluate (.literal value)) w (.ok value w)
  | reference (v : Variable) (w : World σ) : Yields (.evaluate (.variable v)) w (readVariable v w)
  | concat {l r : Expr} {w v : World σ} {a : Value} {ended : Ending σ Value}
      (left : Yields (.evaluate l) w (.ok a v)) (right : Yields (.evaluate r) v ended) :
      Yields (.evaluate (.concat l r)) w (mapped a.concat ended)
  | concatFails {l : Expr} (r : Expr) {w v : World σ} {error : RuntimeError}
      (left : Yields (.evaluate l) w (.error error v)) : Yields (.evaluate (.concat l r)) w (.error error v)
  | unknown {name : FunctionName} (args : List Expr) {w : World σ}
      (absent : w.session.functions.get? (name.key w.session.currentScript) = none) :
      Yields (.evaluate (.call name args)) w (.error (.unknownFunction name.text) w)
  | call {name : FunctionName} {f : DefinedFunction} {args : List Expr} {w v : World σ} {values : List Value}
      {ended : Ending σ Value} (found : w.session.functions.get? (name.key w.session.currentScript) = some f)
      (given : Yields (.evaluateAll args) w (.ok values v)) (result : Yields (.invoke f values) v ended) :
      Yields (.evaluate (.call name args)) w ended
  | callFails {name : FunctionName} {f : DefinedFunction} {args : List Expr} {w v : World σ} {error : RuntimeError}
      (found : w.session.functions.get? (name.key w.session.currentScript) = some f)
      (given : Yields (.evaluateAll args) w (.error error v)) : Yields (.evaluate (.call name args)) w (.error error v)
  | noArguments (w : World σ) : Yields (.evaluateAll []) w (.ok [] w)
  | arguments {e : Expr} {es : List Expr} {w v : World σ} {value : Value} {ended : Ending σ (List Value)}
      (head : Yields (.evaluate e) w (.ok value v)) (tail : Yields (.evaluateAll es) v ended) :
      Yields (.evaluateAll (e :: es)) w (mapped (value :: ·) ended)
  | argumentsFail {e : Expr} (es : List Expr) {w v : World σ} {error : RuntimeError}
      (head : Yields (.evaluate e) w (.error error v)) : Yields (.evaluateAll (e :: es)) w (.error error v)
  | refused {f : DefinedFunction} {args : List Value} (w : World σ) {error : RuntimeError}
      (refused : f.refusal? args.length = some error) : Yields (.invoke f args) w (.error error w)
  | tooDeep {f : DefinedFunction} {args : List Value} {w : World σ} (accepted : f.refusal? args.length = none)
      (full : w.session.settings.maxDepth ≤ w.session.callStack.length) :
      Yields (.invoke f args) w (.error (.callDepthExceeded w.session.settings.maxDepth) w)
  | invoke {f : DefinedFunction} {args : List Value} {w : World σ} {ended : Ending σ Value}
      (accepted : f.refusal? args.length = none)
      (below : w.session.callStack.length < w.session.settings.maxDepth)
      (body : Yields (.body f.body) (w.entered f args) ended) : Yields (.invoke f args) w (leaving f ended)
  | bodyEnds (w : World σ) : Yields (.body []) w (.ok (.num 0) w)
  | bodyReturns {s : Statement} (rest : List Statement) {w v : World σ} {value : Value}
      (first : Yields (.execute s) w (.ok (.returned value) v)) : Yields (.body (s :: rest)) w (.ok value v)
  | bodyGoesOn {s : Statement} {rest : List Statement} {w v : World σ} {ended : Ending σ Value}
      (first : Yields (.execute s) w (.ok .next v)) (others : Yields (.body rest) v ended) :
      Yields (.body (s :: rest)) w ended
  | bodyFails {s : Statement} (rest : List Statement) {w v : World σ} {error : RuntimeError}
      (first : Yields (.execute s) w (.error error v)) : Yields (.body (s :: rest)) w (.error error v)
  | declare (header : FunctionHeader) (body : List Statement) (w : World σ) :
      Yields (.execute (.function header body)) w
        (mapped (fun _ => .next) (updateSession (w.session.define header body) w))
  | echo {exprs : List Expr} {w v : World σ} {values : List Value} {ended : Ending σ PUnit}
      (given : Yields (.evaluateAll exprs) w (.ok values v)) (shown : Yields (.show values) v ended) :
      Yields (.execute (.echo exprs)) w (mapped (fun _ => .next) ended)
  | echoFails {exprs : List Expr} {w v : World σ} {error : RuntimeError}
      (given : Yields (.evaluateAll exprs) w (.error error v)) : Yields (.execute (.echo exprs)) w (.error error v)
  | returnOutside (e : Expr) {w : World σ} (outside : w.session.callStack.isEmpty = true) :
      Yields (.execute (.return e)) w (.error .returnOutsideFunction w)
  | returns {e : Expr} {w : World σ} {ended : Ending σ Value} (inside : w.session.callStack.isEmpty = false)
      (result : Yields (.evaluate e) w ended) : Yields (.execute (.return e)) w (mapped .returned ended)
  | assign {target : Variable} {op : AssignOp} {e : Expr} {w v : World σ} {value : Value} {ended : Ending σ PUnit}
      (given : Yields (.evaluate e) w (.ok value v)) (stored : Yields (.store target op value) v ended) :
      Yields (.execute (.assign target op e)) w (mapped (fun _ => .next) ended)
  | assignFails (target : Variable) (op : AssignOp) {e : Expr} {w v : World σ} {error : RuntimeError}
      (given : Yields (.evaluate e) w (.error error v)) :
      Yields (.execute (.assign target op e)) w (.error error v)
  | unlet {bang : Bool} {targets : List Variable} {w : World σ} {ended : Ending σ PUnit}
      (removed : Yields (.removeAll bang targets) w ended) :
      Yields (.execute (.unlet bang targets)) w (mapped (fun _ => .next) ended)
  | calls (range : Option String) {name : FunctionName} {args : List Expr} {w : World σ} {ended : Ending σ Value}
      (result : Yields (.evaluate (.call name args)) w ended) :
      Yields (.execute (.call range name args)) w (mapped (fun _ => .next) ended)
  | delete (bang : Bool) (name : FunctionName) (w : World σ) :
      Yields (.execute (.delfunction bang name)) w
        (mapped (fun _ => .next) (updateSession (w.session.delete bang name) w))
  | command (c : HostCommand) (w : World σ) :
      Yields (.execute (.command c)) w (mapped (fun _ => .next) (hostCommand c w))
  | show (values : List Value) (w : World σ) :
      Yields (.show values) w (hostEcho (w.session.settings.separator.intercalate (values.map Value.text)) w)
  | store (target : Variable) (op : AssignOp) (value : Value) (w : World σ) :
      Yields (.store target op value) w ((assigned target op value >>= writeVariable target) w)
  | remove (bang : Bool) (target : Variable) (w : World σ) :
      Yields (.remove bang target) w (removeTarget bang target w)
  | noTargets (bang : Bool) (w : World σ) : Yields (.removeAll bang []) w (.ok ⟨⟩ w)
  | targets {bang : Bool} {target : Variable} {targets : List Variable} {w v : World σ} {ended : Ending σ PUnit}
      (first : Yields (.remove bang target) w (.ok ⟨⟩ v)) (others : Yields (.removeAll bang targets) v ended) :
      Yields (.removeAll bang (target :: targets)) w ended
  | targetsFail {bang : Bool} {target : Variable} (targets : List Variable) {w v : World σ} {error : RuntimeError}
      (first : Yields (.remove bang target) w (.error error v)) :
      Yields (.removeAll bang (target :: targets)) w (.error error v)
  | scriptEnds (w : World σ) : Yields (.executeAll []) w (.ok ⟨⟩ w)
  | scriptGoesOn {s : Statement} {rest : List Statement} {w v : World σ} {flow : Flow} {ended : Ending σ PUnit}
      (first : Yields (.execute s) w (.ok flow v)) (others : Yields (.executeAll rest) v ended) :
      Yields (.executeAll (s :: rest)) w ended
  | scriptFails {s : Statement} (rest : List Statement) {w v : World σ} {error : RuntimeError}
      (first : Yields (.execute s) w (.error error v)) : Yields (.executeAll (s :: rest)) w (.error error v)
  | source {script : Script} {w : World σ} {ended : Ending σ PUnit}
      (inside : Yields (.executeAll script.statements) (w.opened script.id) ended) :
      Yields (.source script) w (closing ended)
  | unknownName {name : String} (args : List Value) {w : World σ}
      (absent : w.session.functions.get? (Session.globalKey name) = none) :
      Yields (.call name args) w (.error (.unknownFunction name) w)
  | named {name : String} {f : DefinedFunction} {args : List Value} {w : World σ} {ended : Ending σ Value}
      (found : w.session.functions.get? (Session.globalKey name) = some f)
      (result : Yields (.invoke f args) w ended) : Yields (.call name args) w ended

theorem run_concat (l r : Expr) : ((Task.evaluate (.concat l r)).run : Run σ Value) =
    (Task.evaluate l).run >>= fun a => (Task.evaluate r).run >>= fun b => pure (a.concat b) := by
  simp only [Task.run, evaluate_eq, evaluateWith]

theorem run_call (name : FunctionName) (args : List Expr) : ((Task.evaluate (.call name args)).run : Run σ Value) =
    resolve name >>= fun f => (Task.evaluateAll args).run >>= fun values => (Task.invoke f values).run := by
  simp only [Task.run, evaluate_eq, evaluateWith]

theorem run_arguments (e : Expr) (es : List Expr) : ((Task.evaluateAll (e :: es)).run : Run σ (List Value)) =
    (Task.evaluate e).run >>= fun value => (Task.evaluateAll es).run >>= fun values => pure (value :: values) := by
  simp only [Task.run, evaluate_eq, evaluateAllWith]

theorem run_body (s : Statement) (rest : List Statement) : ((Task.body (s :: rest)).run : Run σ Value) =
    (Task.execute s).run >>= fun flow => match flow with
      | .returned value => pure value
      | .next => (Task.body rest).run := by
  simp only [Task.run, execute_eq, runBody]
  congr
  funext flow
  cases flow <;> rfl

theorem run_declare (header : FunctionHeader) (body : List Statement) (w : World σ) :
    (Task.execute (.function header body)).run w =
    mapped (fun _ => .next) (updateSession (w.session.define header body) w) := by
  rw [Task.run, execute_eq, executeWith, session_bind, bind_pure_eq]

theorem run_delete (bang : Bool) (name : FunctionName) (w : World σ) :
    (Task.execute (.delfunction bang name)).run w =
    mapped (fun _ => .next) (updateSession (w.session.delete bang name) w) := by
  rw [Task.run, execute_eq, executeWith, session_bind, bind_pure_eq]

theorem run_command (c : HostCommand) (w : World σ) :
    (Task.execute (.command c)).run w = mapped (fun _ => .next) (hostCommand c w) := by
  rw [Task.run, execute_eq, executeWith, bind_pure_eq]

theorem run_echo (exprs : List Expr) : ((Task.execute (.echo exprs)).run : Run σ Flow) =
    (Task.evaluateAll exprs).run >>= fun values => (Task.show values).run >>= fun _ => pure .next := by
  simp only [Task.run, execute_eq, execute_with_echo]
  rfl

theorem run_return (e : Expr) (w : World σ) : (Task.execute (.return e)).run w =
    if w.session.callStack.isEmpty = true then .error .returnOutsideFunction w
    else mapped .returned ((Task.evaluate e).run w) := by
  simp only [Task.run, execute_eq, evaluate_eq, executeWith]
  rw [session_bind]
  by_cases outside : w.session.callStack.isEmpty = true
  · rw [if_pos outside, if_pos outside]
    rfl
  · rw [if_neg outside, if_neg outside]
    exact bind_pure_eq _ _ _

theorem run_assign (target : Variable) (op : AssignOp) (e : Expr) :
    ((Task.execute (.assign target op e)).run : Run σ Flow) =
    (Task.evaluate e).run >>= fun value => (Task.store target op value).run >>= fun _ => pure .next := by
  simp only [Task.run, execute_eq, evaluate_eq, executeWith, bind_assoc]

theorem run_calls (range : Option String) (name : FunctionName) (args : List Expr) :
    ((Task.execute (.call range name args)).run : Run σ Flow) =
    (Task.evaluate (.call name args)).run >>= fun _ => pure .next := by
  simp only [Task.run, execute_eq, evaluate_eq, executeWith, evaluateWith, bind_assoc]

theorem run_unlet (bang : Bool) (targets : List Variable) : ((Task.execute (.unlet bang targets)).run : Run σ Flow) =
    (Task.removeAll bang targets).run >>= fun _ => pure .next := by
  simp only [Task.run, execute_eq, executeWith]

theorem run_targets (bang : Bool) (target : Variable) (targets : List Variable) :
    ((Task.removeAll bang (target :: targets)).run : Run σ PUnit) =
    (Task.remove bang target).run >>= fun _ => (Task.removeAll bang targets).run := by
  exact remove_variables_cons bang target targets

theorem run_script (s : Statement) (rest : List Statement) : ((Task.executeAll (s :: rest)).run : Run σ PUnit) =
    (Task.execute s).run >>= fun _ => (Task.executeAll rest).run := rfl

theorem run_named {name : String} {f : DefinedFunction} (args : List Value) {w : World σ}
    (found : w.session.functions.get? (Session.globalKey name) = some f) :
    (Task.call name args).run w = (Task.invoke f args).run w := by
  simp only [Task.run, callFunction]
  rw [session_bind, found]

theorem run_unknown_name {name : String} (args : List Value) {w : World σ}
    (absent : w.session.functions.get? (Session.globalKey name) = none) :
    (Task.call name args).run w = .error (.unknownFunction name) w := by
  simp only [Task.run, callFunction]
  rw [session_bind, absent]
  rfl

theorem run_of_yields {t : Task} {w : World σ} {ended : Ending σ t.Answer} (derived : Yields t w ended) :
    t.run w = ended := by
  induction derived with
  | concat _ _ left right => rw [run_concat, bind_of_ok left, bind_pure_eq, right]
  | concatFails r _ left => rw [run_concat, bind_of_error left]
  | unknown args absent => rw [run_call, bind_of_error (resolve_absent absent)]
  | call found _ _ given result => rw [run_call, bind_of_ok (resolve_found found), bind_of_ok given, result]
  | callFails found _ given => rw [run_call, bind_of_ok (resolve_found found), bind_of_error given]
  | arguments _ _ head tail => rw [run_arguments, bind_of_ok head, bind_pure_eq, tail]
  | argumentsFail es _ head => rw [run_arguments, bind_of_error head]
  | refused w refused => exact invoke_refused refused
  | tooDeep accepted full => exact invoke_too_deep accepted full
  | invoke accepted below _ body => rw [Task.run, invoke_in_frame accepted below, in_frame_eq, ← body]; rfl
  | bodyReturns rest _ first => rw [run_body, bind_of_ok first]; rfl
  | bodyGoesOn _ _ first others => rw [run_body, bind_of_ok first, ← others]
  | bodyFails rest _ first => rw [run_body, bind_of_error first]
  | declare header body w => exact run_declare header body w
  | echo _ _ given shown => rw [run_echo, bind_of_ok given, bind_pure_eq, shown]
  | echoFails _ given => rw [run_echo, bind_of_error given]
  | returnOutside e outside => rw [run_return, if_pos outside]
  | returns inside _ result => rw [run_return, if_neg (by rw [inside]; exact Bool.false_ne_true), result]
  | assign _ _ given stored => rw [run_assign, bind_of_ok given, bind_pure_eq, stored]
  | assignFails target op _ given => rw [run_assign, bind_of_error given]
  | unlet _ removed => rw [run_unlet, bind_pure_eq, removed]
  | targets _ _ first others => rw [run_targets, bind_of_ok first, others]
  | targetsFail targets _ first => rw [run_targets, bind_of_error first]
  | calls range _ result => rw [run_calls, bind_pure_eq, result]
  | delete bang name w => exact run_delete bang name w
  | command c w => exact run_command c w
  | scriptGoesOn _ _ first others => rw [run_script, bind_of_ok first, others]
  | scriptFails rest _ first => rw [run_script, bind_of_error first]
  | source _ inside => rw [Task.run, ExScript.source, while_sourcing_eq, ← inside]; rfl
  | unknownName args absent => exact run_unknown_name args absent
  | named found _ result => rw [run_named _ found, result]
  | _ => rfl

-- What is known of the tasks that `t` starts: each of them has a derivation where it is started.
def PartsYield (t : Task) (w : World σ) : Prop := ∀ t' w', Starts t w t' w' → Yields t' w' (t'.run w')

section

variable {w : World σ}

theorem yields_evaluate (e : Expr) (parts : PartsYield (.evaluate e) w) :
    Yields (.evaluate e) w ((Task.evaluate e).run w) := by
  cases e with
  | literal value => exact .literal value w
  | «variable» v => exact .reference v w
  | concat l r =>
      have left := parts _ _ (.left l r w)
      cases ended : (Task.evaluate l).run w with
      | error error v =>
          rw [ended] at left
          rw [run_concat, bind_of_error ended]
          exact .concatFails r left
      | ok a v =>
          rw [ended] at left
          rw [run_concat, bind_of_ok ended, bind_pure_eq]
          exact .concat left (parts _ _ (.right l r ended))
  | call name args =>
      cases found : w.session.functions.get? (name.key w.session.currentScript) with
      | none =>
          rw [run_call, bind_of_error (resolve_absent found)]
          exact .unknown args found
      | some f =>
          have given := parts _ _ (.arguments args found)
          rw [run_call, bind_of_ok (resolve_found found)]
          cases ended : (Task.evaluateAll args).run w with
          | error error v =>
              rw [ended] at given
              rw [bind_of_error ended]
              exact .callFails found given
          | ok values v =>
              rw [ended] at given
              rw [bind_of_ok ended]
              exact .call found given (parts _ _ (.callee found ended))

theorem yields_evaluate_all (es : List Expr) (parts : PartsYield (.evaluateAll es) w) :
    Yields (.evaluateAll es) w ((Task.evaluateAll es).run w) := by
  cases es with
  | nil => exact .noArguments w
  | cons e es =>
      have head := parts _ _ (.head e es w)
      cases ended : (Task.evaluate e).run w with
      | error error v =>
          rw [ended] at head
          rw [run_arguments, bind_of_error ended]
          exact .argumentsFail es head
      | ok value v =>
          rw [ended] at head
          rw [run_arguments, bind_of_ok ended, bind_pure_eq]
          exact .arguments head (parts _ _ (.tail e es ended))

theorem yields_invoke (f : DefinedFunction) (args : List Value) (parts : PartsYield (.invoke f args) w) :
    Yields (.invoke f args) w ((Task.invoke f args).run w) := by
  cases accepted : f.refusal? args.length with
  | some error =>
      rw [Task.run, invoke_refused accepted]
      exact .refused w accepted
  | none =>
      by_cases below : w.session.callStack.length < w.session.settings.maxDepth
      · rw [Task.run, invoke_in_frame accepted below, in_frame_eq]
        exact .invoke accepted below (parts _ _ (.enter accepted below))
      · have full := Nat.le_of_not_lt below
        rw [Task.run, invoke_too_deep accepted full]
        exact .tooDeep accepted full

theorem yields_body (statements : List Statement) (parts : PartsYield (.body statements) w) :
    Yields (.body statements) w ((Task.body statements).run w) := by
  cases statements with
  | nil => exact .bodyEnds w
  | cons s rest =>
      have first := parts _ _ (.first s rest w)
      cases ended : (Task.execute s).run w with
      | error error v =>
          rw [ended] at first
          rw [run_body, bind_of_error ended]
          exact .bodyFails rest first
      | ok flow v =>
          rw [ended] at first
          rw [run_body, bind_of_ok ended]
          cases flow with
          | next => exact .bodyGoesOn first (parts _ _ (.next s rest ended))
          | returned value => exact .bodyReturns rest first

theorem yields_execute (s : Statement) (parts : PartsYield (.execute s) w) :
    Yields (.execute s) w ((Task.execute s).run w) := by
  cases s with
  | function header body =>
      rw [run_declare]
      exact .declare header body w
  | echo exprs =>
      have given := parts _ _ (.shown exprs w)
      cases ended : (Task.evaluateAll exprs).run w with
      | error error v =>
          rw [ended] at given
          rw [run_echo, bind_of_error ended]
          exact .echoFails given
      | ok values v =>
          rw [ended] at given
          rw [run_echo, bind_of_ok ended, bind_pure_eq]
          exact .echo given (parts _ _ (.show ended))
  | «return» e =>
      rw [run_return]
      by_cases outside : w.session.callStack.isEmpty = true
      · rw [if_pos outside]
        exact .returnOutside e outside
      · have inside := Bool.eq_false_iff.mpr outside
        rw [if_neg outside]
        exact .returns inside (parts _ _ (.result e inside))
  | assign target op e =>
      have given := parts _ _ (.stored target op e w)
      cases ended : (Task.evaluate e).run w with
      | error error v =>
          rw [ended] at given
          rw [run_assign, bind_of_error ended]
          exact .assignFails target op given
      | ok value v =>
          rw [ended] at given
          rw [run_assign, bind_of_ok ended, bind_pure_eq]
          exact .assign given (parts _ _ (.store target op ended))
  | unlet bang targets =>
      rw [run_unlet, bind_pure_eq]
      exact .unlet (parts _ _ (.unlet bang targets w))
  | call range name args =>
      rw [run_calls, bind_pure_eq]
      exact .calls range (parts _ _ (.called range name args w))
  | delfunction bang name =>
      rw [run_delete]
      exact .delete bang name w
  | command c =>
      rw [run_command]
      exact .command c w

theorem yields_remove_all (bang : Bool) (targets : List Variable) (parts : PartsYield (.removeAll bang targets) w) :
    Yields (.removeAll bang targets) w ((Task.removeAll bang targets).run w) := by
  cases targets with
  | nil => exact .noTargets bang w
  | cons target targets =>
      have first := parts _ _ (.firstTarget bang target targets w)
      cases ended : (Task.remove bang target).run w with
      | error error v =>
          rw [ended] at first
          rw [run_targets, bind_of_error ended]
          exact .targetsFail targets first
      | ok _ v =>
          rw [ended] at first
          rw [run_targets, bind_of_ok ended]
          exact .targets first (parts _ _ (.nextTarget targets ended))

theorem yields_execute_all (statements : List Statement) (parts : PartsYield (.executeAll statements) w) :
    Yields (.executeAll statements) w ((Task.executeAll statements).run w) := by
  cases statements with
  | nil => exact .scriptEnds w
  | cons s rest =>
      have first := parts _ _ (.firstTop s rest w)
      cases ended : (Task.execute s).run w with
      | error error v =>
          rw [ended] at first
          rw [run_script, bind_of_error ended]
          exact .scriptFails rest first
      | ok flow v =>
          rw [ended] at first
          rw [run_script, bind_of_ok ended]
          exact .scriptGoesOn first (parts _ _ (.nextTop s rest ended))

theorem yields_call (name : String) (args : List Value) (parts : PartsYield (.call name args) w) :
    Yields (.call name args) w ((Task.call name args).run w) := by
  cases found : w.session.functions.get? (Session.globalKey name) with
  | none =>
      rw [run_unknown_name args found]
      exact .unknownName args found
  | some f =>
      rw [run_named args found]
      exact .named found (parts _ _ (.named args found))

theorem yields_of_parts (t : Task) (parts : PartsYield t w) : Yields t w (t.run w) := by
  cases t with
  | evaluate e => exact yields_evaluate e parts
  | evaluateAll es => exact yields_evaluate_all es parts
  | invoke f args => exact yields_invoke f args parts
  | body statements => exact yields_body statements parts
  | execute s => exact yields_execute s parts
  | «show» values => exact .show values w
  | store target op value => exact .store target op value w
  | remove bang target => exact .remove bang target w
  | removeAll bang targets => exact yields_remove_all bang targets parts
  | executeAll statements => exact yields_execute_all statements parts
  | source script =>
      rw [Task.run, ExScript.source, while_sourcing_eq]
      exact .source (parts _ _ (.opened script w))
  | call name args => exact yields_call name args parts

end

theorem yields_run (t : Task) (w : World σ) : Yields t w (t.run w) :=
  starts_well_founded.induction (C := fun moment : Task × World σ => Yields moment.1 moment.2 (moment.1.run moment.2))
    (t, w) fun moment ih => yields_of_parts moment.1 fun t' w' started => ih (t', w') started

-- No chain of tasks that start one another is infinite, since the rank goes down along it, and every task
-- comes by finitely many rules to exactly one ending.
theorem running_terminates :
    (∀ (t t' : Task) (w w' : World σ), Starts t w t' w' → Prod.Lex (· < ·) (· < ·) (t'.rank w') (t.rank w)) ∧
    WellFounded (fun later earlier : Task × World σ => Starts earlier.1 earlier.2 later.1 later.2) ∧
    ∀ (t : Task) (w : World σ) (ended : Ending σ t.Answer), Yields t w ended ↔ t.run w = ended := by
  refine ⟨fun t t' w w' started => starts_rank started, starts_well_founded, fun t w ended => ⟨run_of_yields, ?_⟩⟩
  rintro rfl
  exact yields_run t w

end ExScript
