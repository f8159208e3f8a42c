import Mathlib.Order.RelClasses
import ExScript.Proofs.Session.Stacks

set_option autoImplicit false

namespace ExScript

variable {σ : Type} [Host σ]

theorem evaluate_all_eq (es : List Expr) (w : World σ) :
    evaluateAllWith invoke es w = evaluateAllWith (invokeWithin w.session.room) es w := by
  have same := (evaluate_all_with_agree (invoke_steady w.session.room) () es w).2.1 rfl
  rwa [show es.map (steady _).rewriting.expr = es from keep_exprs es] at same

theorem run_body_eq (body : List Statement) (w : World σ) :
    runBody invoke body w = runBody (invokeWithin w.session.room) body w := by
  have same := (run_body_agree (invoke_steady w.session.room) () body w).2.1 rfl
  rwa [show body.map (steady _).rewriting.statement = body from keep_body body] at same

theorem evaluate_eq (e : Expr) : (evaluate e : Run σ Value) = evaluateWith invoke e :=
  funext fun w => ((evaluate_with_agree (invoke_steady w.session.room) () e w).2.1 rfl).symm

theorem execute_eq (s : Statement) : (execute s : Run σ Flow) = executeWith invoke s :=
  funext fun w => ((execute_with_agree (invoke_steady w.session.room) () s w).2.1 rfl).symm

omit [Host σ] in
theorem entered_room {w : World σ} (below : w.session.callStack.length < w.session.settings.maxDepth)
    (f : DefinedFunction) (args : List Value) : (w.entered f args).session.room + 1 = w.session.room := by
  show w.session.settings.maxDepth - (w.session.callStack.length + 1) + 1 =
    w.session.settings.maxDepth - w.session.callStack.length
  omega

section

variable {f : DefinedFunction} {args : List Value} {w : World σ}

theorem invoke_refused {error : RuntimeError} (refused : f.refusal? args.length = some error) :
    invoke f args w = .error error w := by
  rw [invoke]
  cases w.session.room <;> rw [invokeWithin, refused] <;> rfl

theorem invoke_too_deep (accepted : f.refusal? args.length = none)
    (full : w.session.settings.maxDepth ≤ w.session.callStack.length) :
    invoke f args w = .error (.callDepthExceeded w.session.settings.maxDepth) w := by
  have none_left : w.session.room = 0 := Nat.sub_eq_zero_of_le full
  rw [invoke, none_left, invokeWithin, accepted]
  rfl

theorem invoke_in_frame (accepted : f.refusal? args.length = none)
    (below : w.session.callStack.length < w.session.settings.maxDepth) :
    invoke f args w = inFrame f args (runBody invoke f.body) w := by
  have smaller := entered_room below f args
  rw [invoke, ← smaller, invokeWithin, accepted]
  have body := run_body_eq f.body (w.entered f args)
  unfold World.entered at body ⊢
  simp only [inFrame, body]

end

mutual

def Expr.size : Expr → Nat
  | .literal _ | .variable _ => 1
  | .concat left right => left.size + right.size + 1
  | .call _ args => sizeOfAll args + 1

def Expr.sizeOfAll : List Expr → Nat
  | [] => 0
  | e :: es => e.size + sizeOfAll es + 1

end

mutual

def Statement.size : Statement → Nat
  | .function _ body => sizeOfAll body + 1
  | .echo exprs => Expr.sizeOfAll exprs + 1
  | .return e | .assign _ _ e => e.size + 1
  | .call _ _ args => Expr.sizeOfAll args + 2
  | .unlet _ targets => targets.length + 2
  | .delfunction .. | .command _ => 1

def Statement.sizeOfAll : List Statement → Nat
  | [] => 0
  | s :: rest => s.size + sizeOfAll rest + 1

end

-- One call of the interpreter's recursion. The value of an assignment is known when it is stored, and so are
-- the values of a message when it is shown.
inductive Task where
  | evaluate (e : Expr)
  | evaluateAll (es : List Expr)
  | invoke (f : DefinedFunction) (args : List Value)
  | body (statements : List Statement)
  | execute (s : Statement)
  | show (values : List Value)
  | store (target : Variable) (op : AssignOp) (value : Value)
  | remove (bang : Bool) (target : Variable)
  | removeAll (bang : Bool) (targets : List Variable)
  | executeAll (statements : List Statement)
  | source (script : Script)
  | call (name : String) (args : List Value)

namespace Task

abbrev Answer : Task → Type
  | evaluate _ | invoke .. | body _ | call .. => Value
  | evaluateAll _ => List Value
  | execute _ => Flow
  | .show _ | store .. | remove .. | removeAll .. | executeAll _ | source _ => PUnit

def run : (t : Task) → Run σ t.Answer
  | evaluate e => ExScript.evaluate e
  | evaluateAll es => evaluateAllWith ExScript.invoke es
  | invoke f args => ExScript.invoke f args
  | body statements => runBody ExScript.invoke statements
  | execute s => ExScript.execute s
  | .show values => do hostEcho ((← session).settings.separator.intercalate (values.map Value.text))
  | store target op value => do writeVariable target (← assigned target op value)
  | remove bang target => removeTarget bang target
  | removeAll bang targets => removeVariables bang targets
  | executeAll statements => ExScript.executeAll statements
  | source script => ExScript.source script
  | call name args => callFunction name args

-- The syntax that a task has before it; the body of an invoked function is not part of it.
def size : Task → Nat
  | evaluate e => e.size
  | evaluateAll es => Expr.sizeOfAll es
  | body statements | executeAll statements => Statement.sizeOfAll statements
  | execute s => s.size
  | source script => Statement.sizeOfAll script.statements + 1
  | removeAll _ targets => targets.length + 1
  | call .. => 1
  | invoke .. | .show _ | store .. | remove .. => 0

end Task

theorem run_resumes (t : Task) (w : World σ) : w.session.Resumes (worldAfter (t.run w)).session := by
  cases t with
  | evaluate e => exact evolves_resumes (evaluate_evolves e w)
  | evaluateAll es =>
      rw [Task.run, evaluate_all_eq]
      exact evolves_resumes (evaluate_all_with_agree (invoke_steady w.session.room) () es w).1
  | invoke f args => exact evolves_resumes (invoke_evolves f args w)
  | body statements =>
      rw [Task.run, run_body_eq]
      exact evolves_resumes (run_body_evolves _ statements w)
  | execute s => exact evolves_resumes (execute_evolves s w)
  | «show» values => exact resumes_refl _
  | store target op value => exact evolves_resumes ((store_accesses target op value).evolves 0 w)
  | remove bang target => exact evolves_resumes ((remove_target_accesses bang target).evolves 0 w)
  | removeAll bang targets => exact evolves_resumes ((remove_variables_accesses bang targets).evolves 0 w)
  | executeAll statements => exact evolves_resumes (execute_all_evolves statements w)
  | source script => exact source_resumes script w
  | call name args => exact evolves_resumes (call_function_evolves name args w)

theorem ok_resumes {t : Task} {w v : World σ} {a : t.Answer} (ended : t.run w = .ok a v) :
    w.session.Resumes v.session := by
  have resumed := run_resumes t w
  rwa [ended] at resumed

-- Running the first task in the first world comes to run the second task in the second world, as a direct
-- part of it. Later parts run in the worlds that the earlier parts left.
inductive Starts : Task → World σ → Task → World σ → Prop
  | left (l r : Expr) (w : World σ) : Starts (.evaluate (.concat l r)) w (.evaluate l) w
  | right (l r : Expr) {w v : World σ} {a : Value} (ended : (Task.evaluate l).run w = .ok a v) :
      Starts (.evaluate (.concat l r)) w (.evaluate r) v
  | arguments {name : FunctionName} {f : DefinedFunction} (args : List Expr) {w : World σ}
      (found : w.session.functions.get? (name.key w.session.currentScript) = some f) :
      Starts (.evaluate (.call name args)) w (.evaluateAll args) w
  | callee {name : FunctionName} {f : DefinedFunction} {args : List Expr} {w v : World σ} {values : List Value}
      (found : w.session.functions.get? (name.key w.session.currentScript) = some f)
      (ended : (Task.evaluateAll args).run w = .ok values v) :
      Starts (.evaluate (.call name args)) w (.invoke f values) v
  | head (e : Expr) (es : List Expr) (w : World σ) : Starts (.evaluateAll (e :: es)) w (.evaluate e) w
  | tail (e : Expr) (es : List Expr) {w v : World σ} {value : Value} (ended : (Task.evaluate e).run w = .ok value v) :
      Starts (.evaluateAll (e :: es)) w (.evaluateAll es) v
  | enter {f : DefinedFunction} {args : List Value} {w : World σ} (accepted : f.refusal? args.length = none)
      (below : w.session.callStack.length < w.session.settings.maxDepth) :
      Starts (.invoke f args) w (.body f.body) (w.entered f args)
  | first (s : Statement) (rest : List Statement) (w : World σ) : Starts (.body (s :: rest)) w (.execute s) w
  | next (s : Statement) (rest : List Statement) {w v : World σ} (ended : (Task.execute s).run w = .ok .next v) :
      Starts (.body (s :: rest)) w (.body rest) v
  | shown (exprs : List Expr) (w : World σ) : Starts (.execute (.echo exprs)) w (.evaluateAll exprs) w
  | show {exprs : List Expr} {w v : World σ} {values : List Value}
      (ended : (Task.evaluateAll exprs).run w = .ok values v) : Starts (.execute (.echo exprs)) w (.show values) v
  | result (e : Expr) {w : World σ} (inside : w.session.callStack.isEmpty = false) :
      Starts (.execute (.return e)) w (.evaluate e) w
  | stored (target : Variable) (op : AssignOp) (e : Expr) (w : World σ) :
      Starts (.execute (.assign target op e)) w (.evaluate e) w
  | store (target : Variable) (op : AssignOp) {e : Expr} {w v : World σ} {value : Value}
      (ended : (Task.evaluate e).run w = .ok value v) :
      Starts (.execute (.assign target op e)) w (.store target op value) v
  | unlet (bang : Bool) (targets : List Variable) (w : World σ) :
      Starts (.execute (.unlet bang targets)) w (.removeAll bang targets) w
  | firstTarget (bang : Bool) (target : Variable) (targets : List Variable) (w : World σ) :
      Starts (.removeAll bang (target :: targets)) w (.remove bang target) w
  | nextTarget {bang : Bool} {target : Variable} (targets : List Variable) {w v : World σ}
      (ended : (Task.remove bang target).run w = .ok ⟨⟩ v) :
      Starts (.removeAll bang (target :: targets)) w (.removeAll bang targets) v
  | called (range : Option String) (name : FunctionName) (args : List Expr) (w : World σ) :
      Starts (.execute (.call range name args)) w (.evaluate (.call name args)) w
  | firstTop (s : Statement) (rest : List Statement) (w : World σ) :
      Starts (.executeAll (s :: rest)) w (.execute s) w
  | nextTop (s : Statement) (rest : List Statement) {w v : World σ} {flow : Flow}
      (ended : (Task.execute s).run w = .ok flow v) : Starts (.executeAll (s :: rest)) w (.executeAll rest) v
  | opened (script : Script) (w : World σ) :
      Starts (.source script) w (.executeAll script.statements) (w.opened script.id)
  | named {name : String} {f : DefinedFunction} (args : List Value) {w : World σ}
      (found : w.session.functions.get? (Session.globalKey name) = some f) :
      Starts (.call name args) w (.invoke f args) w

-- How much a task may still do: the calls that may nest in it come before its syntax.
def Task.rank (t : Task) (w : World σ) : Nat × Nat := (w.session.room, t.size)

section

variable {t t' : Task} {w w' : World σ}

omit [Host σ] in
theorem rank_lt_of_resumes (resumed : w.session.Resumes w'.session) (smaller : t'.size < t.size) :
    Prod.Lex (· < ·) (· < ·) (t'.rank w') (t.rank w) := by
  unfold Task.rank
  rw [resumes_room resumed]
  exact .right _ smaller

omit [Host σ] in
theorem rank_lt_of_size (smaller : t'.size < t.size) : Prod.Lex (· < ·) (· < ·) (t'.rank w) (t.rank w) :=
  rank_lt_of_resumes (resumes_refl _) smaller

-- Only entering a function makes syntax from nowhere, and it takes up room.
theorem starts_rank (started : Starts t w t' w') : Prod.Lex (· < ·) (· < ·) (t'.rank w') (t.rank w) := by
  cases started with
  | enter accepted below => exact .left _ _ (Nat.lt_of_succ_le (Nat.le_of_eq (entered_room below _ _)))
  | right l r ended | tail e es ended | callee found ended | next s rest ended | «show» ended
  | store target op ended | nextTarget targets ended | nextTop s rest ended =>
      refine rank_lt_of_resumes (ok_resumes ended) ?_
      simp only [Task.size, Expr.size, Expr.sizeOfAll, Statement.size, Statement.sizeOfAll, List.length_cons]
      omega
  | _ =>
      refine rank_lt_of_size ?_
      simp only [Task.size, Expr.size, Expr.sizeOfAll, Statement.size, Statement.sizeOfAll, List.length_cons]
      omega

end

theorem starts_well_founded :
    WellFounded fun later earlier : Task × World σ => Starts earlier.1 earlier.2 later.1 later.2 :=
  Subrelation.wf (fun started => starts_rank started)
    (InvImage.wf (fun moment : Task × World σ => moment.1.rank moment.2)
      (WellFounded.prod_lex Nat.lt_wfRel.wf Nat.lt_wfRel.wf))

end ExScript
