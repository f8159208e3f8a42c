import ExScript.Proofs.Session.Access

set_option autoImplicit false

namespace ExScript

-- Changes code inside expressions, and in a way that concatenation does not notice.
structure Rewriting where
  expr : Expr → Expr
  statement : Statement → Statement
  literal : ∀ value, expr (.literal value) = .literal value
  reference : ∀ v, expr (.variable v) = .variable v
  concat : ∀ {σ : Type} [Host σ] (invoke : Invoke σ) (left right : Expr),
    evaluateWith invoke (expr (.concat left right)) = evaluateWith invoke (.concat (expr left) (expr right))
  callee : ∀ name args, expr (.call name args) = .call name (args.map expr)
  function : ∀ header body, statement (.function header body) = .function header (body.map statement)
  echo : ∀ exprs, statement (.echo exprs) = .echo (exprs.map expr)
  result : ∀ value, statement (.return value) = .return (expr value)
  assign : ∀ target op value, statement (.assign target op value) = .assign target op (expr value)
  unlet : ∀ bang targets, statement (.unlet bang targets) = .unlet bang targets
  call : ∀ range name args, statement (.call range name args) = .call range name (args.map expr)
  delfunction : ∀ bang name, statement (.delfunction bang name) = .delfunction bang name
  command : ∀ c, statement (.command c) = .command c

def Rewriting.keep : Rewriting where
  expr := id
  statement := id
  literal _ := rfl
  reference _ := rfl
  concat _ _ _ := rfl
  callee _ _ := by rw [List.map_id]; rfl
  function _ _ := by rw [List.map_id]; rfl
  echo _ := by rw [List.map_id]; rfl
  result _ := rfl
  assign _ _ _ := rfl
  unlet _ _ := rfl
  call _ _ _ := by rw [List.map_id]; rfl
  delfunction _ _ := rfl
  command _ := rfl

@[simp]
theorem keep_exprs (es : List Expr) : es.map Rewriting.keep.expr = es := List.map_id es

@[simp]
theorem keep_body (body : List Statement) : body.map Rewriting.keep.statement = body := List.map_id body

variable {σ : Type} [Host σ]

-- What a single statement does to the session once its expressions are evaluated.
def declare (header : FunctionHeader) (body : List Statement) : Run σ PUnit :=
  session >>= fun s => updateSession (s.define header body)

def undeclare (bang : Bool) (name : FunctionName) : Run σ PUnit :=
  session >>= fun s => updateSession (s.delete bang name)

def showValues (values : List Value) : Run σ PUnit :=
  session >>= fun s => hostEcho (s.settings.separator.intercalate (values.map Value.text))

def returnable : Run σ PUnit :=
  session >>= fun s => if s.callStack.isEmpty then throw .returnOutsideFunction else pure ⟨⟩

theorem execute_with_return (invoke : Invoke σ) (value : Expr) : executeWith invoke (.return value) =
    returnable >>= fun _ => evaluateWith invoke value >>= fun x => pure (.returned x) := by
  funext w
  rw [executeWith, returnable, bind_assoc, session_bind, session_bind]
  cases w.session.callStack.isEmpty <;> rfl

theorem execute_with_function (invoke : Invoke σ) (header : FunctionHeader) (body : List Statement) :
    executeWith invoke (.function header body) = declare header body >>= fun _ => pure .next := by
  rw [executeWith, declare, bind_assoc]

theorem execute_with_delfunction (invoke : Invoke σ) (bang : Bool) (name : FunctionName) :
    executeWith invoke (.delfunction bang name) = undeclare bang name >>= fun _ => pure .next := by
  rw [executeWith, undeclare, bind_assoc]

theorem execute_with_echo (invoke : Invoke σ) (exprs : List Expr) : executeWith invoke (.echo exprs) =
    evaluateAllWith invoke exprs >>= fun values => showValues values >>= fun _ => pure .next := by
  simp only [executeWith, showValues, bind_assoc]

-- Two runs of the interpreter side by side, on code and on a rewriting of it. What is compared of every single access
-- to the world, and may be chained, is compared of evaluation, statements and bodies.
structure Comparison (σ : Type) [Host σ] where
  rewriting : Rewriting
  Stage : Type
  Before : Stage → Stage → Prop
  SameFunction : Stage → DefinedFunction → DefinedFunction → Prop
  Compare : {α : Type} → Stage → (Stage → α → α → Prop) → Run σ α → Run σ α → Prop
  same_function_mono : ∀ {i j f g}, Before i j → SameFunction i f g → SameFunction j f g
  pure : ∀ {α : Type} (i : Stage) (a : α), Compare i (fun _ => Eq) (pure a) (pure a)
  bind : ∀ {α β : Type} {i same same'} {first first' : Run σ α} {next next' : α → Run σ β},
    Compare i same first first' →
    (∀ j a b, Before i j → same j a b → Compare j same' (next a) (next' b)) →
    Compare i same' (first >>= next) (first' >>= next')
  find : ∀ i v, Compare i (fun _ => Eq) (findVariable v) (findVariable v)
  undefined : ∀ {α : Type} (i : Stage) (v : Variable), Compare (α := α) i (fun _ => Eq)
    (session >>= fun s => throw (s.undefined v)) (session >>= fun s => throw (s.undefined v))
  write : ∀ i v x, Compare i (fun _ => Eq) (writeVariable v x) (writeVariable v x)
  remove : ∀ i v, Compare i (fun _ => Eq) (removeVariable v) (removeVariable v)
  resolve : ∀ i name, Compare i SameFunction (resolve name) (resolve name)
  declare : ∀ i header body, Compare i (fun _ => Eq) (declare header body)
    (declare header (body.map rewriting.statement))
  undeclare : ∀ i bang name, Compare i (fun _ => Eq) (undeclare bang name) (undeclare bang name)
  shown : ∀ i values, Compare i (fun _ => Eq) (showValues values) (showValues values)
  returnable : ∀ i, Compare i (fun _ => Eq) returnable returnable
  command : ∀ i c, Compare i (fun _ => Eq) (hostCommand c) (hostCommand c)

namespace Comparison

variable (c : Comparison σ)

-- Both compute the same value.
abbrev Agree {α : Type} (i : c.Stage) (run run' : Run σ α) : Prop := c.Compare i (fun _ => Eq) run run'

-- Each side invokes its own version of a function.
def CallsAgree (invoke invoke' : Invoke σ) : Prop :=
  ∀ i f g args, c.SameFunction i f g → c.Agree i (invoke f args) (invoke' g args)

end Comparison

variable {c : Comparison σ}

theorem agree_then {α β : Type} {i : c.Stage} {first first' : Run σ α} {next next' : α → Run σ β}
    (start : c.Agree i first first') (rest : ∀ j a, c.Before i j → c.Agree j (next a) (next' a)) :
    c.Agree i (first >>= next) (first' >>= next') := by
  refine c.bind start fun j a b later same => ?_
  cases same
  exact rest j a later

theorem agree_map {α β : Type} {i : c.Stage} {first first' : Run σ α} (start : c.Agree i first first') (f : α → β) :
    c.Agree i (first >>= fun a => pure (f a)) (first' >>= fun a => pure (f a)) :=
  agree_then start fun j a _ => c.pure j (f a)

theorem read_variable_agree (i : c.Stage) (v : Variable) : c.Agree i (readVariable v) (readVariable v) := by
  refine agree_then (c.find i v) fun j found _ => ?_
  cases found with
  | some value => exact c.pure j value
  | none => exact c.undefined j v

theorem assigned_agree (i : c.Stage) (target : Variable) (op : AssignOp) (value : Value) :
    c.Agree i (assigned target op value) (assigned target op value) := by
  cases op with
  | assign => exact c.pure i value
  | append => exact agree_map (read_variable_agree i target) _

theorem remove_variables_agree (i : c.Stage) (bang : Bool) (targets : List Variable) :
    c.Agree i (removeVariables bang targets) (removeVariables bang targets) := by
  induction targets generalizing i with
  | nil => exact c.pure i PUnit.unit
  | cons v vs ih =>
      refine agree_then (c.remove i v) fun j existed _ => ?_
      cases existed || bang with
      | true => exact ih j
      | false => exact c.undefined j v

section

variable {invoke invoke' : Invoke σ}

mutual

theorem evaluate_with_agree (calls : c.CallsAgree invoke invoke') (i : c.Stage) (e : Expr) :
    c.Agree i (evaluateWith invoke e) (evaluateWith invoke' (c.rewriting.expr e)) := by
  cases e with
  | literal value =>
      rw [c.rewriting.literal, evaluateWith, evaluateWith]
      exact c.pure i value
  | «variable» v =>
      rw [c.rewriting.reference, evaluateWith, evaluateWith]
      exact read_variable_agree i v
  | concat left right =>
      rw [c.rewriting.concat, evaluateWith, evaluateWith]
      refine agree_then (evaluate_with_agree calls i left) fun j a _ => ?_
      exact agree_map (evaluate_with_agree calls j right) _
  | call name args =>
      rw [c.rewriting.callee, evaluateWith, evaluateWith]
      refine c.bind (c.resolve i name) fun j f g _ found => ?_
      refine agree_then (evaluate_all_with_agree calls j args) fun k values later => ?_
      exact calls k f g values (c.same_function_mono later found)

theorem evaluate_all_with_agree (calls : c.CallsAgree invoke invoke') (i : c.Stage) (es : List Expr) :
    c.Agree i (evaluateAllWith invoke es) (evaluateAllWith invoke' (es.map c.rewriting.expr)) := by
  cases es with
  | nil => exact c.pure i []
  | cons e es =>
      rw [List.map_cons, evaluateAllWith, evaluateAllWith]
      refine agree_then (evaluate_with_agree calls i e) fun j value _ => ?_
      exact agree_map (evaluate_all_with_agree calls j es) _

end

variable (calls : c.CallsAgree invoke invoke')

include calls

theorem execute_with_agree (i : c.Stage) (s : Statement) :
    c.Agree i (executeWith invoke s) (executeWith invoke' (c.rewriting.statement s)) := by
  cases s with
  | function header body =>
      rw [c.rewriting.function, execute_with_function, execute_with_function]
      exact agree_map (c.declare i header body) _
  | echo exprs =>
      rw [c.rewriting.echo, execute_with_echo, execute_with_echo]
      refine agree_then (evaluate_all_with_agree calls i exprs) fun j values _ => ?_
      exact agree_map (c.shown j values) _
  | «return» value =>
      rw [c.rewriting.result, execute_with_return, execute_with_return]
      exact agree_then (c.returnable i) fun j _ _ => agree_map (evaluate_with_agree calls j value) _
  | assign target op value =>
      rw [c.rewriting.assign]
      refine agree_then (evaluate_with_agree calls i value) fun j value _ => ?_
      refine agree_then (assigned_agree j target op value) fun k value _ => ?_
      exact agree_map (c.write k target value) _
  | unlet bang targets =>
      rw [c.rewriting.unlet]
      exact agree_map (remove_variables_agree i bang targets) _
  | call range name args =>
      rw [c.rewriting.call]
      refine c.bind (c.resolve i name) fun j f g _ found => ?_
      refine agree_then (evaluate_all_with_agree calls j args) fun k values later => ?_
      exact agree_map (calls k f g values (c.same_function_mono later found)) _
  | delfunction bang name =>
      rw [c.rewriting.delfunction, execute_with_delfunction, execute_with_delfunction]
      exact agree_map (c.undeclare i bang name) _
  | command cmd =>
      rw [c.rewriting.command]
      exact agree_map (c.command i cmd) _

theorem run_body_agree (i : c.Stage) (body : List Statement) :
    c.Agree i (runBody invoke body) (runBody invoke' (body.map c.rewriting.statement)) := by
  induction body generalizing i with
  | nil => exact c.pure i _
  | cons s rest ih =>
      rw [List.map_cons, runBody, runBody]
      refine agree_then (execute_with_agree calls i s) fun j flow _ => ?_
      cases flow with
      | next => exact ih j
      | returned value => exact c.pure j value

end

end ExScript
