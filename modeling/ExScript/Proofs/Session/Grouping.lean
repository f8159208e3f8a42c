import ExScript.Host.Recorder
import ExScript.Proofs.Session.Moments
import ExScript.Proofs.Session.Simulation

set_option autoImplicit false

namespace ExScript

-- The operands of a concatenation, from left to right, down to what is none itself.
def Expr.leaves : Expr → List Expr
  | .concat left right => left.leaves ++ right.leaves
  | e => [e]

theorem leaves_single {e : Expr} (single : ∀ left right, e ≠ .concat left right) : e.leaves = [e] := by
  cases e with
  | concat left right => exact absurd rfl (single left right)
  | _ => rfl

def Value.joined (values : List Value) : Value := .str (String.join (values.map Value.text))

variable {σ : Type}

section

variable [Host σ] (invoke : Invoke σ)

theorem evaluate_all_with_append (es es' : List Expr) : evaluateAllWith invoke (es ++ es') = do
    let values ← evaluateAllWith invoke es
    let values' ← evaluateAllWith invoke es'
    return values ++ values' := by
  induction es with
  | nil => simp [evaluateAllWith]
  | cons e es ih => simp [evaluateAllWith, ih]

theorem evaluate_with_concat (left right : Expr) : evaluateWith invoke (.concat left right) = do
    let a ← Value.text <$> evaluateWith invoke left
    let b ← Value.text <$> evaluateWith invoke right
    return .str (a ++ b) := by
  simp [evaluateWith, Value.concat]

-- Only of the text: a single operand keeps its value, which may be a number.
theorem text_evaluate_with (e : Expr) : Value.text <$> evaluateWith invoke e =
    (fun values => String.join (values.map Value.text)) <$> evaluateAllWith invoke e.leaves := by
  induction e using Expr.leaves.induct with
  | case1 left right ihLeft ihRight =>
      rw [evaluate_with_concat, ihLeft, ihRight, Expr.leaves, evaluate_all_with_append]
      simp [Value.text, String.join_append]
  | case2 e single => simp [leaves_single single, evaluateAllWith, String.join_cons]

theorem evaluate_with_joined (left right : Expr) : evaluateWith invoke (.concat left right) =
    Value.joined <$> evaluateAllWith invoke (Expr.concat left right).leaves := by
  rw [evaluate_with_concat, text_evaluate_with, text_evaluate_with, Expr.leaves, evaluate_all_with_append]
  simp [Value.joined, String.join_append]

theorem evaluate_with_assoc (a b c : Expr) :
    evaluateWith invoke (.concat (.concat a b) c) = evaluateWith invoke (.concat a (.concat b c)) := by
  rw [evaluate_with_joined, evaluate_with_joined]
  simp only [Expr.leaves, List.append_assoc]

theorem evaluate_with_appended (e before : Expr) :
    evaluateWith invoke (e.leaves.foldl .concat before) = evaluateWith invoke (.concat before e) := by
  induction e using Expr.leaves.induct generalizing before with
  | case1 left right ihLeft ihRight =>
      rw [Expr.leaves, List.foldl_append, ihRight, ← evaluate_with_assoc, evaluate_with_concat, ihLeft,
        ← evaluate_with_concat]
  | case2 e single => rw [leaves_single single, List.foldl_cons, List.foldl_nil]

end

theorem leaves_appended (e before : Expr) : (e.leaves.foldl .concat before).leaves = before.leaves ++ e.leaves := by
  induction e using Expr.leaves.induct generalizing before with
  | case1 left right ihLeft ihRight => rw [Expr.leaves, List.foldl_append, ihRight, ihLeft, List.append_assoc]
  | case2 e single => rw [leaves_single single, List.foldl_cons, List.foldl_nil, Expr.leaves, leaves_single single]

-- The same code with every concatenation nested to the left.
mutual

def Expr.ungrouped : Expr → Expr
  | .concat left right => right.ungrouped.leaves.foldl .concat left.ungrouped
  | .call name args => .call name (Expr.ungroupedAll args)
  | .literal value => .literal value
  | .variable v => .variable v

def Expr.ungroupedAll : List Expr → List Expr
  | [] => []
  | e :: es => e.ungrouped :: Expr.ungroupedAll es

end

mutual

def Statement.ungrouped : Statement → Statement
  | .function header body => .function header (Statement.ungroupedAll body)
  | .echo exprs => .echo (Expr.ungroupedAll exprs)
  | .return value => .return value.ungrouped
  | .assign target op value => .assign target op value.ungrouped
  | .unlet bang targets => .unlet bang targets
  | .call range name args => .call range name (Expr.ungroupedAll args)
  | .delfunction bang name => .delfunction bang name
  | .command c => .command c

def Statement.ungroupedAll : List Statement → List Statement
  | [] => []
  | s :: rest => s.ungrouped :: Statement.ungroupedAll rest

end

theorem ungrouped_all_eq (es : List Expr) : Expr.ungroupedAll es = es.map Expr.ungrouped := by
  induction es with
  | nil => rfl
  | cons e es ih => rw [Expr.ungroupedAll, ih, List.map_cons]

theorem ungrouped_body_eq (body : List Statement) : Statement.ungroupedAll body = body.map Statement.ungrouped := by
  induction body with
  | nil => rfl
  | cons s rest ih => rw [Statement.ungroupedAll, ih, List.map_cons]

def ungrouping : Rewriting where
  expr := Expr.ungrouped
  statement := Statement.ungrouped
  literal _ := rfl
  reference _ := rfl
  concat invoke left right := by rw [Expr.ungrouped, evaluate_with_appended]
  callee _ _ := by rw [Expr.ungrouped, ungrouped_all_eq]
  function _ _ := by rw [Statement.ungrouped, ungrouped_body_eq]
  echo _ := by rw [Statement.ungrouped, ungrouped_all_eq]
  result _ := rfl
  assign _ _ _ := rfl
  unlet _ _ := rfl
  call _ _ _ := by rw [Statement.ungrouped, ungrouped_all_eq]
  delfunction _ _ := rfl
  command _ := rfl

theorem leaves_ungrouped (e : Expr) : e.ungrouped.leaves = e.leaves.map Expr.ungrouped := by
  induction e using Expr.leaves.induct with
  | case1 left right ihLeft ihRight =>
      rw [Expr.ungrouped, leaves_appended, ihLeft, ihRight, Expr.leaves, List.map_append]
  | case2 e single =>
      cases e with
      | concat left right => exact absurd rfl (single left right)
      | _ => rfl

theorem ungrouped_eq (e : Expr) : ∃ first rest, e.leaves = first :: rest ∧
    e.ungrouped = (rest.map Expr.ungrouped).foldl .concat first.ungrouped := by
  induction e using Expr.leaves.induct with
  | case1 left right ihLeft ihRight =>
      obtain ⟨first, rest, parts, nested⟩ := ihLeft
      refine ⟨first, rest ++ right.leaves, by rw [Expr.leaves, parts, List.cons_append], ?_⟩
      rw [Expr.ungrouped, leaves_ungrouped, nested, List.map_append, List.foldl_append]
  | case2 e single => exact ⟨e, [], leaves_single single, rfl⟩

theorem ungrouped_of_leaves {e e' : Expr} (same : e.leaves = e'.leaves) : e.ungrouped = e'.ungrouped := by
  obtain ⟨first, rest, parts, nested⟩ := ungrouped_eq e
  obtain ⟨first', rest', parts', nested'⟩ := ungrouped_eq e'
  rw [parts, parts'] at same
  cases same
  rw [nested, nested']

namespace Table

variable {κ ν ν' : Type} [DecidableEq κ]

def map (g : ν → ν') (t : Table κ ν) : Table κ ν' :=
  ⟨t.entries.map fun entry => (entry.1, g entry.2), by simpa [Function.comp_def] using t.distinct⟩

@[simp]
theorem get?_map (g : ν → ν') (t : Table κ ν) (key : κ) : (t.map g).get? key = (t.get? key).map g := by
  simp [get?, map, List.find?_map, Function.comp_def]

@[simp]
theorem contains_map (g : ν → ν') (t : Table κ ν) (key : κ) : (t.map g).contains key = t.contains key := by
  simp [contains, get?_map]

theorem without_map (g : ν → ν') (entries : List (κ × ν)) (key : κ) :
    without (entries.map fun entry => (entry.1, g entry.2)) key =
      (without entries key).map fun entry => (entry.1, g entry.2) := by
  simp [without, List.filter_map, Function.comp_def]

@[simp]
theorem erase_map (g : ν → ν') (t : Table κ ν) (key : κ) : (t.map g).erase key = (t.erase key).map g := by
  simp [erase, map, without_map]

theorem insert_map (g : ν → ν') (t : Table κ ν) (key : κ) (value : ν) :
    (t.map g).insert key (g value) = (t.insert key value).map g := by
  simp [insert, map, without_map]

end Table

def DefinedFunction.ungrouped (f : DefinedFunction) : DefinedFunction :=
  { f with body := Statement.ungroupedAll f.body }

def Session.ungrouped (s : Session) : Session := { s with functions := s.functions.map DefinedFunction.ungrouped }

def World.ungrouped (w : World σ) : World σ := { w with session := w.session.ungrouped }

def ungroupedEnding {α : Type} : Ending σ α → Ending σ α
  | .ok a w => .ok a w.ungrouped
  | .error error w => .error error w.ungrouped

section

variable (s : Session)

@[simp]
theorem functions_ungrouped : s.ungrouped.functions = s.functions.map DefinedFunction.ungrouped := rfl

@[simp]
theorem current_script_ungrouped : s.ungrouped.currentScript = s.currentScript := rfl

@[simp]
theorem stored_ungrouped (slot : Slot) (name : String) : s.ungrouped.stored? slot name = s.stored? slot name := by
  cases slot <;> rfl

@[simp]
theorem store_ungrouped (slot : Slot) (name : String) (value : Value) :
    s.ungrouped.store slot name value = (s.store slot name value).ungrouped := by
  obtain ⟨settings, globals, namespaces, functions, callStack, sourcing, heap⟩ := s
  cases slot with
  | function => cases callStack <;> rfl
  | _ => rfl

@[simp]
theorem discard_ungrouped (slot : Slot) (name : String) : s.ungrouped.discard slot name =
    ((s.discard slot name).1, (s.discard slot name).2.ungrouped) := by
  obtain ⟨settings, globals, namespaces, functions, callStack, sourcing, heap⟩ := s
  cases slot with
  | function => cases callStack <;> rfl
  | global => cases held : globals.contains name <;> simp [Session.discard, Session.ungrouped, held]
  | script id =>
      cases held : ((namespaces.get? id).getD .empty).contains name <;>
        simp [Session.discard, Session.ungrouped, Session.namespaceOf, held]
  | _ => rfl

theorem define_ungrouped (header : FunctionHeader) (body : List Statement) :
    s.ungrouped.define header (Statement.ungroupedAll body) = (s.define header body).map Session.ungrouped := by
  unfold Session.define FunctionTable.define
  dsimp only
  rw [current_script_ungrouped, functions_ungrouped, Table.contains_map]
  by_cases refused : (!header.replace && s.functions.contains (header.name.key s.currentScript)) = true
  · rw [if_pos refused, if_pos refused]
    rfl
  · rw [if_neg refused, if_neg refused]
    have filed := Table.insert_map DefinedFunction.ungrouped s.functions (header.name.key s.currentScript)
      (s.declared header body)
    exact congrArg (fun functions => Except.ok { s with functions }) filed

theorem delete_ungrouped (bang : Bool) (name : FunctionName) :
    s.ungrouped.delete bang name = (s.delete bang name).map Session.ungrouped := by
  unfold Session.delete
  dsimp only
  rw [current_script_ungrouped, functions_ungrouped, Table.contains_map, Table.erase_map]
  split
  · rfl
  · split <;> rfl

end

theorem same_ending_ungrouped (ended : Except RuntimeError Session) :
    SameEnding (fun s t => t = s.ungrouped) ended (ended.map Session.ungrouped) := by
  cases ended <;> rfl

-- A session and its ungrouped one, each with its own version of the code.
def regrouping : Simulation where
  rewriting := ungrouping
  Stage := Unit
  Before _ _ := True
  Alike _ s t := t = s.ungrouped
  SameFunction _ f g := g = f.ungrouped
  before_refl _ := trivial
  before_trans _ _ := trivial
  same_function_mono _ same := same
  header same := by rw [same]; rfl
  body same := by rw [same]; exact ungrouped_body_eq _
  settings alike := by rw [alike]; rfl
  depth alike := by rw [alike]; rfl
  script alike := by rw [alike]; rfl
  stored alike scope name := by rw [alike, stored_ungrouped]
  store alike scope name value := by rw [alike, store_ungrouped]
  discarded alike scope name := by rw [alike, discard_ungrouped]
  discard alike scope name := by rw [alike, discard_ungrouped]
  function {_ s _} alike name := by
    rw [alike, functions_ungrouped, Table.get?_map]
    cases s.functions.get? (name.key s.currentScript) with
    | none => exact .none
    | some f => exact .some rfl
  define {_ s _} alike header body := by
    have defined : s.ungrouped.define header (body.map ungrouping.statement) = _ :=
      ungrouped_body_eq body ▸ define_ungrouped s header body
    rw [alike, defined]
    exact same_ending_ungrouped _
  delete alike bang name := by
    rw [alike, delete_ungrouped]
    exact same_ending_ungrouped _
  enter alike same args := ⟨(), trivial, by rw [alike, same]; rfl⟩
  leave _ _ inside _ _ := by rw [inside]; rfl

theorem ungrouped_ending_of_outcome {α : Type} {ended ended' : Ending σ α}
    (outcome : regrouping.SameOutcome () (fun _ => Eq) ended ended') : ended' = ungroupedEnding ended := by
  have worlds : ∀ {i : regrouping.Stage} {w v : World σ}, regrouping.AlikeWorlds i w v → v = w.ungrouped := by
    rintro i ⟨s, host, calls⟩ ⟨t, host', calls'⟩ ⟨sessions, hosts, same⟩
    cases hosts
    cases same
    exact congrArg (World.mk · host calls) sessions
  rcases outcome_cases outcome with
    ⟨a, w, b, v, _, rfl, rfl, _, rfl, alike⟩ | ⟨error, w, v, _, rfl, rfl, _, alike⟩
  · rw [worlds alike, ungroupedEnding]
  · rw [worlds alike, ungroupedEnding]

variable [Host σ]

theorem source_ungrouped (script : Script) (w : World σ) : ungroupedEnding (source script w) =
    whileSourcing script.id (executeAll (Statement.ungroupedAll script.statements)) w.ungrouped := by
  have inside := ungrouped_ending_of_outcome (execute_all_agrees regrouping () script.statements
    (w.opened script.id) (w.ungrouped.opened script.id) ⟨rfl, rfl, rfl⟩)
  have statements : script.statements.map regrouping.rewriting.statement = Statement.ungroupedAll script.statements :=
    (ungrouped_body_eq _).symm
  rw [statements] at inside
  rw [source, while_sourcing_eq, while_sourcing_eq, inside]
  cases executeAll script.statements (w.opened script.id) <;> rfl

theorem concatenation_ignores_grouping :
    (∀ left right left' right' : Expr, (Expr.concat left right).leaves = (Expr.concat left' right').leaves →
      ∀ w : World σ, evaluate (.concat left right) w = evaluate (.concat left' right') w) ∧
    (∀ (left right : Expr) (w : World σ), evaluate (.concat left right) w =
      mapped Value.joined (evaluateAllWith invoke (Expr.concat left right).leaves w)) ∧
    (∀ e e' : Expr, e.leaves = e'.leaves → e.ungrouped = e'.ungrouped) ∧
    ∀ script script' : Script, script.id = script'.id →
      Statement.ungroupedAll script.statements = Statement.ungroupedAll script'.statements →
      ∀ w w' : World σ, w.ungrouped = w'.ungrouped →
        ungroupedEnding (source script w) = ungroupedEnding (source script' w') := by
  refine ⟨?_, ?_, fun e e' => ungrouped_of_leaves, ?_⟩
  · intro left right left' right' same w
    rw [evaluate_eq, evaluate_eq, evaluate_with_joined, evaluate_with_joined, same]
  · intro left right w
    rw [evaluate_eq, evaluate_with_joined, map_eq_pure_bind, bind_pure_eq]
  · intro script script' ids statements w w' worlds
    rw [source_ungrouped, source_ungrouped, ids, statements, worlds]

-- `Next` counts its calls in a global variable, and `Show` shows what it is given.
def counter (shown : Expr) : Script :=
  ⟨"c.vim", [.assign ⟨some .global, "n"⟩ .assign (.literal (.num 0)),
    .function ⟨⟨none, "Next"⟩, [], .empty, false⟩
      [.assign ⟨some .global, "n"⟩ .append (.literal (.num 1)), .return (.variable ⟨some .global, "n"⟩)],
    .function ⟨⟨none, "Show"⟩, [], .empty, false⟩ [.echo [shown]], .call none ⟨none, "Show"⟩ []], []⟩

def nextCall : Expr := .call ⟨none, "Next"⟩ []

def dash : Expr := .literal (.str "-")

def counted : World Recorder :=
  worldAfter (source (counter (.concat (.concat nextCall dash) nextCall)) (.start .fresh .empty))

theorem counter_regrouped :
    evaluate (.concat (.concat nextCall dash) nextCall) counted =
      evaluate (.concat nextCall (.concat dash nextCall)) counted ∧
    ungroupedEnding (source (counter (.concat (.concat nextCall dash) nextCall)) (.start .fresh Recorder.empty)) =
      ungroupedEnding (source (counter (.concat nextCall (.concat dash nextCall))) (.start .fresh Recorder.empty)) ∧
    counted.host.messages = ["01-011"] := by
  obtain ⟨evaluated, -, -, sourced⟩ := concatenation_ignores_grouping (σ := Recorder)
  refine ⟨?_, ?_, by decide +kernel⟩
  · exact evaluated (.concat nextCall dash) nextCall nextCall (.concat dash nextCall) rfl counted
  · exact sourced (counter (.concat (.concat nextCall dash) nextCall))
      (counter (.concat nextCall (.concat dash nextCall))) rfl rfl _ _ rfl

end ExScript
