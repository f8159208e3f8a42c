import Mathlib.Data.List.Forall2
import ExScript.Proofs.Json.Forms
import ExScript.Script.Json

set_option autoImplicit false

namespace ExScript

open Json (Field RecordForm VariantForm ListForm Gives field?_of_form field_d_of_form optional?_of_form is_record_of_form
  record_form_written)

-- The fields that variables and function names have in common.
def nameFields (scope : Option Scope) (name : String) : List Field :=
  [⟨"scope", (· = .ofOption Scope.toJson scope), some .null⟩, ⟨"name", (· = .str name), none⟩]

def Variable.Form (v : Variable) : Json → Prop := RecordForm (nameFields v.scope v.name)

def FunctionName.Form (f : FunctionName) : Json → Prop := RecordForm (nameFields f.scope f.name)

def invocationFields (name : FunctionName) (Args : List Json → Prop) : List Field :=
  [⟨"name", name.Form, none⟩, ⟨"args", ListForm Args, none⟩]

mutual

def Expr.Form : Expr → Json → Prop
  | .literal value => VariantForm "Literal" (· = value.toJson)
  | .variable v => VariantForm "Variable" v.Form
  | .concat left right =>
      VariantForm "Concat" (ListForm fun items => ∃ l r, items = [l, r] ∧ left.Form l ∧ right.Form r)
  | .call name args => VariantForm "Call" (RecordForm (invocationFields name (Expr.Forms args)))

def Expr.Forms : List Expr → List Json → Prop
  | [], items => items = []
  | e :: es, items => ∃ first rest, items = first :: rest ∧ e.Form first ∧ Expr.Forms es rest

end

-- A list of the set's flags, each at least once.
def Flags.Form (flags : Flags) : Json → Prop :=
  ListForm fun items => ∃ listed : List Flag, items = listed.map (fun f => .str f.jsonName) ∧
    ∀ f, f ∈ listed ↔ flags.contains f = true

def FunctionHeader.fields (header : FunctionHeader) (Body : List Json → Prop) : List Field :=
  [⟨"name", (· = .str header.name.name), none⟩, ⟨"scope", (· = .ofOption Scope.toJson header.name.scope), some .null⟩,
    ⟨"args", (· = .arr (header.params.map .str)), none⟩, ⟨"flags", header.flags.Form, none⟩,
    ⟨"body", ListForm Body, none⟩, ⟨"replace_existing", (· = .bool header.replace), none⟩]

def HostCommand.fields (c : HostCommand) : List Field :=
  [⟨"range", (· = .ofOption .str c.range), some .null⟩, ⟨"name", (· = .str c.name), none⟩,
    ⟨"bang", (· = .bool c.bang), none⟩, ⟨"args", (· = .str c.args), none⟩]

mutual

def Statement.Form : Statement → Json → Prop
  | .function header body => VariantForm "FunctionDeclaration" (RecordForm (header.fields (Statement.Forms body)))
  | .echo exprs => VariantForm "Echo" (RecordForm [⟨"expressions", ListForm (Expr.Forms exprs), none⟩])
  | .return value => VariantForm "Return" (RecordForm [⟨"expression", value.Form, none⟩])
  | .assign target op value => VariantForm "Let" (RecordForm [⟨"target", target.Form, none⟩,
      ⟨"operator", (· = op.toJson), none⟩, ⟨"value", value.Form, none⟩])
  | .unlet bang targets => VariantForm "Unlet" (RecordForm [⟨"bang", (· = .bool bang), none⟩,
      ⟨"targets", ListForm (List.Forall₂ Variable.Form targets), none⟩])
  | .call range name args => VariantForm "Call" (RecordForm [⟨"range", (· = .ofOption .str range), some .null⟩,
      ⟨"call", RecordForm (invocationFields name (Expr.Forms args)), none⟩])
  | .delfunction bang name => VariantForm "DelFunction" (RecordForm [⟨"bang", (· = .bool bang), none⟩,
      ⟨"name", name.Form, none⟩])
  | .command c => VariantForm "Generic" (RecordForm c.fields)

def Statement.Forms : List Statement → List Json → Prop
  | [], items => items = []
  | s :: rest, items => ∃ first more, items = first :: more ∧ s.Form first ∧ Statement.Forms rest more

end

-- The lines may be left out where there are none.
def Script.Form (s : Script) : Json → Prop :=
  RecordForm [⟨"id", (· = .str s.id), none⟩, ⟨"units", ListForm (Statement.Forms s.statements), none⟩,
    ⟨"source_map", (· = .arr (s.lines.map .ofNat)), some (.arr [])⟩]

theorem int64?_to_int (n : Int64) : Json.int64? (.int n.toInt) = some n := by
  have lower := n.le_toInt
  have upper := n.toInt_lt
  unfold Json.int64?
  dsimp only
  rw [if_pos (by constructor <;> omega), Int64.ofInt_toInt]

theorem value_decodes (value : Value) : Value.ofJson? value.toJson = some value := by
  cases value with
  | str s => rfl
  | num n => exact congrArg (Option.map Value.num) (int64?_to_int n)

theorem scope_decodes (scope : Option Scope) :
    Json.nullable? Scope.ofJson? (.ofOption Scope.toJson scope) = some scope := by
  cases scope with
  | none => rfl
  | some scope => cases scope <;> rfl

theorem range_decodes (range : Option String) :
    Json.nullable? Json.string? (.ofOption .str range) = some range := by
  cases range <;> rfl

theorem scoped_name_decodes {α : Type} (make : Option Scope → String → α) {scope : Option Scope} {name : String}
    {j : Json} (form : RecordForm (nameFields scope name) j) : scopedName? make j = some (make scope name) := by
  have distinct : ((nameFields scope name).map Field.name).Nodup := by simp [nameFields]
  obtain ⟨written, scopeFound, rfl⟩ := optional?_of_form form distinct 0 rfl
  obtain ⟨spelled, nameFound, isName⟩ := field?_of_form form distinct 1 rfl
  simp [scopedName?, is_record_of_form form, scopeFound, nameFound, isName, scope_decodes, Json.string?]

section

variable {α : Type} {item? : Json → Option α}

theorem map_m_cons_some {first : Json} {rest : List Json} {a : α} {as : List α} (head : item? first = some a)
    (tail : rest.mapM item? = some as) : (first :: rest).mapM item? = some (a :: as) := by
  rw [List.mapM_cons, head, tail]
  rfl

theorem map_m_of_forall {items : List Json} {as : List α}
    (each : List.Forall₂ (fun a item => item? item = some a) as items) :
    items.mapM item? = some as := by
  induction each with
  | nil => rfl
  | cons head rest ih => exact map_m_cons_some head ih

end

theorem exprs_list_of_json? (items : List Json) : Expr.listOfJson? (.arr items) = items.mapM Expr.ofJson? := by
  rw [Expr.listOfJson?]
  simp

theorem invocation_decodes {name : FunctionName} {args : List Expr} {j : Json}
    (form : RecordForm (invocationFields name (Expr.Forms args)) j)
    (decodes : ∀ items, Expr.Forms args items → items.mapM Expr.ofJson? = some args) :
    Expr.callOfJson? j = some (name, args) := by
  have distinct : ((invocationFields name (Expr.Forms args)).map Field.name).Nodup := by simp [invocationFields]
  obtain ⟨function, functionFound, functionForm⟩ := field?_of_form form distinct 0 rfl
  obtain ⟨⟨_, _⟩, givenFound, @⟨items, givenForms⟩⟩ := field?_of_form form distinct 1 rfl
  rw [Expr.callOfJson?, if_pos (is_record_of_form form 2), functionFound, givenFound]
  simp [FunctionName.ofJson?, scoped_name_decodes _ functionForm, exprs_list_of_json?, decodes items givenForms]

mutual

theorem expr_decodes (e : Expr) {j : Json} (form : e.Form j) : Expr.ofJson? j = some e := by
  cases e with
  | literal value =>
      rw [Expr.Form] at form
      obtain ⟨rfl⟩ := form
      rw [Expr.ofJson?]
      exact congrArg (Option.map Expr.literal) (value_decodes value)
  | «variable» v =>
      rw [Expr.Form] at form
      obtain ⟨form⟩ := form
      rw [Expr.ofJson?]
      exact congrArg (Option.map Expr.variable) (scoped_name_decodes Variable.mk form)
  | concat left right =>
      rw [Expr.Form] at form
      obtain ⟨l, r, rfl, leftForm, rightForm⟩ := form
      have parts : Expr.ofJson? (.obj [("Concat", .arr [l, r])]) =
          (do return .concat (← Expr.ofJson? l) (← Expr.ofJson? r)) := by
        rw [Expr.ofJson?]
        rfl
      rw [parts, expr_decodes left leftForm, expr_decodes right rightForm]
      rfl
  | call name args =>
      rw [Expr.Form] at form
      obtain ⟨form⟩ := form
      rw [Expr.ofJson?]
      exact congrArg (· >>= fun call => some (Expr.call call.1 call.2))
        (invocation_decodes form fun items forms => exprs_decode args forms)

theorem exprs_decode (es : List Expr) {items : List Json} (forms : Expr.Forms es items) :
    items.mapM Expr.ofJson? = some es := by
  cases es with
  | nil =>
      rw [Expr.Forms] at forms
      rw [forms]
      rfl
  | cons e es =>
      rw [Expr.Forms] at forms
      obtain ⟨first, rest, rfl, form, others⟩ := forms
      exact map_m_cons_some (expr_decodes e form) (exprs_decode es others)

end

theorem written_decode {α : Type} {item? : Json → Option α} {write : α → Json} {as : List α}
    (decodes : ∀ a ∈ as, item? (write a) = some a) : Json.list? item? (.arr (as.map write)) = some as := by
  refine map_m_of_forall ?_
  rw [List.forall₂_map_right_iff, List.forall₂_same]
  exact decodes

theorem flag_decodes (f : Flag) : Flag.ofJson? (.str f.jsonName) = some f := by
  cases f <;> rfl

theorem flags_decode {flags : Flags} {j : Json} (form : flags.Form j) :
    ∃ listed, Json.list? Flag.ofJson? j = some listed ∧ Flags.ofList listed = flags := by
  obtain ⟨listed, rfl, same⟩ := form
  refine ⟨listed, written_decode fun f _ => flag_decodes f, Flags.eq_of_contains fun f => ?_⟩
  rw [Flags.contains_of_list, Bool.eq_iff_iff, List.contains_iff_mem]
  exact same f

theorem assign_op_decodes (op : AssignOp) : AssignOp.ofJson? op.toJson = some op := by
  cases op <;> rfl

section

variable {j : Json}

theorem echo_decodes {exprs : List Expr}
    (form : RecordForm [⟨"expressions", ListForm (Expr.Forms exprs), none⟩] j) :
    Statement.echoOfJson? j = some (.echo exprs) := by
  obtain ⟨⟨_, _⟩, found, @⟨items, forms⟩⟩ := field?_of_form form (by simp) 0 rfl
  simp [Statement.echoOfJson?, is_record_of_form form, found, exprs_list_of_json?, exprs_decode exprs forms]

theorem return_decodes {value : Expr} (form : RecordForm [⟨"expression", value.Form, none⟩] j) :
    Statement.returnOfJson? j = some (.return value) := by
  obtain ⟨part, found, valueForm⟩ := field?_of_form form (by simp) 0 rfl
  simp [Statement.returnOfJson?, is_record_of_form form, found, expr_decodes value valueForm]

theorem assign_decodes {target : Variable} {op : AssignOp} {value : Expr}
    (form : RecordForm [⟨"target", target.Form, none⟩, ⟨"operator", (· = op.toJson), none⟩,
      ⟨"value", value.Form, none⟩] j) : Statement.assignOfJson? j = some (.assign target op value) := by
  obtain ⟨first, firstFound, targetForm⟩ := field?_of_form form (by simp) 0 rfl
  obtain ⟨second, secondFound, isOp⟩ := field?_of_form form (by simp) 1 rfl
  obtain ⟨third, thirdFound, valueForm⟩ := field?_of_form form (by simp) 2 rfl
  simp [Statement.assignOfJson?, is_record_of_form form, firstFound, secondFound, thirdFound,
    Variable.ofJson?, scoped_name_decodes Variable.mk targetForm, isOp, assign_op_decodes, expr_decodes value valueForm]

theorem unlet_decodes {bang : Bool} {targets : List Variable}
    (form : RecordForm [⟨"bang", (· = .bool bang), none⟩,
      ⟨"targets", ListForm (List.Forall₂ Variable.Form targets), none⟩] j) :
    Statement.unletOfJson? j = some (.unlet bang targets) := by
  obtain ⟨first, firstFound, isBang⟩ := field?_of_form form (by simp) 0 rfl
  obtain ⟨⟨_, _⟩, secondFound, @⟨items, forms⟩⟩ := field?_of_form form (by simp) 1 rfl
  have decoded : Json.list? Variable.ofJson? (.arr items) = some targets :=
    map_m_of_forall (forms.imp fun v item form => scoped_name_decodes Variable.mk form)
  simp [Statement.unletOfJson?, is_record_of_form form, firstFound, secondFound, isBang, decoded, Json.bool?]

theorem call_decodes {range : Option String} {name : FunctionName} {args : List Expr}
    (form : RecordForm [⟨"range", (· = .ofOption .str range), some .null⟩,
      ⟨"call", RecordForm (invocationFields name (Expr.Forms args)), none⟩] j) :
    Statement.callOfJson? j = some (.call range name args) := by
  obtain ⟨first, firstFound, rfl⟩ := optional?_of_form form (by simp) 0 rfl
  obtain ⟨second, secondFound, invocation⟩ := field?_of_form form (by simp) 1 rfl
  have decoded := invocation_decodes invocation fun items forms => exprs_decode args forms
  simp [Statement.callOfJson?, is_record_of_form form, firstFound, secondFound, range_decodes, decoded]

theorem delfunction_decodes {bang : Bool} {name : FunctionName}
    (form : RecordForm [⟨"bang", (· = .bool bang), none⟩, ⟨"name", name.Form, none⟩] j) :
    Statement.delfunctionOfJson? j = some (.delfunction bang name) := by
  obtain ⟨first, firstFound, isBang⟩ := field?_of_form form (by simp) 0 rfl
  obtain ⟨second, secondFound, nameForm⟩ := field?_of_form form (by simp) 1 rfl
  simp [Statement.delfunctionOfJson?, is_record_of_form form, firstFound, secondFound, isBang,
    FunctionName.ofJson?, scoped_name_decodes _ nameForm, Json.bool?]

theorem command_decodes {c : HostCommand} (form : RecordForm c.fields j) : HostCommand.ofJson? j = some c := by
  have distinct : (c.fields.map Field.name).Nodup := by simp [HostCommand.fields]
  obtain ⟨range, rangeFound, rfl⟩ := optional?_of_form form distinct 0 rfl
  obtain ⟨name, nameFound, isName⟩ := field?_of_form form distinct 1 rfl
  obtain ⟨bang, bangFound, isBang⟩ := field?_of_form form distinct 2 rfl
  obtain ⟨args, argsFound, isArgs⟩ := field?_of_form form distinct 3 rfl
  simp [HostCommand.ofJson?, is_record_of_form form, rangeFound, nameFound, bangFound, argsFound, range_decodes,
    isName, isBang, isArgs, Json.string?, Json.bool?]

theorem statements_list_of_json? (items : List Json) :
    Statement.listOfJson? (.arr items) = items.mapM Statement.ofJson? := by
  rw [Statement.listOfJson?]
  simp

theorem function_decodes {header : FunctionHeader} {body : List Statement}
    (form : RecordForm (header.fields (Statement.Forms body)) j)
    (decodes : ∀ items, Statement.Forms body items → items.mapM Statement.ofJson? = some body) :
    Statement.functionOfJson? j = some (.function header body) := by
  have distinct : ((header.fields (Statement.Forms body)).map Field.name).Nodup := by simp [FunctionHeader.fields]
  obtain ⟨name, nameFound, isName⟩ := field?_of_form form distinct 0 rfl
  obtain ⟨scope, scopeFound, rfl⟩ := optional?_of_form form distinct 1 rfl
  obtain ⟨params, paramsFound, isParams⟩ := field?_of_form form distinct 2 rfl
  obtain ⟨flags, flagsFound, flagsForm⟩ := field?_of_form form distinct 3 rfl
  obtain ⟨⟨_, _⟩, bodyFound, @⟨items, forms⟩⟩ := field?_of_form form distinct 4 rfl
  obtain ⟨replace, replaceFound, isReplace⟩ := field?_of_form form distinct 5 rfl
  obtain ⟨listed, flagsDecoded, sameFlags⟩ := flags_decode flagsForm
  have paramsDecoded : Json.list? Json.string? params.val = some header.params := by
    rw [isParams]
    exact written_decode fun param _ => rfl
  rw [Statement.functionOfJson?, if_pos (is_record_of_form form 6), nameFound, scopeFound, paramsFound, flagsFound,
    bodyFound, replaceFound]
  simp [scope_decodes, isName, paramsDecoded, flagsDecoded, sameFlags, isReplace, statements_list_of_json?,
    decodes items forms, Json.string?, Json.bool?]

end

mutual

theorem statement_decodes (s : Statement) {j : Json} (form : s.Form j) : Statement.ofJson? j = some s := by
  cases s <;> rw [Statement.Form] at form <;> obtain ⟨form⟩ := form <;> rw [Statement.ofJson?]
  case function header body j => exact function_decodes form fun items forms => statements_decode body forms
  case echo => exact echo_decodes form
  case «return» => exact return_decodes form
  case assign => exact assign_decodes form
  case unlet => exact unlet_decodes form
  case call => exact call_decodes form
  case delfunction => exact delfunction_decodes form
  case command => exact congrArg (Option.map Statement.command) (command_decodes form)

theorem statements_decode (statements : List Statement) {items : List Json}
    (forms : Statement.Forms statements items) : items.mapM Statement.ofJson? = some statements := by
  cases statements with
  | nil =>
      rw [Statement.Forms] at forms
      rw [forms]
      rfl
  | cons s rest =>
      rw [Statement.Forms] at forms
      obtain ⟨first, more, rfl, form, others⟩ := forms
      exact map_m_cons_some (statement_decodes s form) (statements_decode rest others)

end

theorem script_decodes {s : Script} (sized : ∀ n ∈ s.lines, n < 18446744073709551616) {j : Json} (form : s.Form j) :
    Script.ofJson? j = some s := by
  obtain ⟨name, nameFound, isName⟩ := field?_of_form form (by simp) 0 rfl
  obtain ⟨⟨_, _⟩, unitsFound, @⟨items, forms⟩⟩ := field?_of_form form (by simp) 1 rfl
  obtain ⟨lines, linesFound, rfl⟩ := field_d_of_form form (by simp) 2 rfl
  have linesDecoded : Json.list? Json.nat? (.arr (s.lines.map .ofNat)) = some s.lines := by
    refine written_decode fun n member => ?_
    have small := sized n member
    simp only [Json.nat?, Json.ofNat]
    rw [if_pos (by omega), Int.toNat_natCast]
  simp [Script.ofJson?, is_record_of_form form, nameFound, unitsFound, linesFound, isName, statements_list_of_json?,
    statements_decode s.statements forms, linesDecoded, Json.string?]

theorem variable_written (v : Variable) : v.Form v.toJson := record_form_written (.present rfl (.present rfl .nil))

theorem function_name_written (f : FunctionName) : f.Form f.toJson :=
  record_form_written (.present rfl (.present rfl .nil))

mutual

theorem expr_written (e : Expr) : e.Form e.toJson := by
  cases e <;> rw [Expr.Form, Expr.toJson]
  case literal value => exact .object rfl
  case «variable» v => exact .object (variable_written v)
  case concat left right => exact .object (.array ⟨_, _, rfl, expr_written left, expr_written right⟩)
  case call name args =>
      exact .object (record_form_written (.present (function_name_written name)
        (.present (.array (exprs_written args)) .nil)))

theorem exprs_written (es : List Expr) : Expr.Forms es (Expr.listToJson es) := by
  cases es <;> rw [Expr.Forms, Expr.listToJson]
  case cons e es => exact ⟨_, _, rfl, expr_written e, exprs_written es⟩

end

theorem flags_written (flags : Flags) : flags.Form (.arr (flags.toList.map fun f => .str f.jsonName)) := by
  refine .array ⟨flags.toList, rfl, fun f => ?_⟩
  cases f <;> simp [Flags.toList]

theorem targets_written (targets : List Variable) :
    List.Forall₂ Variable.Form targets (targets.map Variable.toJson) := by
  rw [List.forall₂_map_right_iff, List.forall₂_same]
  exact fun v _ => variable_written v

mutual

theorem statement_written (s : Statement) : s.Form s.toJson := by
  cases s <;> rw [Statement.Form, Statement.toJson] <;> refine .object (record_form_written ?_)
  case function header body =>
      exact .present rfl (.present rfl (.present rfl (.present (flags_written header.flags)
        (.present (.array (statements_written body)) (.present rfl .nil)))))
  case echo exprs => exact .present (.array (exprs_written exprs)) .nil
  case «return» value => exact .present (expr_written value) .nil
  case assign target op value =>
      exact .present (variable_written target) (.present rfl (.present (expr_written value) .nil))
  case unlet bang targets => exact .present rfl (.present (.array (targets_written targets)) .nil)
  case call range name args =>
      exact .present rfl (.present (record_form_written (.present (function_name_written name)
        (.present (.array (exprs_written args)) .nil))) .nil)
  case delfunction bang name => exact .present rfl (.present (function_name_written name) .nil)
  case command c => exact .present rfl (.present rfl (.present rfl (.present rfl .nil)))

theorem statements_written (statements : List Statement) :
    Statement.Forms statements (Statement.listToJson statements) := by
  cases statements <;> rw [Statement.Forms, Statement.listToJson]
  case cons s rest => exact ⟨_, _, rfl, statement_written s, statements_written rest⟩

end

theorem script_written (s : Script) : s.Form s.toJson :=
  record_form_written (.present rfl (.present (.array (statements_written s.statements)) (.present rfl .nil)))

-- Line numbers are those that sixty-four bits can hold.
theorem scripts_read_back (s : Script) (sized : ∀ n ∈ s.lines, n < 18446744073709551616) :
    Script.ofJson? s.toJson = some s ∧ s.Form s.toJson ∧ ∀ j, s.Form j → Script.ofJson? j = some s :=
  ⟨script_decodes sized (script_written s), script_written s, fun _ form => script_decodes sized form⟩

def flaggedBody : List Statement :=
  [.call (some "1,3") ⟨some .script, "G"⟩ [.concat (.variable ⟨none, "x"⟩) (.literal (.num (-5)))]]

def flaggedHeader : FunctionHeader := ⟨⟨none, "F"⟩, ["a"], Flags.ofList [.abort, .dict], true⟩

def flaggedScript : Script := ⟨"t.vim", [.function flaggedHeader flaggedBody], [1]⟩

-- The last field comes first and an unknown one after it; the scope is left out and a flag is repeated.
def flaggedFunction : Json :=
  .obj ([("replace_existing", .bool true), ("note", .null)] ++
    [("name", .str "F"), ("args", .arr [.str "a"]), ("flags", .arr [.str "Dict", .str "Abort", .str "Dict"]),
      ("body", .arr (Statement.listToJson flaggedBody))])

def flaggedJson : Json :=
  .obj ([("source_map", .arr [.int 1]), ("note", .bool true)] ++
    [("id", .str "t.vim"), ("units", .arr [.obj [("FunctionDeclaration", flaggedFunction)]])])

theorem flagged_function_form :
    RecordForm (flaggedHeader.fields (Statement.Forms flaggedBody)) flaggedFunction := by
  refine .object (.present rfl (.omitted rfl rfl (.present rfl (.present (.array ⟨[.dict, .abort, .dict], rfl, ?_⟩)
    (.present (.array (statements_written flaggedBody)) (.present rfl .nil)))))) ?_ List.perm_append_comm
  · intro f
    cases f <;> decide
  · simp [FunctionHeader.fields]

theorem flagged_script_read_back :
    Script.ofJson? flaggedScript.toJson = some flaggedScript ∧ flaggedScript.Form flaggedJson ∧
      Script.ofJson? flaggedJson = some flaggedScript := by
  have units : Statement.Forms flaggedScript.statements [.obj [("FunctionDeclaration", flaggedFunction)]] := by
    rw [flaggedScript, Statement.Forms]
    refine ⟨_, _, rfl, ?_, by rw [Statement.Forms]⟩
    rw [Statement.Form]
    exact .object flagged_function_form
  have form : flaggedScript.Form flaggedJson := by
    refine .object (.present rfl (.present (.array units) (.present rfl .nil))) ?_ List.perm_append_comm
    simp
  obtain ⟨back, -, every⟩ := scripts_read_back flaggedScript (by decide)
  exact ⟨back, form, every _ form⟩

end ExScript
