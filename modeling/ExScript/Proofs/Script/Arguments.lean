import ExScript.Proofs.Script.Agreement

set_option autoImplicit false

namespace ExScript

def Statement.appended : Statement → List Variable
  | .assign target .append _ => [target]
  | _ => []

-- The defects that the check would find in the targets of `.=`.
mutual

def appendDefects (header : Option FunctionHeader) : Statement → List Defect
  | .function inner body => appendDefectsOf (some inner) body
  | s => s.appended.filterMap (argumentDefect? header)

def appendDefectsOf (header : Option FunctionHeader) : List Statement → List Defect
  | [] => []
  | s :: rest => appendDefects header s ++ appendDefectsOf header rest

end

-- Every argument that is read is one of the function around it, down to the innermost function.
mutual

def Statement.Scoped (header : Option FunctionHeader) : Statement → Prop
  | .function inner body => AllScoped (some inner) body
  | s => ∀ v ∈ s.references ++ s.appended, argumentDefect? header v = none

def AllScoped (header : Option FunctionHeader) : List Statement → Prop
  | [] => True
  | s :: rest => s.Scoped header ∧ AllScoped header rest

end

-- What a report without warnings says about the statements.

theorem references_scoped {header : Option FunctionHeader} {s : Statement}
    (quiet : ∀ d ∈ argumentDefects header s, d.level = .info)
    (appended : s.appended.filterMap (argumentDefect? header) = []) :
    ∀ v ∈ s.references ++ s.appended, argumentDefect? header v = none := by
  intro v reads
  rcases List.mem_append.mp reads with read | target
  · cases found : argumentDefect? header v with
    | none => rfl
    | some d =>
        have level := quiet d (List.mem_filterMap.mpr ⟨v, read, found⟩)
        rw [argument_defect?_level found] at level
        cases level
  · exact List.filterMap_eq_nil_iff.mp appended v target

mutual

theorem inner_defects_scoped {header : FunctionHeader} (s : Statement)
    (quiet : ∀ d ∈ innerDefects header s, d.level = .info) (appended : appendDefects (some header) s = []) :
    s.Scoped (some header) := by
  cases s with
  | function inner body =>
      rw [innerDefects] at quiet
      exact body_defects_scoped body (fun d found => quiet d (List.mem_append_right _ found)) appended
  | _ => exact references_scoped quiet appended

theorem body_defects_scoped {header : FunctionHeader} (body : List Statement)
    (quiet : ∀ d ∈ bodyDefects header body, d.level = .info) (appended : appendDefectsOf (some header) body = []) :
    AllScoped (some header) body := by
  cases body with
  | nil => trivial
  | cons s rest =>
      rw [bodyDefects] at quiet
      obtain ⟨first, others⟩ := List.append_eq_nil_iff.mp appended
      exact ⟨inner_defects_scoped s (fun d found => quiet d (List.mem_append_left _ found)) first,
        body_defects_scoped rest (fun d found => quiet d (List.mem_append_right _ found)) others⟩

end

theorem top_defects_scoped (defined : List (Bool × String)) {s : Statement}
    (quiet : ∀ d ∈ topDefects defined s, d.level = .info) (appended : appendDefects none s = []) :
    s.Scoped none := by
  cases s with
  | function header body =>
      exact body_defects_scoped body (fun d found => quiet d (List.mem_append_right _ found)) appended
  | «return» e => cases quiet .strayReturn (List.mem_singleton_self _)
  | _ => exact references_scoped quiet appended

theorem defects_from_scoped (defined : List (Bool × String)) {statements : List Statement} (lines : List Nat)
    (quiet : ∀ entry ∈ defectsFrom defined statements lines, entry.2.level = .info)
    (appended : appendDefectsOf none statements = []) : AllScoped none statements := by
  induction statements generalizing defined lines with
  | nil => trivial
  | cons s rest ih =>
      obtain ⟨first, others⟩ := List.append_eq_nil_iff.mp appended
      refine ⟨top_defects_scoped defined (fun d found => ?_) first,
        ih _ _ (fun entry found => quiet entry (List.mem_append_right _ found)) others⟩
      exact quiet (lines.head?, d) (List.mem_append_left _ (List.mem_map_of_mem found))

theorem check_scoped {script : Script} (quiet : script.check.atLeast .warn = [])
    (appended : appendDefectsOf none script.statements = []) : AllScoped none script.statements := by
  refine defects_from_scoped [] script.lines (fun entry found => ?_) appended
  have low := List.filter_eq_nil_iff.mp quiet _ (List.mem_map_of_mem found)
  cases level : entry.2.level with
  | info => rfl
  | _ => simp [Defect.finding, level, Level.rank] at low

theorem bound_contains {params : List String} {args : List Value} (enough : params.length ≤ args.length)
    {before : Bindings} {name : String} (known : before.contains name = true ∨ name ∈ params) :
    ((params.zip args).foldl (fun (bound : Bindings) (param, value) => bound.insert param value) before).contains
      name = true := by
  induction params generalizing args before with
  | nil => exact known.resolve_right List.not_mem_nil
  | cons param rest ih =>
      cases args with
      | nil => cases enough
      | cons value values =>
          refine ih (Nat.le_of_succ_le_succ enough) ?_
          rcases known with there | listed
          · exact .inl (Table.contains_insert_of_contains _ _ _ there)
          · rcases List.mem_cons.mp listed with rfl | later
            · exact .inl (by simp)
            · exact .inr later

theorem bind_arguments_contains {params : List String} {args : List Value} (enough : params.length ≤ args.length)
    {name : String} (known : name ∈ "0" :: params) : (bindArguments params args).contains name = true := by
  rcases List.mem_cons.mp known with rfl | listed
  · simp [bindArguments]
  · exact Table.contains_insert_of_contains _ _ _ (bound_contains enough (.inr listed))

theorem accepted_length {f : DefinedFunction} {count : Nat} (accepted : f.refusal? count = none) :
    f.header.params.length ≤ count := by
  unfold DefinedFunction.refusal? at accepted
  split at accepted
  · cases accepted
  · split at accepted
    · cases accepted
    · omega

-- The running code is a statement of the function `header`, or of no function.
def Session.Within (s : Session) : Option FunctionHeader → Prop
  | none => s.callStack = []
  | some header => ∃ frame rest, s.callStack = frame :: rest ∧
      ∀ name ∈ "0" :: header.params, frame.arguments.contains name = true

-- The variable is no missing argument, except for `a:0` where no function runs.
def Session.Supplies (s : Session) (v : Variable) : Prop :=
  v.scope = some .argument → (∃ value, s.stored? .argument v.name = some value) ∨ (s.callStack = [] ∧ v.name = "0")

section

variable {s t : Session} {header : Option FunctionHeader} {v : Variable}

theorem within_resumes (within : s.Within header) (resumed : s.Resumes t) : t.Within header := by
  cases header <;> rw [Session.Within, resumed.callStack] <;> exact within

theorem supplies_resumes (supplied : s.Supplies v) (resumed : s.Resumes t) : t.Supplies v := by
  intro argument
  rw [Session.stored?, resumed.callStack]
  exact supplied argument

theorem within_entered (s : Session) {f : DefinedFunction} {args : List Value}
    (accepted : f.refusal? args.length = none) : (s.enter f args).Within (some f.header) :=
  ⟨_, _, rfl, fun _ known => bind_arguments_contains (accepted_length accepted) known⟩

theorem within_supplies (within : s.Within header) (allowed : argumentDefect? header v = none) : s.Supplies v := by
  intro argument
  cases header with
  | none =>
      refine .inr ⟨within, ?_⟩
      by_contra other
      rw [argumentDefect?, if_pos ⟨argument, other⟩] at allowed
      cases allowed
  | some header =>
      obtain ⟨frame, rest, stack, bound⟩ := within
      have known : v.name ∈ "0" :: header.params := by
        rw [List.mem_cons]
        by_contra unknown
        obtain ⟨other, unlisted⟩ := not_or.mp unknown
        rw [argumentDefect?, if_pos ⟨argument, other⟩] at allowed
        simp [unlisted] at allowed
      obtain ⟨value, found⟩ := Option.isSome_iff_exists.mp (bound _ known)
      refine .inl ⟨value, ?_⟩
      rw [Session.stored?, stack]
      exact found

end

-- Every function in the table reads only arguments that it has.
def FunctionTable.Scoped (table : FunctionTable) : Prop :=
  ∀ key f, table.get? key = some f → AllScoped (some f.header) f.body

-- What the task reads itself is supplied, and what it runs is scoped.
def ReadsSupplied {σ : Type} : Task → World σ → Prop
  | .evaluate e, w => ∀ v ∈ e.references, w.session.Supplies v
  | .evaluateAll es, w => ∀ v ∈ Expr.referencesOf es, w.session.Supplies v
  | .invoke f _, _ => AllScoped (some f.header) f.body
  | .body statements, w => ∃ header, w.session.Within header ∧ AllScoped header statements
  | .execute s, w => ∃ header, w.session.Within header ∧ s.Scoped header
  | .store target op _, w => op = .append → w.session.Supplies target
  | .executeAll statements, w => w.session.Within none ∧ AllScoped none statements
  | .source script, w => w.session.Within none ∧ AllScoped none script.statements
  | _, _ => True

variable {σ : Type} [Host σ]

section

variable {t t' : Task} {w w' : World σ}

omit [Host σ] in
theorem execute_supplied {s : Statement} (fits : ReadsSupplied (.execute s) w) :
    ∀ v ∈ s.references ++ s.appended, w.session.Supplies v := by
  obtain ⟨header, within, inside⟩ := fits
  intro v member
  apply within_supplies within
  cases s with
  | function inner body => cases member
  | _ => exact inside v member

theorem reads_supplied_starts (known : w.session.functions.Scoped) (fits : ReadsSupplied t w)
    (started : Starts t w t' w') : ReadsSupplied t' w' := by
  cases started with
  | left l r => exact fun v member => fits v (List.mem_append_left _ member)
  | right l r ended =>
      exact fun v member => supplies_resumes (fits v (List.mem_append_right _ member)) (ok_resumes ended)
  | arguments args found => exact fits
  | callee found ended => exact known _ _ found
  | head e es => exact fun v member => fits v (List.mem_append_left _ member)
  | tail e es ended =>
      exact fun v member => supplies_resumes (fits v (List.mem_append_right _ member)) (ok_resumes ended)
  | enter accepted below => exact ⟨_, within_entered _ accepted, fits⟩
  | first s rest =>
      obtain ⟨header, within, first, -⟩ := fits
      exact ⟨header, within, first⟩
  | next s rest ended =>
      obtain ⟨header, within, -, others⟩ := fits
      exact ⟨header, within_resumes within (ok_resumes ended), others⟩
  | shown exprs => exact fun v member => execute_supplied fits v (List.mem_append_left _ member)
  | result e inside => exact fun v member => execute_supplied fits v (List.mem_append_left _ member)
  | stored target op e => exact fun v member => execute_supplied fits v (List.mem_append_left _ member)
  | store target op ended =>
      rintro rfl
      have supplied := execute_supplied fits target (List.mem_append_right _ (List.mem_singleton_self _))
      exact supplies_resumes supplied (ok_resumes ended)
  | called range name args => exact fun v member => execute_supplied fits v (List.mem_append_left _ member)
  | firstTop s rest => exact ⟨none, fits.1, fits.2.1⟩
  | nextTop s rest ended => exact ⟨within_resumes fits.1 (ok_resumes ended), fits.2.2⟩
  | opened script => exact fits
  | named args found => exact known _ _ found
  | _ => trivial

theorem leaf_scoped (leaf : Leaf t) (known : w.session.functions.Scoped) (fits : ReadsSupplied t w) :
    (worldAfter (t.run w)).session.functions.Scoped := by
  have kept : RunsPlain t w → (worldAfter (t.run w)).session.functions.Scoped := by
    intro plain
    rwa [leaf_functions leaf plain]
  cases leaf with
  | declare header body =>
      obtain ⟨outer, -, inside⟩ := fits
      rw [run_of_yields (.declare header body w), world_after_mapped]
      cases filed : w.session.define header body with
      | error error => exact known
      | ok s =>
          rw [define_ok filed]
          intro key f found
          rcases Table.get?_of_insert found with rfl | before
          · exact inside
          · exact known key f before
  | delete bang name =>
      rw [run_of_yields (.delete bang name w), world_after_mapped]
      unfold Session.delete
      dsimp only
      split
      · exact fun key f found => known key f (Table.get?_of_erase found)
      · split <;> exact known
  | command c => exact kept ⟨rfl, fun _ same => nomatch same⟩
  | _ => exact kept trivial

end

def suppliedArguments : Invariant σ where
  Holds w := w.session.functions.Scoped
  Fits := ReadsSupplied
  starts holds fits started := reads_supplied_starts holds fits started
  leaf leaf holds fits := leaf_scoped leaf holds fits
  enter holds _ _ := holds
  leave _ holds _ := holds
  opened _ holds := holds
  closed holds := holds

-- Which tasks miss an argument: those that read one that is not there.
section

variable {t : Task} {w w' : World σ} {name : String}

theorem undefined_argument {s : Session} {v : Variable} (same : s.undefined v = .undefinedVariable .argument name) :
    v = ⟨some .argument, name⟩ := by
  obtain ⟨scope, name'⟩ := v
  cases scope with
  | none =>
      injection same with shown
      rw [Session.shownScope] at shown
      split at shown <;> cases shown
  | some scope =>
      cases same
      rfl

theorem read_variable_misses {v : Variable} (failed : readVariable v w = .error (.undefinedVariable .argument name) w') :
    v = ⟨some .argument, name⟩ ∧ w.session.stored? .argument name = none := by
  obtain ⟨missing, undefined⟩ := read_variable_error failed
  obtain rfl := undefined_argument undefined.symm
  exact ⟨rfl, missing⟩

theorem read_variable_outside {v : Variable} (supplied : w.session.Supplies v)
    (failed : readVariable v w = .error (.undefinedVariable .argument name) w') :
    w.session.callStack = [] ∧ name = "0" := by
  obtain ⟨rfl, missing⟩ := read_variable_misses failed
  rcases supplied rfl with ⟨value, found⟩ | outside
  · rw [missing] at found
    cases found
  · exact outside

theorem write_variable_misses_none {v : Variable} {value : Value} :
    writeVariable v value w ≠ .error (.undefinedVariable .argument name) w' := by
  intro failed
  obtain same | ⟨cause, same⟩ := write_variable_error failed <;> cases same

theorem remove_target_misses_none {bang : Bool} {v : Variable} :
    removeTarget bang v w ≠ .error (.undefinedVariable .argument name) w' := by
  intro failed
  obtain stopped | ⟨existed, u, removed, stopped⟩ := bind_error_cases failed
  · cases remove_variable_error stopped
  · by_cases goesOn : (existed || bang) = true
    · rw [if_pos goesOn] at stopped
      cases stopped
    · rw [if_neg goesOn] at stopped
      -- an argument would have been refused before
      obtain rfl := undefined_argument (EStateM.Result.error.inj stopped).1
      cases removed

theorem leaf_misses (leaf : Leaf t) (fits : ReadsSupplied t w)
    (failed : t.run w = .error (.undefinedVariable .argument name) w') :
    w.session.callStack = [] ∧ name = "0" := by
  cases leaf with
  | reference v => exact read_variable_outside (fits v (List.mem_singleton_self v)) failed
  | declare header body =>
      rw [run_of_yields (.declare header body w)] at failed
      cases (define_error (update_session_eq_error (mapped_eq_error failed))).1
  | delete bang name =>
      rw [run_of_yields (.delete bang name w)] at failed
      cases delete_error (update_session_eq_error (mapped_eq_error failed))
  | command c =>
      rw [run_of_yields (.command c w)] at failed
      obtain ⟨cause, -, same, -⟩ := or_refused_error (mapped_eq_error failed)
      cases same
  | «show» values => cases failed
  | store target op value =>
      obtain stopped | ⟨value', u, -, stopped⟩ := bind_error_cases failed
      · cases op with
        | assign => cases stopped
        | append =>
            rw [assigned, bind_pure_eq] at stopped
            exact read_variable_outside (fits rfl) (mapped_eq_error stopped)
      · exact absurd stopped write_variable_misses_none
  | remove bang target => exact absurd failed remove_target_misses_none

theorem raises_misses (raised : Raises t w (.undefinedVariable .argument name)) (fits : ReadsSupplied t w) :
    w.session.callStack = [] ∧ name = "0" := by
  cases raised with
  | leaf kind =>
      cases kind with
      | access leaf failed kind => exact leaf_misses leaf fits failed
  | refused _ refused => rcases refusal_cases refused with same | same | same <;> cases same

end

theorem quiet_check_covers_arguments (script : Script) (quiet : script.check.atLeast .warn = [])
    (appended : appendDefectsOf none script.statements = []) (settings : Settings) (host : σ)
    (error : RuntimeError) (w : World σ) (failed : source script (.start (.ofSettings settings) host) = .error error w)
    (name : String) (missing : error.root = .undefinedVariable .argument name) : name = "0" ∧ error.trace = [] := by
  obtain ⟨t, v, visited, raised, stack⟩ := error_raised_within (t := .source script) failed
  have fits : ReadsSupplied (.source script) (.start (.ofSettings settings) host : World σ) :=
    ⟨rfl, check_scoped quiet appended⟩
  obtain ⟨-, fits'⟩ := visits_holds suppliedArguments visited (fun _ _ found => nomatch found) fits
  rw [missing] at raised
  obtain ⟨outside, zero⟩ := raises_misses raised fits'
  -- no frame stood on the stack, so no call is in the trace
  have frames : error.trace.reverse = [] := by
    rw [World.running, outside] at stack
    exact (List.append_eq_nil_iff.mp stack.symm).1
  exact ⟨zero, List.reverse_eq_nil_iff.mp frames⟩

-- A function declares another one with a parameter of its own and calls it; then `a:0` is read at top level.
def nestedScopes : Script :=
  ⟨"n.vim", [.function ⟨⟨none, "Outer"⟩, ["x"], .empty, false⟩
      [.function ⟨⟨none, "Inner"⟩, ["y"], .empty, true⟩
          [.return (.concat (.variable ⟨some .argument, "y"⟩) (.variable ⟨some .argument, "0"⟩))],
        .return (.call ⟨none, "Inner"⟩ [.variable ⟨some .argument, "x"⟩])],
    .assign ⟨none, "z"⟩ .assign (.call ⟨none, "Outer"⟩ [.literal (.str "v")]),
    .assign ⟨none, "z"⟩ .append (.variable ⟨some .argument, "0"⟩)], [1, 7, 8]⟩

def missingCount : RuntimeError := .undefinedVariable .argument "0"

theorem nested_scopes_miss_count :
    nestedScopes.check.atLeast .warn = [] ∧ appendDefectsOf none nestedScopes.statements = [] ∧
    (∃ w, source nestedScopes (.start (.ofSettings .default) Recorder.empty) = .error missingCount w) ∧
      missingCount.trace = [] := by
  have quiet : nestedScopes.check.atLeast .warn = [] := by decide +kernel
  have appended : appendDefectsOf none nestedScopes.statements = [] := by decide +kernel
  obtain ⟨w, failed⟩ : ∃ w, source nestedScopes (.start (.ofSettings .default) Recorder.empty) = .error missingCount w :=
    ⟨_, by with_unfolding_all rfl⟩
  have covered := quiet_check_covers_arguments nestedScopes quiet appended .default Recorder.empty _ w failed "0" rfl
  exact ⟨quiet, appended, ⟨w, failed⟩, covered.2⟩

def bareCount : Script := ⟨"b.vim", [.echo [.variable ⟨some .argument, "0"⟩]], [1]⟩

-- The check lets `a:0` pass everywhere, though only a function has it.
theorem bare_count_unreported :
    bareCount.check = [] ∧
    ∃ w, source bareCount (.start (.ofSettings .default) Recorder.empty) = .error missingCount w :=
  ⟨rfl, _, by with_unfolding_all rfl⟩

-- Nor does it look at what `let a:x .= 'v'` reads.
def appendedArgument : Script := ⟨"x.vim", [.assign ⟨some .argument, "x"⟩ .append (.literal (.str "v"))], [1]⟩

theorem appended_argument_unreported :
    appendedArgument.check = [] ∧ appendDefectsOf none appendedArgument.statements ≠ [] ∧
    ∃ w, source appendedArgument (.start (.ofSettings .default) Recorder.empty) =
      .error (.undefinedVariable .argument "x") w :=
  ⟨rfl, by decide, _, by with_unfolding_all rfl⟩

end ExScript
