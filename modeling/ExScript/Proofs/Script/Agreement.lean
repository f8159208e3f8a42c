import ExScript.Host.Recorder
import ExScript.Proofs.Session.Failure
import ExScript.Script.Check

set_option autoImplicit false

namespace ExScript

-- Neither declares a function nor deletes one.
def Statement.isPlain : Statement → Bool
  | .function .. | .delfunction .. => false
  | _ => true

def Statement.isFlat : Statement → Bool
  | .function _ body => body.all isPlain
  | s => s.isPlain

-- No function is declared in another one, and none is deleted.
def Script.isFlat (script : Script) : Bool := script.statements.all Statement.isFlat

def Statement.isRejected (defined : List (Bool × String)) : Statement → Bool
  | .function header _ => defined.contains header.identity && !header.replace
  | .return _ => true
  | _ => false

-- Some top-level statement is at fault after the functions `defined` and those before it.
def anyRejected (defined : List (Bool × String)) : List Statement → Bool
  | [] => false
  | s :: rest => s.isRejected defined || anyRejected (definedAfter defined s) rest

theorem argument_defect?_level {header : Option FunctionHeader} {v : Variable} {d : Defect}
    (found : argumentDefect? header v = some d) : d.level = .warn := by
  unfold argumentDefect? at found
  split at found
  · split at found
    · cases found
      rfl
    · split at found <;> cases found
      rfl
  · cases found

theorem argument_defects_level (header : Option FunctionHeader) (s : Statement) :
    (argumentDefects header s).any (·.level == .error) = false := by
  rw [List.any_eq_false]
  intro d reported
  obtain ⟨v, -, found⟩ := List.mem_filterMap.mp reported
  rw [argument_defect?_level found]
  decide

theorem dict_defects_level (header : FunctionHeader) : (dictDefects header).any (·.level == .error) = false := by
  unfold dictDefects
  split <;> rfl

mutual

theorem inner_defects_level (header : FunctionHeader) (s : Statement) :
    (innerDefects header s).any (·.level == .error) = false := by
  cases s with
  | function inner body =>
      rw [innerDefects, List.any_append, dict_defects_level, body_defects_level inner body]
      rfl
  | _ =>
      rw [innerDefects]
      · exact argument_defects_level (some header) _
      · exact fun _ _ same => nomatch same

theorem body_defects_level (header : FunctionHeader) (body : List Statement) :
    (bodyDefects header body).any (·.level == .error) = false := by
  cases body with
  | nil => rfl
  | cons s rest =>
      rw [bodyDefects, List.any_append, inner_defects_level header s, body_defects_level header rest]
      rfl

end

theorem top_defects_level (defined : List (Bool × String)) (s : Statement) :
    (topDefects defined s).any (·.level == .error) = s.isRejected defined := by
  cases s with
  | function header body =>
      rw [topDefects, List.any_append, List.any_append, dict_defects_level, body_defects_level]
      by_cases twice : header.identity ∈ defined ∧ (!header.replace) = true
      · rw [if_pos twice, Statement.isRejected, List.contains_iff_mem.mpr twice.1, twice.2]
        rfl
      · rw [if_neg twice]
        simpa [Statement.isRejected] using twice
  | «return» e => rfl
  | _ => exact argument_defects_level none _

theorem defects_from_level (defined : List (Bool × String)) (statements : List Statement) (lines : List Nat) :
    (defectsFrom defined statements lines).any (·.2.level == .error) = anyRejected defined statements := by
  induction statements generalizing defined lines with
  | nil => rfl
  | cons s rest ih =>
      have first := top_defects_level defined s
      rw [defectsFrom, anyRejected, List.any_append, List.any_map, ih]
      exact congrArg (· || anyRejected (definedAfter defined s) rest) first

theorem check_has_errors (script : Script) : script.check.hasErrors = anyRejected [] script.statements := by
  rw [← defects_from_level [] script.statements script.lines, Report.hasErrors, Script.check, List.any_map]
  rfl

-- The check tells functions apart as a session does, inside one script.
theorem key_eq_iff (id : String) (header other : FunctionHeader) :
    header.name.key id = other.name.key id ↔ header.identity = other.identity := by
  unfold FunctionName.key FunctionHeader.identity
  split <;> split <;> simp_all

variable {σ : Type} [Host σ]

-- Every function in the table has plain statements only.
def FunctionTable.Plain (table : FunctionTable) : Prop :=
  ∀ key f, table.get? key = some f → f.body.all Statement.isPlain = true

-- Plain statements only, and a `return` only inside a function.
def RunsPlain : Task → World σ → Prop
  | .invoke f _, _ => f.body.all Statement.isPlain = true
  | .body statements, w => statements.all Statement.isPlain = true ∧ w.session.callStack ≠ []
  | .execute s, w => s.isPlain = true ∧ ∀ e, s = .return e → w.session.callStack ≠ []
  | .executeAll _, _ | .source _, _ | .call .., _ => False
  | _, _ => True

section

variable {t t' : Task} {w w' : World σ}

theorem runs_plain_starts (plain : w.session.functions.Plain) (fits : RunsPlain t w) (started : Starts t w t' w') :
    RunsPlain t' w' := by
  cases started with
  | callee found ended => exact plain _ _ found
  | enter accepted below => exact ⟨fits, List.cons_ne_nil _ _⟩
  | first s rest => exact ⟨(Bool.and_eq_true_iff.mp fits.1).1, fun _ _ => fits.2⟩
  | next s rest ended =>
      rw [RunsPlain, (ok_resumes ended).callStack]
      exact ⟨(Bool.and_eq_true_iff.mp fits.1).2, fits.2⟩
  | firstTop s rest => exact fits.elim
  | nextTop s rest ended => exact fits.elim
  | opened script => exact fits.elim
  | named args found => exact fits.elim
  | _ => exact trivial

theorem leaf_functions (leaf : Leaf t) (fits : RunsPlain t w) :
    (worldAfter (t.run w)).session.functions = w.session.functions := by
  cases leaf with
  | reference v => exact (read_variable_accesses v).functions w
  | declare header body => exact absurd fits.1 Bool.false_ne_true
  | delete bang name => exact absurd fits.1 Bool.false_ne_true
  | command c =>
      simpa [run_of_yields (.command c w)] using (host_command_accesses c).functions w
  | «show» values => rfl
  | store target op value => exact (store_accesses target op value).functions w
  | remove bang target => exact (remove_target_accesses bang target).functions w

end

-- While only plain statements run, the functions stay what they are.
def sameFunctions (table : FunctionTable) (plain : table.Plain) : Invariant σ where
  Holds w := w.session.functions = table
  Fits := RunsPlain
  starts holds fits started := runs_plain_starts (holds ▸ plain) fits started
  leaf leaf holds fits := (leaf_functions leaf fits).trans holds
  enter holds _ _ := holds
  leave _ holds _ := holds
  opened _ holds := holds
  closed holds := holds

-- The errors that the check does not look for.
def RuntimeError.Unforeseen (error : RuntimeError) : Prop :=
  (∀ name, error.root ≠ .functionAlreadyDefined name) ∧ error.root ≠ .returnOutsideFunction

section

variable {t : Task} {w : World σ}

theorem plain_functions (plain : w.session.functions.Plain) (fits : RunsPlain t w) :
    (worldAfter (t.run w)).session.functions = w.session.functions :=
  run_holds (sameFunctions _ plain) t rfl fits

-- The statement that raised the error was plain, and no stray `return`.
theorem plain_unforeseen (plain : w.session.functions.Plain) (fits : RunsPlain t w) {error : RuntimeError}
    {v : World σ} (failed : t.run w = .error error v) : error.Unforeseen := by
  obtain ⟨t', w', visited, raised, -⟩ := error_raised_within failed
  have fits' := (visits_holds (sameFunctions _ plain) visited rfl fits).2
  refine ⟨fun name root => ?_, fun root => ?_⟩
  · rw [root] at raised
    obtain ⟨header, body, rfl⟩ := raises_already_defined raised
    exact absurd fits'.1 Bool.false_ne_true
  · rw [root] at raised
    obtain ⟨⟨e, rfl⟩, outside⟩ := raises_return_outside raised
    exact fits'.2 e rfl outside

end

-- At top level of the script `id`, the session has exactly the functions `defined`.
structure Session.Agrees (id : String) (defined : List (Bool × String)) (s : Session) : Prop where
  idle : s.callStack = []
  current : s.sourcing.head? = some id
  known : ∀ header : FunctionHeader, s.functions.contains (header.name.key id) = true ↔ header.identity ∈ defined
  plain : s.functions.Plain

section

variable {id : String} {defined : List (Bool × String)} {s t : Session}

theorem agrees_current_script (agrees : s.Agrees id defined) : s.currentScript = id := by
  obtain ⟨rest, sourcing⟩ : ∃ rest, s.sourcing = id :: rest := List.head?_eq_some_iff.mp agrees.current
  rw [Session.currentScript, agrees.idle, sourcing]

theorem agrees_resumes (agrees : s.Agrees id defined) (resumed : s.Resumes t) (same : t.functions = s.functions) :
    t.Agrees id defined := by
  refine ⟨?_, ?_, ?_, ?_⟩
  · rw [resumed.callStack, agrees.idle]
  · rw [resumed.sourcing, agrees.current]
  · rw [same]
    exact agrees.known
  · rw [same]
    exact agrees.plain

theorem agrees_define (agrees : s.Agrees id defined) {header : FunctionHeader} {body : List Statement}
    (flat : body.all Statement.isPlain = true) (filed : s.define header body = .ok t) :
    t.Agrees id (header.identity :: defined) := by
  rw [define_ok filed, agrees_current_script agrees]
  refine ⟨agrees.idle, agrees.current, fun other => ?_, fun key f found => ?_⟩
  · rw [List.mem_cons, ← agrees.known other, ← key_eq_iff id, Table.contains, Table.contains]
    by_cases here : other.name.key id = header.name.key id
    · simp [here]
    · simp [here]
  · by_cases here : key = header.name.key id
    · simp only [here, Table.get?_insert_self] at found
      cases found
      exact flat
    · exact agrees.plain key f (by simpa [here] using found)

theorem define_rejected (agrees : s.Agrees id defined) {header : FunctionHeader} {body : List Statement} :
    (∃ error, s.define header body = .error error) ↔ (Statement.function header body).isRejected defined = true := by
  have current := agrees_current_script agrees
  rw [Statement.isRejected, Bool.and_eq_true_iff, List.contains_iff_mem, ← agrees.known header]
  constructor
  · rintro ⟨error, failed⟩
    obtain ⟨-, kept, taken⟩ := define_error failed
    rw [current] at taken
    exact ⟨taken, by rw [kept]; rfl⟩
  · rintro ⟨taken, kept⟩
    rw [Session.define, FunctionTable.define, current, taken, kept]
    exact ⟨_, rfl⟩

end

section

variable {id : String} {defined : List (Bool × String)} {s : Statement} {w v : World σ}

theorem rejected_fails (agrees : w.session.Agrees id defined) (rejected : s.isRejected defined = true) :
    ∃ error v, (Task.execute s).run w = .error error v := by
  cases s with
  | function header body =>
      obtain ⟨error, failed⟩ := (define_rejected agrees).mpr rejected
      rw [run_of_yields (.declare header body w), failed]
      exact ⟨error, w, rfl⟩
  | «return» e => exact ⟨_, _, run_of_yields (.returnOutside e (by rw [agrees.idle]; rfl))⟩
  | _ => cases rejected

theorem accepted_unforeseen (agrees : w.session.Agrees id defined) (flat : s.isFlat = true)
    (accepted : s.isRejected defined = false) {error : RuntimeError} (failed : (Task.execute s).run w = .error error v) :
    error.Unforeseen := by
  have unforeseen : RunsPlain (.execute s) w → error.Unforeseen := fun fits =>
    plain_unforeseen agrees.plain fits failed
  cases s with
  | function header body =>
      rw [run_of_yields (.declare header body w)] at failed
      have rejected := (define_rejected agrees).mp ⟨error, update_session_eq_error (mapped_eq_error failed)⟩
      rw [accepted] at rejected
      cases rejected
  | «return» e => cases accepted
  | _ => exact unforeseen ⟨flat, fun _ same => nomatch same⟩

theorem ok_agrees (agrees : w.session.Agrees id defined) (flat : s.isFlat = true) {flow : Flow}
    (ended : (Task.execute s).run w = .ok flow v) : v.session.Agrees id (definedAfter defined s) := by
  have resumed := ok_resumes ended
  have functions : RunsPlain (.execute s) w → v.session.functions = w.session.functions := by
    intro fits
    have same := plain_functions agrees.plain fits
    rwa [ended] at same
  cases s with
  | function header body =>
      rw [run_of_yields (.declare header body w)] at ended
      cases filed : w.session.define header body with
      | error error =>
          rw [filed] at ended
          cases ended
      | ok t =>
          rw [filed] at ended
          cases ended
          exact agrees_define agrees flat filed
  | «return» e =>
      rw [run_of_yields (.returnOutside e (by rw [agrees.idle]; rfl))] at ended
      cases ended
  | _ => exact agrees_resumes agrees resumed (functions ⟨flat, fun _ same => nomatch same⟩)

end

-- The induction is on the statements; what is defined grows on both sides by the same functions.
theorem top_level_agrees {id : String} {defined : List (Bool × String)} {statements : List Statement} {w : World σ}
    (agrees : w.session.Agrees id defined) (flat : statements.all Statement.isFlat = true) :
    (anyRejected defined statements = true → ∃ error v, (Task.executeAll statements).run w = .error error v) ∧
    (anyRejected defined statements = false → ∀ error v, (Task.executeAll statements).run w = .error error v →
      error.Unforeseen) := by
  induction statements generalizing defined w with
  | nil => exact ⟨(nomatch ·), fun _ _ _ failed => nomatch failed⟩
  | cons s rest ih =>
      obtain ⟨flatFirst, flatRest⟩ := Bool.and_eq_true_iff.mp flat
      rw [run_script]
      cases ended : (Task.execute s).run w with
      | error error v =>
          rw [bind_of_error ended]
          refine ⟨fun _ => ⟨error, v, rfl⟩, fun accepted error' v' failed => ?_⟩
          cases failed
          exact accepted_unforeseen agrees flatFirst (Bool.or_eq_false_iff.mp accepted).1 ended
      | ok flow v =>
          rw [bind_of_ok ended]
          obtain ⟨fails, unforeseen⟩ := ih (ok_agrees agrees flatFirst ended) flatRest
          refine ⟨fun rejected => ?_, fun accepted => unforeseen (Bool.or_eq_false_iff.mp accepted).2⟩
          rcases Bool.or_eq_true_iff.mp rejected with here | later
          · obtain ⟨error, v', failed⟩ := rejected_fails agrees here
            rw [ended] at failed
            cases failed
          · exact fails later

omit [Host σ] in
theorem fresh_agrees (settings : Settings) (host : σ) (id : String) :
    ((World.start (.ofSettings settings) host).opened id).session.Agrees id [] :=
  ⟨rfl, rfl, fun _ => ⟨(nomatch ·), (nomatch ·)⟩, fun _ _ found => nomatch found⟩

theorem check_agrees_with_sourcing (script : Script) (flat : script.isFlat = true) (settings : Settings) (host : σ) :
    (script.check.hasErrors = true → ∃ error w, source script (.start (.ofSettings settings) host) = .error error w) ∧
    (script.check.hasErrors = false → ∀ error w, source script (.start (.ofSettings settings) host) = .error error w →
      (∀ name, error.root ≠ .functionAlreadyDefined name) ∧ error.root ≠ .returnOutsideFunction) := by
  obtain ⟨fails, unforeseen⟩ := top_level_agrees (fresh_agrees settings host script.id) flat
  rw [check_has_errors, source, while_sourcing_eq]
  refine ⟨fun rejected => ?_, fun accepted error w failed => ?_⟩
  · obtain ⟨error, v, failed⟩ := fails rejected
    rw [show executeAll script.statements _ = _ from failed]
    exact ⟨error, v.closed, rfl⟩
  · obtain ⟨v, inside⟩ := closing_eq_error failed
    exact unforeseen accepted error v inside

-- `F` is declared and called, then declared with its scope written out.
def repetition (replace : Bool) : List Statement :=
  [.function ⟨⟨none, "F"⟩, [], .empty, false⟩ [.return (.literal (.num 1))], .call none ⟨none, "F"⟩ [],
    .function ⟨⟨some .global, "F"⟩, [], .empty, replace⟩ []]

def repeated : Script := ⟨"r.vim", repetition false, [1, 4, 5]⟩

-- With a replacement, a function of the script may have the name too; what it calls is unknown.
def renewed : Script :=
  ⟨"r.vim", repetition true ++ [.function ⟨⟨some .script, "F"⟩, [], .empty, false⟩ [.return (.call ⟨none, "G"⟩ [])],
    .echo [.call ⟨some .script, "F"⟩ []]], [1, 4, 5, 7, 10]⟩

def renewedFailure : RuntimeError := .inFunction "s:F" (.unknownFunction "G")

theorem repetition_needs_replacing :
    (repeated.check.hasErrors = true ∧
      ∃ error w, source repeated (.start (.ofSettings .default) Recorder.empty) = .error error w) ∧
    renewed.check.hasErrors = false ∧
      (∃ w, source renewed (.start (.ofSettings .default) Recorder.empty) = .error renewedFailure w) ∧
      (∀ name, renewedFailure.root ≠ .functionAlreadyDefined name) ∧ renewedFailure.root ≠ .returnOutsideFunction := by
  have rejected : repeated.check.hasErrors = true := (check_has_errors repeated).trans (by decide)
  have accepted : renewed.check.hasErrors = false := (check_has_errors renewed).trans (by decide)
  obtain ⟨w, failed⟩ : ∃ w, source renewed (.start (.ofSettings .default) Recorder.empty) = .error renewedFailure w :=
    ⟨_, by with_unfolding_all rfl⟩
  have fails := (check_agrees_with_sourcing repeated (by decide) .default Recorder.empty).1 rejected
  have spared := (check_agrees_with_sourcing renewed (by decide) .default Recorder.empty).2 accepted _ w failed
  exact ⟨⟨rejected, fails⟩, accepted, ⟨w, failed⟩, spared⟩

end ExScript
