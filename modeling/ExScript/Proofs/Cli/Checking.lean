import ExScript.Cli.Source
import ExScript.Cli.Task
import ExScript.Proofs.Script.Modes

set_option autoImplicit false

namespace ExScript

section

variable {id : String} {text : List Char}

theorem parse_lenient_of_ok {script : Script} (read : Script.parse id text = .ok script) :
    Script.parseLenient id text = (script, []) := by
  obtain ⟨more, lenient, ends⟩ := read_lenient_continues (lexLines text)
  rw [parse_lenient_eq, lenient, statements_in_read, faults_in_read]
  unfold Script.parse at read
  split at read <;> rename_i strict <;> cases read
  rw [strict] at ends ⊢
  rw [show more = [] from ends, statementsIn, faultsIn]
  simp

theorem parse_lenient_of_error {error : ParseError} (failed : Script.parse id text = .error error) :
    ∃ others, (Script.parseLenient id text).2 = error :: others := by
  obtain ⟨more, lenient, ends⟩ := read_lenient_continues (lexLines text)
  rw [parse_lenient_eq, lenient, faults_in_read]
  unfold Script.parse at failed
  split at failed <;> rename_i strict <;> cases failed
  rw [strict] at ends
  obtain ⟨others, rfl⟩ := ends
  exact ⟨faultsIn others, rfl⟩

-- A fault in reading is an error, and without one the script is checked that strict reading gives.
theorem check_text_passes (id : String) (text : List Char) : (Script.checkText id text).hasErrors = false ↔
    ∃ script, Script.parse id text = .ok script ∧ script.check.hasErrors = false := by
  cases strict : Script.parse id text with
  | ok script =>
      have same : Script.checkText id text = script.check := by
        rw [Script.checkText, parse_lenient_of_ok strict]
        rfl
      rw [same]
      exact ⟨fun passes => ⟨script, rfl, passes⟩, fun ⟨_, read, passes⟩ => by cases read; exact passes⟩
  | error error =>
      obtain ⟨others, faults⟩ := parse_lenient_of_error strict
      have reported : (Script.checkText id text).hasErrors = true := by
        unfold Script.checkText Report.hasErrors
        dsimp only
        rw [faults]
        rfl
      rw [reported]
      constructor
      · intro passes
        cases passes
      · rintro ⟨_, read, -⟩
        cases read

end

-- The strict pipeline: the file is read, it is a script, and nothing in the script is an error.
def PassesStrictly (files : Files) (path : String) : Prop :=
  ∃ text script, files.read path = .ok text ∧ Script.parse path text = .ok script ∧ script.check.hasErrors = false

section

variable {files : Files}

theorem read_script_ok {path : String} {text : List Char} (read : files.read path = .ok text) :
    readScript files path = .ok text := by
  rw [readScript, read]
  rfl

theorem passes_strictly_iff {path : String} {text : List Char} (read : files.read path = .ok text) :
    PassesStrictly files path ↔ (Script.checkText path text).hasErrors = false := by
  rw [check_text_passes]
  constructor
  · rintro ⟨text', script, read', parsed, passes⟩
    rw [read] at read'
    cases read'
    exact ⟨script, parsed, passes⟩
  · rintro ⟨script, parsed, passes⟩
    exact ⟨text, script, read, parsed, passes⟩

theorem read_scripts_passes {paths : List String} (readable : ∀ path ∈ paths, ∃ text, files.read path = .ok text) :
    ∃ scripts, readScripts files paths = .ok scripts ∧
      ((checkTexts scripts).hasErrors = false ↔ ∀ path ∈ paths, PassesStrictly files path) := by
  induction paths with
  | nil => exact ⟨[], rfl, by simp [checkTexts, Report.hasErrors]⟩
  | cons path paths ih =>
      obtain ⟨text, read⟩ := readable path (by simp)
      obtain ⟨scripts, others, passes⟩ := ih fun other member => readable other (by simp [member])
      refine ⟨(path, text) :: scripts, ?_, ?_⟩
      · rw [readScripts, read_script_ok read, others]
        rfl
      · have both : (checkTexts ((path, text) :: scripts)).hasErrors =
            ((Script.checkText path text).hasErrors || (checkTexts scripts).hasErrors) := by
          simp [checkTexts, Report.hasErrors]
        rw [both, Bool.or_eq_false_iff, ← passes_strictly_iff read, passes, List.forall_mem_cons]

-- The induction is on the files: each one that is come to is read and parsed, so only running it can fail.
theorem source_files_stops {paths : List String} (accepted : ∀ path ∈ paths, PassesStrictly files path)
    {w w' : World Recorder} {fault : SourceFault} (failed : sourceFiles files paths w = .error fault w') :
    ∃ path ∈ paths, ∃ error, fault = .stopped path error := by
  induction paths generalizing w with
  | nil => cases failed
  | cons path paths ih =>
      obtain ⟨text, script, read, parsed, -⟩ := accepted path (by simp)
      cases ended : source script w with
      | error error v =>
          have stops : sourceFile files path w = .error (.stopped path error) v := by
            simp only [sourceFile, read_script_ok read, parsed, ended]
          simp only [sourceFiles, bind, EStateM.bind, stops] at failed
          cases failed
          exact ⟨path, by simp, error, rfl⟩
      | ok value v =>
          have goesOn : sourceFile files path w = .ok ⟨⟩ v := by
            simp only [sourceFile, read_script_ok read, parsed, ended]
          simp only [sourceFiles, bind, EStateM.bind, goesOn] at failed
          obtain ⟨later, member, stopped⟩ := ih (fun other member => accepted other (by simp [member])) failed
          exact ⟨later, by simp [member], stopped⟩

end

-- The lines in which a command reports its findings; no other line starts so.
def Outcome.findings (o : Outcome) : List String := o.errors.filter fun line => line.toList.head? = some '['

theorem filter_findings (report : Report) :
    (report.map Finding.text).filter (fun line => line.toList.head? = some '[') = report.map Finding.text := by
  rw [List.filter_eq_self]
  intro line member
  obtain ⟨f, -, rfl⟩ := List.mem_map.mp member
  simp [Finding.text]

theorem check_outcome_reports {files : Files} {paths : List String} {scripts : List (String × List Char)}
    (read : readScripts files paths = .ok scripts) :
    (checkOutcome files paths).exitCode = (if (checkTexts scripts).hasErrors then 1 else 0) ∧
      (checkOutcome files paths).findings = (checkTexts scripts).map Finding.text := by
  have kept := filter_findings (checkTexts scripts)
  unfold checkOutcome
  rw [read]
  dsimp only
  cases (checkTexts scripts).hasErrors with
  | true => simp [Outcome.findings, Outcome.complaint, interpreterName, kept]
  | false => simp [Outcome.findings, kept]

theorem verdict_start (survey : Survey) : survey.verdict.toList.head? ≠ some '[' := by
  unfold Survey.verdict
  dsimp only
  split
  · simp
  · split <;> simp

theorem script_paths_file {files : Files} {path : String} {text : List Char} (read : files.read path = .ok text) :
    scriptPaths files (some path) = .ok [path] := by
  have isFile : files.isFile path = true := by
    unfold Files.read at read
    unfold Files.isFile
    split at read <;> simp_all
  rw [scriptPaths, if_pos isFile]

theorem script_check_reports {files : Files} {path : String} {text : List Char} (read : files.read path = .ok text) :
    (scriptCheck files (some path)).exitCode = (if (Script.checkText path text).hasErrors then 1 else 0) ∧
      (scriptCheck files (some path)).findings = (Script.checkText path text).map Finding.text := by
  have kept := filter_findings (Script.checkText path text)
  have verdict := verdict_start ⟨[], Script.checkText path text⟩
  have survey : Survey.of files [path] = ⟨[], Script.checkText path text⟩ := by
    simp [Survey.of, Survey.add, Survey.empty, read]
  unfold scriptCheck
  rw [script_paths_file read]
  dsimp only
  rw [survey]
  unfold Survey.failed
  cases (Script.checkText path text).hasErrors with
  | true => simp [Outcome.findings, Outcome.complaint, Survey.lines, TaskFault.outcome, taskName, verdict, kept]
  | false => simp [Outcome.findings, Survey.lines, verdict, kept]

-- The complaint tells a fault in reading from an error of running.
theorem intercalate_start (separator first : String) (others : List String) :
    ∃ more, (separator.intercalate (first :: others)).toList = first.toList ++ more := by
  rw [String.toList_intercalate]
  cases others with
  | nil => exact ⟨[], by simp⟩
  | cons next others => exact ⟨_, by rw [List.map_cons, List.map_cons, List.intercalate_cons_cons, List.append_assoc]⟩

theorem stopped_ne_unparsed (path path' : String) (error : RuntimeError) (fault : ParseError) :
    (SourceFault.stopped path error).message ≠ (SourceFault.unparsed path' fault).message := by
  intro same
  have texts := congrArg (fun message => message.toList.head?) same
  obtain ⟨more, text⟩ := intercalate_start ": " ("执行失败: " ++ path) error.messages
  unfold SourceFault.message at texts
  dsimp only at texts
  rw [text] at texts
  simp at texts

theorem source_outcome_accepted {files : Files} {paths : List String}
    (accepted : ∀ path ∈ paths, PassesStrictly files path) (settings : Settings) :
    ((sourceOutcome files settings paths).exitCode = 0 ∧ (sourceOutcome files settings paths).errors = []) ∨
      ∃ path ∈ paths, ∃ error, (sourceOutcome files settings paths).errors =
        [Outcome.complaint interpreterName (SourceFault.stopped path error).message] := by
  unfold sourceOutcome
  cases ended : sourceFiles files paths (.start (.ofSettings settings) .empty) with
  | ok _ w => exact .inl ⟨rfl, rfl⟩
  | error fault w =>
      obtain ⟨path, member, error, rfl⟩ := source_files_stops accepted ended
      exact .inr ⟨path, member, error, rfl⟩

theorem checks_agree (files : Files) (paths : List String)
    (readable : ∀ path ∈ paths, ∃ text, files.read path = .ok text) (args : List String) (settings : Option String)
    (asked : SourceOptions.parse args = some ⟨settings, true, paths⟩) :
    ((interpreter files args).exitCode = 0 ↔ ∀ path ∈ paths, PassesStrictly files path) ∧
    ((interpreter files args).exitCode = 0 → ∀ args' settings',
      SourceOptions.parse args' = some ⟨settings', false, paths⟩ →
        ((interpreter files args').exitCode = 0 ∧ (interpreter files args').errors = [] ∨
          ∃ path ∈ paths, ∃ error, (interpreter files args').errors =
            [Outcome.complaint interpreterName (SourceFault.stopped path error).message]) ∧
        ∀ path fault, (interpreter files args').errors ≠
          [Outcome.complaint interpreterName (SourceFault.unparsed path fault).message]) ∧
    ∀ path, paths = [path] →
      (tasks files ["script-check", path]).exitCode = (interpreter files args).exitCode ∧
      (tasks files ["script-check", path]).findings = (interpreter files args).findings ∧
      ∃ text, files.read path = .ok text ∧
        (interpreter files args).findings = (Script.checkText path text).map Finding.text := by
  have checked : interpreter files args = checkOutcome files paths := by
    rw [interpreter, asked]
    rfl
  obtain ⟨scripts, read, passes⟩ := read_scripts_passes readable
  obtain ⟨code, findings⟩ := check_outcome_reports read
  have verdict : (interpreter files args).exitCode = 0 ↔ ∀ path ∈ paths, PassesStrictly files path := by
    rw [← passes, checked, code]
    cases (checkTexts scripts).hasErrors <;> simp
  refine ⟨verdict, fun passed args' settings' plain => ?_, ?_⟩
  · have ran : interpreter files args' =
        sourceOutcome files ((settings'.map (settingsAt files)).getD .default) paths := by
      rw [interpreter, plain]
      rfl
    rw [ran]
    have ends := source_outcome_accepted (verdict.mp passed) ((settings'.map (settingsAt files)).getD .default)
    refine ⟨ends, fun path fault complains => ?_⟩
    rcases ends with ⟨-, silent⟩ | ⟨path', -, error, stopped⟩
    · rw [silent] at complains
      cases complains
    · rw [stopped] at complains
      have same := (String.append_right_inj _).mp (List.singleton_inj.mp complains)
      exact stopped_ne_unparsed path' path error fault same
  · rintro path rfl
    obtain ⟨text, single⟩ := readable path (by simp)
    have texts : scripts = [(path, text)] := by
      rw [readScripts, read_script_ok single] at read
      cases read
      rfl
    obtain ⟨code', findings'⟩ := script_check_reports single
    have same : checkTexts scripts = Script.checkText path text := by simp [texts, checkTexts]
    have task : tasks files ["script-check", path] = scriptCheck files (some path) := rfl
    rw [same] at code findings
    rw [task, checked, code, code', findings, findings']
    exact ⟨rfl, rfl, text, single, rfl⟩

-- The one script reads an argument outside of any function, which is worth a warning and stops the run.
def warnedFiles : Files :=
  ⟨fun path => if path = "a.vim" then .ok (.file "echo 'a'\necho a:x".toUTF8) else .error .notFound⟩

theorem warned_files_pass :
    (interpreter warnedFiles ["--check", "a.vim"]).exitCode = 0 ∧
    (∀ path ∈ ["a.vim"], PassesStrictly warnedFiles path) ∧
    (∀ path fault, (interpreter warnedFiles ["-v", "a.vim"]).errors ≠
      [Outcome.complaint interpreterName (SourceFault.unparsed path fault).message]) ∧
    (tasks warnedFiles ["script-check", "a.vim"]).exitCode = 0 ∧
    (tasks warnedFiles ["script-check", "a.vim"]).findings =
      (interpreter warnedFiles ["--check", "a.vim"]).findings := by
  have passed : (interpreter warnedFiles ["--check", "a.vim"]).exitCode = 0 := by decide +kernel
  have readable : ∀ path ∈ ["a.vim"], ∃ text, warnedFiles.read path = .ok text := by
    intro path member
    rw [List.mem_singleton.mp member]
    exact ⟨_, rfl⟩
  obtain ⟨verdict, runs, agree⟩ :=
    checks_agree warnedFiles ["a.vim"] readable ["--check", "a.vim"] none (by decide +kernel)
  obtain ⟨code, findings, -⟩ := agree "a.vim" rfl
  have plain : SourceOptions.parse ["-v", "a.vim"] = some ⟨none, false, ["a.vim"]⟩ := by decide +kernel
  exact ⟨passed, verdict.mp passed, (runs passed _ none plain).2, code.trans passed, findings⟩

end ExScript
