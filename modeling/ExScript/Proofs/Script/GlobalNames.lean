import ExScript.Host.Recorder
import ExScript.Proofs.Script.RoundTrip
import ExScript.Proofs.Session.Moments

set_option autoImplicit false

namespace ExScript

-- The commands on the function that is written so are read as commands on the function `name`.
structure ReadAs (spelling : String) (name : FunctionName) : Prop where
  declaration : ∀ id, Script.parse id ("function! " ++ spelling ++ "()\nendfunction\n").toList =
    .ok ⟨id, [.function ⟨name, [], .empty, true⟩ []], [1]⟩
  call : ∀ id, Script.parse id ("call " ++ spelling ++ "()\n").toList = .ok ⟨id, [.call none name []], [1]⟩
  deletion : ∀ id, Script.parse id ("delfunction " ++ spelling ++ "\n").toList =
    .ok ⟨id, [.delfunction false name], [1]⟩

theorem parse_single (id : String) {s : Statement} (printable : s.Printable) (shallow : s.nesting ≤ nestingLimit) :
    Script.parse id (printText [s]) = .ok ⟨id, [s], [1]⟩ := by
  have all : AllPrintable [s] := ⟨printable, trivial⟩
  have flat : nestingOf [s] ≤ nestingLimit := Nat.max_le.mpr ⟨shallow, Nat.zero_le _⟩
  obtain ⟨spelled, numbers⟩ := lex_lines_print_text [s] all
  rw [Script.parse, read_strict_spelled [s] all flat 1 spelled numbers]
  rfl

theorem printed_read_as {name : FunctionName} (printable : name.Printable) : ReadAs name.text name := by
  refine ⟨fun id => ?_, fun id => ?_, fun id => ?_⟩
  · have declared : (Statement.function ⟨name, [], .empty, true⟩ []).Printable :=
      ⟨printable, by simp, fun _ lists => lists, trivial⟩
    have read := parse_single id declared (show 1 ≤ nestingLimit by decide)
    simpa [printText, printStatements, printStatement, printHeader, printBang, Keyword.name, commaSeparated, spaced,
      Flags.toList, Flags.empty, Flags.contains] using read
  · have called : (Statement.call none name []).Printable := ⟨by simp [RangePrintable], printable, by simp⟩
    have read := parse_single id called (Nat.zero_le _)
    simpa [printText, printStatements, printStatement, printRange, printExprs, Keyword.name, commaSeparated] using read
  · have deleted : (Statement.delfunction false name).Printable := printable
    have read := parse_single id deleted (Nat.zero_le _)
    simpa [printText, printStatements, printStatement, printBang, Keyword.name] using read

-- A path through dictionaries is kept as it is written, so in scripts `d.F` and `g:d.F` are two functions; from
-- outside both mean the one without scope.
def dottedPath (first : String) (keys : List String) : String := ".".intercalate (first :: keys)

section

variable {first : String} {keys : List String}

theorem path_to_list (first : String) (keys : List String) :
    (dottedPath first keys).toList = first.toList ++ keys.flatMap fun key => '.' :: key.toList := by
  rw [dottedPath, String.toList_intercalate, List.map_cons]
  simp [intercalate_dot, List.flatMap_map]

theorem path_text (scope : Option Scope) (plain : '.' ∉ first.toList) :
    (FunctionName.ofPath scope first keys).text = scopeMark scope ++ dottedPath first keys := by
  rw [← String.toList_inj, text_of_path scope first keys plain, String.toList_append, path_to_list, List.append_assoc]

theorem path_printable {scope : Option Scope} (allowed : FunctionName.allowsScope scope = true)
    (named : ∀ part ∈ first :: keys, isName part = true) : (FunctionName.ofPath scope first keys).Printable := by
  obtain ⟨firstNamed, keysNamed⟩ := List.forall_mem_cons.mp named
  rw [FunctionName.Printable, of_path_scope]
  refine ⟨allowed, first, keys, ?_, keysNamed, rfl⟩
  cases scope with
  | none => exact firstNamed
  | some scope =>
      have chars := name_chars_of_is_name firstNamed
      obtain ⟨c, s, rfl, -, -⟩ := is_name_cases firstNamed
      simpa [isScopedName] using chars

theorem path_read_as (scope : Option Scope) (allowed : FunctionName.allowsScope scope = true)
    (named : ∀ part ∈ first :: keys, isName part = true) :
    ReadAs (scopeMark scope ++ dottedPath first keys) (.ofPath scope first keys) := by
  have plain := no_dot_of_name_chars (name_chars_of_is_name (named first List.mem_cons_self))
  rw [← path_text scope plain]
  exact printed_read_as (path_printable allowed named)

theorem plain_key (first : String) (keys : List String) (id : String) :
    (FunctionName.ofPath none first keys).key id = .global (dottedPath first keys) := by
  cases keys with
  | nil => simp [FunctionName.ofPath, FunctionName.key, dottedPath]
  | cons key keys => simp [FunctionName.ofPath, FunctionName.key, dottedPath, scopeMark]

theorem marked_key (first : String) (keys : List String) (id : String) :
    (FunctionName.ofPath (some .global) first keys).key id =
      .global (if keys = [] then dottedPath first keys else "g:" ++ dottedPath first keys) := by
  cases keys with
  | nil => simp [FunctionName.ofPath, FunctionName.key, dottedPath]
  | cons key keys => rfl

theorem global_key_marked (path : String) : Session.globalKey ("g:" ++ path) = .global path := by
  rw [Session.globalKey, String.toList_append]
  exact congrArg _ String.ofList_toList

theorem no_colon_of_is_name {name : String} (named : isName name = true) : ':' ∉ name.toList := by
  intro member
  have colon := List.all_eq_true.mp (name_chars_of_is_name named) ':' member
  exact absurd colon (by decide)

-- A path has no colon, so no scope is taken off it.
theorem global_key_path (named : ∀ part ∈ first :: keys, isName part = true) :
    Session.globalKey (dottedPath first keys) = .global (dottedPath first keys) := by
  obtain ⟨firstNamed, keysNamed⟩ := List.forall_mem_cons.mp named
  have noColon : ':' ∉ (dottedPath first keys).toList := by
    rw [path_to_list, List.mem_append, List.mem_flatMap]
    rintro (here | ⟨key, member, there⟩)
    · exact no_colon_of_is_name firstNamed here
    · rcases List.mem_cons.mp there with dot | later
      · cases dot
      · exact no_colon_of_is_name (keysNamed key member) later
  unfold Session.globalKey
  split
  · rename_i rest marked
    rw [marked] at noColon
    exact absurd (by simp) noColon
  · rfl

end

variable {σ : Type} [Host σ]

def World.withFunctions (w : World σ) (functions : FunctionTable) : World σ :=
  { w with session := { w.session with functions } }

-- Commands with the name work on the function under the key, in every session.
structure Addresses (σ : Type) [Host σ] (name : FunctionName) (key : FunctionKey) : Prop where
  declares : ∀ (w : World σ) (header : FunctionHeader) (body : List Statement), header.name = name →
    execute (.function header body) w =
      if (!header.replace && w.session.functions.contains key) = true then .error (.functionAlreadyDefined name.text) w
      else .ok .next (w.withFunctions (w.session.functions.insert key (w.session.declared header body)))
  calls : ∀ (w : World σ) (range : Option String) (args : List Expr), execute (.call range name args) w =
    match w.session.functions.get? key with
    | none => .error (.unknownFunction name.text) w
    | some f => (evaluateAllWith invoke args >>= fun values => invoke f values >>= fun _ => pure Flow.next) w
  deletes : ∀ (w : World σ) (bang : Bool), execute (.delfunction bang name) w =
    if w.session.functions.contains key = true then .ok .next (w.withFunctions (w.session.functions.erase key))
    else if bang = true then .ok .next w
    else .error (.unknownFunction name.text) w

-- From outside, the spelling means the function under the key.
structure Opens (σ : Type) [Host σ] (spelling : String) (key : FunctionKey) : Prop where
  has : ∀ s : Session, s.hasFunction spelling = s.functions.contains key
  calls : ∀ (w : World σ) (args : List Value), callFunction spelling args w =
    match w.session.functions.get? key with
    | none => .error (.unknownFunction spelling) w
    | some f => invoke f args w

section

variable {name : FunctionName} {key : FunctionKey}

theorem key_addresses (same : ∀ id, name.key id = key) : Addresses σ name key := by
  refine ⟨fun w header body named => ?_, fun w range args => ?_, fun w bang => ?_⟩
  · refine (run_of_yields (.declare header body w)).trans ?_
    rw [Session.define, FunctionTable.define, named, same]
    by_cases taken : (!header.replace && w.session.functions.contains key) = true
    · rw [if_pos taken, if_pos taken]
      rfl
    · rw [if_neg taken, if_neg taken]
      rfl
  · refine (congrFun (run_calls range name args) w).trans ?_
    rw [run_call, bind_assoc]
    cases found : w.session.functions.get? key with
    | none => exact bind_of_error (resolve_absent (by rw [same, found])) _
    | some f =>
        refine (bind_of_ok (resolve_found (by rw [same, found])) _).trans ?_
        rw [bind_assoc]
        rfl
  · refine (run_of_yields (.delete bang name w)).trans ?_
    rw [Session.delete, same]
    by_cases there : w.session.functions.contains key = true
    · rw [if_pos there, if_pos there]
      rfl
    · rw [if_neg there, if_neg there]
      cases bang <;> rfl

theorem global_key_opens {spelling : String} (same : Session.globalKey spelling = key) : Opens σ spelling key := by
  refine ⟨fun s => by rw [Session.hasFunction, same], fun w args => ?_⟩
  cases found : w.session.functions.get? key with
  | none => exact run_unknown_name args (by rw [same, found])
  | some f => exact run_named args (by rw [same, found])

-- What is filed under the key is there for every spelling that opens it.
theorem opens_declared {spelling : String} (opens : Opens σ spelling key) (w : World σ) (f : DefinedFunction) :
    (w.withFunctions (w.session.functions.insert key f)).session.hasFunction spelling = true ∧
      ∀ args, callFunction spelling args (w.withFunctions (w.session.functions.insert key f)) =
        invoke f args (w.withFunctions (w.session.functions.insert key f)) := by
  have found : (w.withFunctions (w.session.functions.insert key f)).session.functions.get? key = some f := by
    simp [World.withFunctions]
  refine ⟨?_, fun args => ?_⟩
  · rw [opens.has, Table.contains, found]
    rfl
  · rw [opens.calls, found]

end

theorem global_spellings_agree (first : String) (keys : List String)
    (named : ∀ part ∈ first :: keys, isName part = true) :
    ReadAs (dottedPath first keys) (.ofPath none first keys) ∧
    ReadAs ("g:" ++ dottedPath first keys) (.ofPath (some .global) first keys) ∧
    Addresses σ (.ofPath none first keys) (.global (dottedPath first keys)) ∧
    Addresses σ (.ofPath (some .global) first keys)
      (.global (if keys = [] then dottedPath first keys else "g:" ++ dottedPath first keys)) ∧
    (∀ spelling ∈ [dottedPath first keys, "g:" ++ dottedPath first keys],
      Opens σ spelling (.global (dottedPath first keys))) ∧
    ∀ (w : World σ) (scope : Option Scope) (header : FunctionHeader) (body : List Statement),
      scope = none ∨ scope = some .global ∧ keys = [] → header.name = .ofPath scope first keys →
      header.replace = true →
      ∃ v, execute (.function header body) w = .ok .next v ∧
        ∀ spelling ∈ [dottedPath first keys, "g:" ++ dottedPath first keys],
          v.session.hasFunction spelling = true ∧
            ∀ args, callFunction spelling args v = invoke (w.session.declared header body) args v := by
  have read : ReadAs (dottedPath first keys) (.ofPath none first keys) := by
    simpa [scopeMark] using path_read_as none rfl named
  have plain : Addresses σ _ _ := key_addresses (plain_key first keys)
  have marked : Addresses σ _ _ := key_addresses (marked_key first keys)
  have opens : ∀ spelling ∈ [dottedPath first keys, "g:" ++ dottedPath first keys],
      Opens σ spelling (.global (dottedPath first keys)) := by
    intro spelling member
    rcases List.mem_pair.mp member with rfl | rfl
    · exact global_key_opens (global_key_path named)
    · exact global_key_opens (global_key_marked _)
  refine ⟨read, path_read_as (some .global) rfl named, plain, marked, opens, ?_⟩
  intro w scope header body written name replace
  have declares : execute (.function header body) w = .ok .next (w.withFunctions
      (w.session.functions.insert (.global (dottedPath first keys)) (w.session.declared header body))) := by
    rcases written with rfl | ⟨rfl, rfl⟩
    · rw [plain.declares w header body name, replace]
      rfl
    · rw [marked.declares w header body name, replace]
      rfl
  exact ⟨_, declares, fun spelling member => opens_declared (opens spelling member) w _⟩

def answering (name : FunctionName) : FunctionHeader := ⟨name, [], .empty, true⟩

def answer : List Statement := [.return (.literal (.num 3))]

-- A plain name is declared with its scope, a path without one; both are called with the other spelling.
theorem declared_then_called :
    isName "Sum" = true ∧
    (∃ v, execute (.function (answering ⟨some .global, "Sum"⟩) answer) (.start .fresh Recorder.empty) = .ok .next v ∧
      v.session.hasFunction "Sum" = true ∧ callFunction "Sum" [] v =
        invoke (Session.fresh.declared (answering ⟨some .global, "Sum"⟩) answer) [] v) ∧
    (∀ part ∈ ["d", "Sum"], isName part = true) ∧
    ∃ v, execute (.function (answering ⟨none, "d.Sum"⟩) answer) (.start .fresh Recorder.empty) = .ok .next v ∧
      v.session.hasFunction "g:d.Sum" = true ∧ callFunction "g:d.Sum" [] v =
        invoke (Session.fresh.declared (answering ⟨none, "d.Sum"⟩) answer) [] v := by
  have sum : ∀ part ∈ ["Sum"], isName part = true := by decide
  have path : ∀ part ∈ ["d", "Sum"], isName part = true := by decide
  obtain ⟨-, -, -, -, -, declared⟩ := global_spellings_agree (σ := Recorder) "Sum" [] sum
  obtain ⟨-, -, -, -, -, declaredPath⟩ := global_spellings_agree (σ := Recorder) "d" ["Sum"] path
  obtain ⟨v, done, found⟩ := declared (.start .fresh Recorder.empty) (some .global)
    (answering ⟨some .global, "Sum"⟩) answer (.inr ⟨rfl, rfl⟩) rfl rfl
  obtain ⟨v', done', found'⟩ := declaredPath (.start .fresh Recorder.empty) none
    (answering ⟨none, "d.Sum"⟩) answer (.inl rfl) (by decide +kernel) rfl
  obtain ⟨has, calls⟩ := found "Sum" (by decide +kernel)
  obtain ⟨has', calls'⟩ := found' "g:d.Sum" (by decide +kernel)
  exact ⟨by decide, ⟨v, done, has, calls []⟩, path, v', done', has', calls' []⟩

-- After `d.F` is declared, a script that calls `g:d.F` does not find it.
theorem path_with_scope_is_another :
    ∃ declaring calling : Script,
      Script.parse "p.vim" "function! d.F()\nendfunction\n".toList = .ok declaring ∧
      Script.parse "p.vim" "call g:d.F()\n".toList = .ok calling ∧
      ∃ w, source declaring (.start .fresh Recorder.empty) = .ok ⟨⟩ w ∧
        ∃ v, source calling w = .error (.unknownFunction "g:d.F") v := by
  have named : ∀ part ∈ ["d", "F"], isName part = true := by decide
  have declared := (path_read_as none rfl named).declaration "p.vim"
  have called := (path_read_as (some .global) rfl named).call "p.vim"
  refine ⟨_, _, declared, called, _, by with_unfolding_all rfl, _, by with_unfolding_all rfl⟩

-- And after `g:d.F` is declared, no spelling of the path opens it.
theorem scoped_path_is_not_opened :
    ∃ declaring : Script, Script.parse "p.vim" "function! g:d.F()\nendfunction\n".toList = .ok declaring ∧
      ∃ w, source declaring (.start .fresh Recorder.empty) = .ok ⟨⟩ w ∧
        (∀ spelling ∈ ["d.F", "g:d.F"], w.session.hasFunction spelling = false) ∧
        (w.session.functions.get? (.global "g:d.F")).isSome = true := by
  have named : ∀ part ∈ ["d", "F"], isName part = true := by decide
  have declared := (path_read_as (some .global) rfl named).declaration "p.vim"
  refine ⟨_, declared, _, by with_unfolding_all rfl, by decide +kernel, by decide +kernel⟩

end ExScript
