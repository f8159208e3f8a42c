import ExScript.Script.Parser

set_option autoImplicit false

namespace ExScript

theorem read_strict_cons {line : LexedLine} {lines rest : List LexedLine} {s : Statement}
    (read : (statement nestingLimit).run line lines = .ok s rest) :
    readStrict (line :: lines) = ((line.number, s) :: (readStrict rest).1, (readStrict rest).2) := by
  rw [readStrict]
  split <;> rename_i found <;> rw [read] at found <;> cases found
  rfl

theorem read_strict_cons_error {line : LexedLine} {lines stopped : List LexedLine} {error : ParseError}
    (read : (statement nestingLimit).run line lines = .error error stopped) :
    readStrict (line :: lines) = ([], some error) := by
  rw [readStrict]
  split <;> rename_i found <;> rw [read] at found <;> cases found
  rfl

theorem read_lenient_cons_ok {line : LexedLine} {lines rest : List LexedLine} {s : Statement}
    (read : (statement nestingLimit).run line lines = .ok s rest) :
    readLenient (line :: lines) = .ok (line.number, s) :: readLenient rest := by
  rw [readLenient]
  split <;> rename_i found <;> rw [read] at found <;> cases found
  rfl

theorem read_lenient_cons_error {line : LexedLine} {lines stopped : List LexedLine} {error : ParseError}
    (read : (statement nestingLimit).run line lines = .error error stopped) :
    readLenient (line :: lines) = .error error :: readLenient (skipStatement line lines stopped) := by
  rw [readLenient]
  split <;> rename_i found <;> rw [read] at found <;> cases found
  rfl

-- The induction follows strict reading: up to the first fault both readers stand on the same lines.
theorem read_lenient_continues (lines : List LexedLine) :
    ∃ more, readLenient lines = (readStrict lines).1.map .ok ++ more ∧
      match (readStrict lines).2 with
      | none => more = []
      | some fault => ∃ others, more = .error fault :: others := by
  fun_induction readStrict lines with
  | case1 => exact ⟨[], by simp [readLenient], rfl⟩
  | case2 line lines error stopped read => exact ⟨_, read_lenient_cons_error read, _, rfl⟩
  | case3 line lines s rest read statements fault found ih =>
      rw [found] at ih
      obtain ⟨more, whole, ends⟩ := ih
      exact ⟨more, by rw [read_lenient_cons_ok read, whole]; rfl, ends⟩

def statementsIn (found : List (Except ParseError (Nat × Statement))) : List (Nat × Statement) :=
  found.filterMap fun
    | .ok numbered => some numbered
    | .error _ => none

def faultsIn (found : List (Except ParseError (Nat × Statement))) : List ParseError :=
  found.filterMap fun
    | .ok _ => none
    | .error error => some error

theorem parse_lenient_eq (id : String) (text : List Char) :
    Script.parseLenient id text =
      (.ofNumbered id (statementsIn (readLenient (lexLines text))), faultsIn (readLenient (lexLines text))) := rfl

theorem statements_in_read (statements : List (Nat × Statement)) (more : List (Except ParseError (Nat × Statement))) :
    statementsIn (statements.map .ok ++ more) = statements ++ statementsIn more := by
  induction statements with
  | nil => rfl
  | cons s rest ih => exact congrArg (List.cons s) ih

theorem faults_in_read (statements : List (Nat × Statement)) (more : List (Except ParseError (Nat × Statement))) :
    faultsIn (statements.map .ok ++ more) = faultsIn more := by
  induction statements with
  | nil => rfl
  | cons s rest ih => exact ih

theorem zip_of_numbered (id : String) (numbered : List (Nat × Statement)) :
    (Script.ofNumbered id numbered).lines.zip (Script.ofNumbered id numbered).statements = numbered := by
  have unzipped := List.zip_unzip numbered
  rw [List.unzip_eq_map] at unzipped
  exact unzipped

theorem strict_and_lenient_agree (id : String) (text : List Char) :
    (∀ script, Script.parse id text = .ok script ↔ Script.parseLenient id text = (script, [])) ∧
    (∀ error, Script.parse id text = .error error →
      (Script.parseLenient id text).2.head? = some error ∧
      (readStrict (lexLines text)).1 <+:
        (Script.parseLenient id text).1.lines.zip (Script.parseLenient id text).1.statements) := by
  obtain ⟨more, lenient, ends⟩ := read_lenient_continues (lexLines text)
  rw [parse_lenient_eq, lenient, zip_of_numbered, statements_in_read, faults_in_read]
  unfold Script.parse
  cases strict : readStrict (lexLines text) with
  | mk statements fault =>
      rw [strict] at ends
      cases fault with
      | none =>
          rw [show more = [] from ends]
          simp [statementsIn, faultsIn]
      | some fault =>
          obtain ⟨others, rfl⟩ := ends
          refine ⟨fun script => ⟨fun read => ?_, fun clean => ?_⟩, fun error failed => ?_⟩
          · cases read
          · cases (Prod.mk.inj clean).2
          · cases failed
            exact ⟨rfl, List.prefix_append statements _⟩

end ExScript
