import ExScript.Proofs.Script.Modes
import ExScript.Proofs.Statement.Relocation

set_option autoImplicit false

namespace ExScript

namespace Relocation

variable (r : Relocation)

def Numbered (a b : Nat × Statement) : Prop := r.line a.1 b.1 ∧ a.2 = b.2

structure Scripts (s s' : Script) : Prop where
  id : s'.id = s.id
  statements : s'.statements = s.statements
  lines : List.Forall₂ r.line s.lines s'.lines

-- What the scanner makes of two logical lines belongs together, or both are left out.
def Scanned (l l' : LogicalLine) : Prop := Option.Rel r.Lexed l.lexed? l'.lexed?

end Relocation

variable {r : Relocation}

section

variable {α β : Type} {same : α → β → Prop}

theorem reads_ok {a : α} {rest : List LexedLine} {found : EStateM.Result ParseError (List LexedLine) β}
    (reads : r.Reads same (.ok a rest) found) : ∃ b rest', found = .ok b rest' ∧ same a b ∧ r.Lines rest rest' := by
  cases reads with
  | ok alike left => exact ⟨_, _, rfl, alike, left⟩

theorem reads_error {fault : ParseError} {rest : List LexedLine} {found : EStateM.Result ParseError (List LexedLine) β}
    (reads : r.Reads same (.error fault rest) found) :
    ∃ fault' rest', found = .error fault' rest' ∧ r.Moves fault fault' ∧ r.Lines rest rest' := by
  cases reads with
  | error moves left => exact ⟨_, _, rfl, moves, left⟩

end

section

variable {l l' : LogicalLine} {xs xs' : List Lexeme}

theorem tokens_of_scan {l : LogicalLine} {xs : List Lexeme} (scanned : scanLine l.text = .ok xs) :
    l.tokens = .ok (xs.map l.token) := by
  rw [LogicalLine.tokens, scanned]

theorem tokens_of_fault {l : LogicalLine} {fault : LexFault} (scanned : scanLine l.text = .error fault) :
    l.tokens = .error ⟨fault.cause, l.position fault.offset⟩ := by
  rw [LogicalLine.tokens, scanned]

theorem scanned_ok (numbered : r.line l.number l'.number) (scanned : scanLine l.text = .ok xs)
    (scanned' : scanLine l'.text = .ok xs')
    (tokens : List.Forall₂ (fun x x' => r.token (l.token x) (l'.token x')) xs xs') : r.Scanned l l' := by
  rw [Relocation.Scanned, LogicalLine.lexed?, LogicalLine.lexed?, tokens_of_scan scanned, tokens_of_scan scanned']
  cases tokens with
  | nil => exact .none
  | cons head tail =>
      have others := List.forall₂_map_left_iff.mpr (List.forall₂_map_right_iff.mpr tail)
      exact .some (.ok numbered (List.cons_ne_nil _ _) (.cons head others))

theorem scanned_error {fault fault' : LexFault} (numbered : r.line l.number l'.number)
    (scanned : scanLine l.text = .error fault) (scanned' : scanLine l'.text = .error fault')
    (same : fault'.cause = fault.cause) (moved : r.place (l.position fault.offset) (l'.position fault'.offset)) :
    r.Scanned l l' := by
  rw [Relocation.Scanned, LogicalLine.lexed?, LogicalLine.lexed?, tokens_of_fault scanned, tokens_of_fault scanned']
  exact .some (.error numbered same moved)

-- Lines with one text have the same lexemes, so that only their places are in question.
theorem scanned_same (numbered : r.line l.number l'.number) (text : l'.text = l.text)
    (tokens : ∀ xs, scanLine l.text = .ok xs → ∀ x ∈ xs, r.token (l.token x) (l'.token x))
    (faults : ∀ fault, scanLine l.text = .error fault → r.place (l.position fault.offset) (l'.position fault.offset)) :
    r.Scanned l l' := by
  cases scanned : scanLine l.text with
  | ok xs => exact scanned_ok numbered scanned (text ▸ scanned) (List.forall₂_same.mpr (tokens xs scanned))
  | error fault => exact scanned_error numbered scanned (text ▸ scanned) rfl (faults fault scanned)

theorem lines_scanned {ls ls' : List LogicalLine} (scanned : List.Forall₂ r.Scanned ls ls') :
    r.Lines (ls.filterMap (·.lexed?)) (ls'.filterMap (·.lexed?)) :=
  List.rel_filterMap (fun _ _ alike => alike) scanned

end

section

variable {line line' : LexedLine} {lines lines' : List LexedLine}

theorem lexed_numbered (lexed : r.Lexed line line') : r.line line.number line'.number := by
  cases lexed with
  | ok numbered _ _ => exact numbered
  | error numbered _ _ => exact numbered

theorem keyword?_alike (lexed : r.Lexed line line') : line'.keyword? = line.keyword? := by
  cases lexed with
  | error numbered same moved => rfl
  | @ok n n' ts ts' numbered filled tokens =>
      clear filled
      induction tokens with
      | nil => rfl
      | cons head tail ih =>
          obtain ⟨kind, text, text', p, p', rfl, rfl⟩ := token_parts head
          cases kind with
          | range range => exact ih
          | _ => rfl

theorem skip_functions_alike (depth : Nat) (left : r.Lines lines lines') :
    r.Lines (skipFunctions depth lines) (skipFunctions depth lines') := by
  induction left generalizing depth with
  | nil => exact .nil
  | @cons line line' lines lines' head tail ih =>
      rw [skipFunctions, skipFunctions, keyword?_alike head]
      split
      · exact ih (depth + 1)
      · split
        · exact tail
        · exact ih (depth - 1)
      · exact ih depth

theorem skip_statement_alike {stopped stopped' : List LexedLine} (head : r.Lexed line line')
    (left : r.Lines lines lines') (stops : r.Lines stopped stopped') :
    r.Lines (skipStatement line lines stopped) (skipStatement line' lines' stopped') := by
  rw [skipStatement, skipStatement, keyword?_alike head]
  by_cases declares : line.keyword? = some .function
  · rw [if_pos declares, if_pos declares]
    exact skip_functions_alike 1 left
  · rw [if_neg declares, if_neg declares]
    exact stops

theorem read_strict_alike (left : r.Lines lines lines') :
    List.Forall₂ r.Numbered (readStrict lines).1 (readStrict lines').1 ∧
      Option.Rel r.Moves (readStrict lines).2 (readStrict lines').2 := by
  fun_induction readStrict lines generalizing lines' with
  | case1 =>
      cases left
      rw [readStrict]
      exact ⟨.nil, .none⟩
  | case2 line lines fault stopped read =>
      cases left with
      | cons head tail =>
          have reads := statement_reads_alike nestingLimit _ _ _ _ head tail
          rw [read] at reads
          obtain ⟨fault', stopped', read', moves, -⟩ := reads_error reads
          rw [read_strict_cons_error read']
          exact ⟨.nil, .some moves⟩
  | case3 line lines s rest read statements fault found ih =>
      cases left with
      | cons head tail =>
          have reads := statement_reads_alike nestingLimit _ _ _ _ head tail
          rw [read] at reads
          obtain ⟨s', rest', read', same, left⟩ := reads_ok reads
          rw [found] at ih
          obtain ⟨others, faults⟩ := ih left
          rw [read_strict_cons read']
          exact ⟨.cons ⟨lexed_numbered head, same⟩ others, faults⟩

theorem read_lenient_alike (left : r.Lines lines lines') :
    List.Forall₂ (r.Follows r.Numbered) (readLenient lines) (readLenient lines') := by
  fun_induction readLenient lines generalizing lines' with
  | case1 =>
      cases left
      rw [readLenient]
      exact .nil
  | case2 line lines fault stopped read ih =>
      cases left with
      | cons head tail =>
          have reads := statement_reads_alike nestingLimit _ _ _ _ head tail
          rw [read] at reads
          obtain ⟨fault', stopped', read', moves, stops⟩ := reads_error reads
          rw [read_lenient_cons_error read']
          exact .cons (.error moves) (ih (skip_statement_alike head tail stops))
  | case3 line lines s rest read ih =>
      cases left with
      | cons head tail =>
          have reads := statement_reads_alike nestingLimit _ _ _ _ head tail
          rw [read] at reads
          obtain ⟨s', rest', read', same, left⟩ := reads_ok reads
          rw [read_lenient_cons_ok read']
          exact .cons (.ok ⟨lexed_numbered head, same⟩) (ih left)

end

section

variable {source source' : List Char}

theorem of_numbered_alike (id : String) {statements statements' : List (Nat × Statement)}
    (numbered : List.Forall₂ r.Numbered statements statements') :
    r.Scripts (.ofNumbered id statements) (.ofNumbered id statements') := by
  refine ⟨rfl, ?_, ?_⟩
  · have same := List.forall₂_map_left_iff.mpr (List.forall₂_map_right_iff.mpr (numbered.imp fun _ _ alike => alike.2))
    exact (List.forall₂_eq_eq_eq ▸ same).symm
  · exact List.forall₂_map_left_iff.mpr (List.forall₂_map_right_iff.mpr (numbered.imp fun _ _ alike => alike.1))

theorem parse_alike (id : String) (left : r.Lines (lexLines source) (lexLines source')) :
    r.Follows r.Scripts (Script.parse id source) (Script.parse id source') := by
  obtain ⟨statements, faults⟩ := read_strict_alike left
  rw [Script.parse, Script.parse]
  generalize readStrict (lexLines source) = found at statements faults ⊢
  generalize readStrict (lexLines source') = found' at statements faults ⊢
  obtain ⟨numbered, fault⟩ := found
  obtain ⟨numbered', fault'⟩ := found'
  cases faults with
  | none => exact .ok (of_numbered_alike id statements)
  | some moves => exact .error moves

theorem found_alike (id : String) {lines lines' : List LexedLine} (left : r.Lines lines lines') :
    r.Scripts (.ofNumbered id (statementsIn (readLenient lines))) (.ofNumbered id (statementsIn (readLenient lines'))) ∧
      List.Forall₂ r.Moves (faultsIn (readLenient lines)) (faultsIn (readLenient lines')) := by
  have found := read_lenient_alike left
  constructor
  · refine of_numbered_alike id (List.rel_filterMap (fun _ _ follows => ?_) found)
    cases follows with
    | ok alike => exact .some alike
    | error moves => exact .none
  · refine List.rel_filterMap (fun _ _ follows => ?_) found
    cases follows with
    | ok alike => exact .none
    | error moves => exact .some moves

theorem parse_lenient_alike (id : String) (left : r.Lines (lexLines source) (lexLines source')) :
    r.Scripts (Script.parseLenient id source).1 (Script.parseLenient id source').1 ∧
      List.Forall₂ r.Moves (Script.parseLenient id source).2 (Script.parseLenient id source').2 := by
  rw [parse_lenient_eq, parse_lenient_eq]
  exact found_alike id left

end

end ExScript
