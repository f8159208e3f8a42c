import ExScript.Proofs.Line.Places
import ExScript.Proofs.Script.Recovery
import ExScript.Proofs.Script.Relocation
import ExScript.Proofs.Statement.Pace

set_option autoImplicit false

namespace ExScript

section

variable {line : LexedLine} {lines : List LexedLine}

theorem skip_statement_function (opens : line.keyword? = some .function) (stopped : List LexedLine) :
    skipStatement line lines stopped = skipTo 1 lines := by
  rw [skipStatement, if_pos opens, skipTo]

theorem skip_statement_other (other : line.keyword? ≠ some .function) (stopped : List LexedLine) :
    skipStatement line lines stopped = stopped := by
  rw [skipStatement, if_neg other]

theorem statement_single (other : line.keyword? ≠ some .function) :
    ∃ found, ∀ lines, (statement nestingLimit).run line lines = onThisLine found lines := by
  obtain ⟨found, read⟩ := (statement_contained nestingLimit).single other
  exact ⟨found, fun lines => by rw [read]⟩

theorem statement_leaves {s : Statement} {rest : List LexedLine}
    (read : (statement nestingLimit).run line lines = .ok s rest) : rest = skipStatement line lines lines := by
  by_cases opens : line.keyword? = some .function
  · have paced := statement_keeps_pace nestingLimit 0 line lines opens
    rw [read] at paced
    rw [skip_statement_function opens]
    exact paced
  · obtain ⟨found, single⟩ := statement_single opens
    rw [skip_statement_other opens]
    rw [single] at read
    cases found with
    | error fault => cases read
    | ok s => exact (EStateM.Result.ok.inj read).2.symm

theorem statement_stops {fault : ParseError} {stopped : List LexedLine}
    (failed : (statement nestingLimit).run line lines = .error fault stopped) :
    skipStatement line lines stopped = skipStatement line lines lines ∧
      skipStatement line lines stopped <:+ stopped := by
  by_cases opens : line.keyword? = some .function
  · have paced := statement_keeps_pace nestingLimit 0 line lines opens
    rw [failed] at paced
    rw [skip_statement_function opens, skip_statement_function opens]
    exact ⟨rfl, paced⟩
  · obtain ⟨found, single⟩ := statement_single opens
    rw [skip_statement_other opens, skip_statement_other opens]
    rw [single] at failed
    cases found with
    | error fault => exact ⟨(EStateM.Result.error.inj failed).2.symm, List.suffix_rfl⟩
    | ok s => cases failed

theorem skip_statement_suffix (line : LexedLine) (lines : List LexedLine) :
    skipStatement line lines lines <:+ lines := by
  by_cases opens : line.keyword? = some .function
  · rw [skip_statement_function opens]
    exact skip_to_suffix 1 lines
  · simp [skip_statement_other opens]

end

-- What lenient reading records for the statement that starts on a line.
def outcome (line : LexedLine) (lines : List LexedLine) : Except ParseError (Nat × Statement) :=
  match (statement nestingLimit).run line lines with
  | .ok s _ => .ok (line.number, s)
  | .error fault _ => .error fault

theorem read_lenient_cons (line : LexedLine) (lines : List LexedLine) :
    readLenient (line :: lines) = outcome line lines :: readLenient (skipStatement line lines lines) := by
  cases read : (statement nestingLimit).run line lines with
  | ok s rest => rw [read_lenient_cons_ok read, outcome, read, statement_leaves read]
  | error fault stopped => rw [read_lenient_cons_error read, outcome, read, (statement_stops read).1]

-- The statement that starts on `line` takes the lines `inside`, whatever comes behind them.
structure Whole (line : LexedLine) (inside : List LexedLine) : Prop where
  alike : ∀ after, outcome line (inside ++ after) = outcome line inside
  resumes : ∀ after, skipStatement line (inside ++ after) (inside ++ after) = after

theorem whole_single {line : LexedLine} (other : line.keyword? ≠ some .function) : Whole line [] := by
  obtain ⟨found, single⟩ := statement_single other
  refine ⟨fun after => ?_, fun after => skip_statement_other other _⟩
  rw [outcome, outcome, single, single]
  cases found <;> rfl

theorem whole_declaration {line : LexedLine} {inside : List LexedLine} (opens : line.keyword? = some .function)
    (closes : Closes LexedLine.keyword? 1 inside) : Whole line inside := by
  refine ⟨fun after => ?_, fun after => skip_statement_declaration opens closes after _⟩
  rcases (statement_contained nestingLimit).declaration opens closes with ⟨fault, fails⟩ | ⟨s, left, -, -, reads⟩
  · obtain ⟨stopped, alone⟩ := fails []
    obtain ⟨stopped', failed⟩ := fails after
    rw [List.append_nil] at alone
    rw [outcome, outcome, alone, failed]
  · have alone := reads []
    rw [List.append_nil] at alone
    rw [outcome, outcome, alone, reads after]

-- Either some of the lines close all open functions, or skipping goes on into whatever follows.
theorem closes_or_open (depth : Nat) (lines : List LexedLine) :
    (∃ inside after, lines = inside ++ after ∧ Closes LexedLine.keyword? (depth + 1) inside) ∨
    ∃ depth', ∀ more, skipTo (depth + 1) (lines ++ more) = skipTo (depth' + 1) more := by
  induction lines generalizing depth with
  | nil => exact .inr ⟨depth, fun more => rfl⟩
  | cons line lines ih =>
      by_cases opens : line.keyword? = some .function
      · rcases ih (depth + 1) with ⟨inside, after, rfl, closes⟩ | ⟨depth', skips⟩
        · exact .inl ⟨line :: inside, after, rfl, (closes_function opens).mpr closes⟩
        · exact .inr ⟨depth', fun more => by rw [List.cons_append, skip_to_function opens, skips]⟩
      · by_cases ends : line.keyword? = some .endfunction
        · cases depth with
          | zero => exact .inl ⟨[line], lines, rfl, (closes_endfunction ends).mpr (closes_zero.mpr rfl)⟩
          | succ depth =>
              rcases ih depth with ⟨inside, after, rfl, closes⟩ | ⟨depth', skips⟩
              · exact .inl ⟨line :: inside, after, rfl, (closes_endfunction ends).mpr closes⟩
              · exact .inr ⟨depth', fun more => by rw [List.cons_append, skip_to_endfunction ends, skips]⟩
        · rcases ih depth with ⟨inside, after, rfl, closes⟩ | ⟨depth', skips⟩
          · exact .inl ⟨line :: inside, after, rfl, (closes_other opens ends).mpr closes⟩
          · exact .inr ⟨depth', fun more => by rw [List.cons_append, skip_to_other opens ends, skips]⟩

theorem whole_or_open (line : LexedLine) (lines : List LexedLine) :
    (∃ inside after, lines = inside ++ after ∧ Whole line inside) ∨
    line.keyword? = some .function ∧ ∃ depth, ∀ more, skipTo 1 (lines ++ more) = skipTo (depth + 1) more := by
  by_cases opens : line.keyword? = some .function
  · rcases closes_or_open 0 lines with ⟨inside, after, split, closes⟩ | skips
    · exact .inl ⟨inside, after, split, whole_declaration opens closes⟩
    · exact .inr ⟨opens, skips⟩
  · exact .inl ⟨[], lines, rfl, whole_single opens⟩

theorem outcome_within (line : LexedLine) (lines : List LexedLine) :
    ∃ inside, lines = inside ++ skipStatement line lines lines ∧ outcome line inside = outcome line lines := by
  rcases whole_or_open line lines with ⟨inside, after, rfl, whole⟩ | ⟨opens, depth, skips⟩
  · exact ⟨inside, by rw [whole.resumes], (whole.alike after).symm⟩
  · have nothing := skips []
    rw [List.append_nil, skip_to_nil] at nothing
    exact ⟨lines, by rw [skip_statement_function opens, nothing, List.append_nil], rfl⟩

-- Lines and places from `first` to `last`, beside themselves.
def between (first last : Nat) : Relocation where
  token t t' := t' = t ∧ first ≤ t.position.line ∧ t.position.line ≤ last
  place p p' := p' = p ∧ first ≤ p.line ∧ p.line ≤ last
  line n n' := n' = n ∧ first ≤ n ∧ n ≤ last
  flag _ p p' := p' = p ∧ first ≤ p.line ∧ p.line ≤ last
  extra _ _ := True
  kind_eq same := congrArg Token.kind same.1
  place_of same := ⟨congrArg Token.position same.1, same.2⟩
  flag_of same _ := ⟨congrArg Token.position same.1, same.2⟩
  flag_within same _ _ := ⟨by rw [same.1], same.2⟩
  extra_of _ := trivial

section

variable {first last first' last' : Nat}

theorem moves_between {fault fault' : ParseError} (moves : (between first last).Moves fault fault') :
    first ≤ fault.line ∧ fault.line ≤ last := by
  cases moves with
  | lex same moved => exact moved.2
  | unterminatedFunction name moved | unexpectedEndfunction moved | returnWithoutExpression moved
  | missingArgument command moved | rangeNotAllowed command moved | unknownFlag moved | expression cause moved
  | invalidFunctionName cause moved | expected wanted found moved | trailing moved written | nestingTooDeep moved =>
      exact moved.2

theorem between_widens {line : LexedLine} (lexed : (between first last).Lexed line line) (earlier : first' ≤ first)
    (later : last ≤ last') : (between first' last').Lexed line line := by
  have wider : ∀ {n : Nat}, first ≤ n ∧ n ≤ last → first' ≤ n ∧ n ≤ last' :=
    fun bounds => ⟨Nat.le_trans earlier bounds.1, Nat.le_trans bounds.2 later⟩
  cases lexed with
  | error numbered same moved => exact .error ⟨rfl, wider numbered.2⟩ rfl ⟨rfl, wider moved.2⟩
  | ok numbered filled tokens =>
      exact .ok ⟨rfl, wider numbered.2⟩ filled (tokens.imp fun _ _ same => ⟨same.1, wider same.2⟩)

theorem joined_lexed {physical : List (List Char)} {l : LogicalLine} (joined : Joined physical l last) :
    (between l.number last).Scanned l l := by
  have order := joined_line joined 0
  refine scanned_same ⟨rfl, Nat.le_refl _, Nat.le_trans order.1 order.2⟩ rfl ?_ ?_
  · exact fun xs scanned x listed => ⟨rfl, joined_line joined x.offset⟩
  · exact fun fault scanned => ⟨rfl, joined_line joined fault.offset⟩

theorem joined_bound {physical : List (List Char)} {l : LogicalLine} (joined : Joined physical l last) :
    last ≤ physical.length := by
  have within : ∀ {number : Nat} {line : List Char}, IsLine physical number line → number ≤ physical.length := by
    intro number line here
    obtain ⟨bound, -⟩ := List.getElem?_eq_some_iff.mp here.2
    omega
  cases joined with
  | start here => exact within here
  | extend joined later here continues => exact within here

end

-- Each line has its own span of physical lines, behind those of the lines before it and up to `bound`.
def SpansFrom (bound : Nat) : Nat → List LexedLine → Prop
  | _, [] => True
  | before, line :: lines => before < line.number ∧
      ∃ last, last ≤ bound ∧ (between line.number last).Lexed line line ∧ SpansFrom bound last lines

section

variable {bound before : Nat}

theorem spans_from_earlier {before' : Nat} {lines : List LexedLine} (spans : SpansFrom bound before lines)
    (earlier : before' ≤ before) : SpansFrom bound before' lines := by
  cases lines with
  | nil => trivial
  | cons line lines => exact ⟨Nat.lt_of_le_of_lt earlier spans.1, spans.2⟩

theorem joined_from_spans {physical : List (List Char)} {ls : List LogicalLine} (joined : JoinedFrom physical before ls) :
    SpansFrom physical.length before (lexedOf ls) := by
  induction ls generalizing before with
  | nil => trivial
  | cons l ls ih =>
      obtain ⟨later, last, joined, rest⟩ := joined
      have order := joined_line joined 0
      cases cut : l.lexed? with
      | none =>
          rw [lexed_of_cons_none cut]
          exact spans_from_earlier (ih rest) (by omega)
      | some line =>
          have lexed := joined_lexed joined
          have number : line.number = l.number := by
            unfold LogicalLine.lexed? at cut
            split at cut <;> cases cut
            rfl
          rw [Relocation.Scanned, cut] at lexed
          rw [lexed_of_cons_some cut]
          cases lexed with
          | some same =>
              refine ⟨by omega, last, joined_bound joined, ?_, ih rest⟩
              rw [number]
              exact same

theorem spans_from_append {inside rest : List LexedLine} (spans : SpansFrom bound before (inside ++ rest))
    (bounded : before ≤ bound) : ∃ last, before ≤ last ∧ last ≤ bound ∧
      (∀ line ∈ inside, (between before last).Lexed line line) ∧ SpansFrom bound last rest := by
  induction inside generalizing before with
  | nil => exact ⟨before, Nat.le_refl _, bounded, by simp, spans⟩
  | cons line inside ih =>
      obtain ⟨later, last, ended, here, more⟩ := spans
      have order := (lexed_numbered here).2.2
      obtain ⟨last', beyond, bounded', others, left⟩ := ih more ended
      refine ⟨last', by omega, bounded', fun line' member => ?_, left⟩
      rcases List.mem_cons.mp member with rfl | member
      · exact between_widens here (Nat.le_of_lt later) beyond
      · exact between_widens (others line' member) (by omega) (Nat.le_refl _)

end

def outcomeLine : Except ParseError (Nat × Statement) → Nat
  | .ok numbered => numbered.1
  | .error fault => fault.line

theorem outcome_between {first last : Nat} {line : LexedLine} {lines : List LexedLine}
    (within : ∀ l ∈ line :: lines, (between first last).Lexed l l) :
    first ≤ outcomeLine (outcome line lines) ∧ outcomeLine (outcome line lines) ≤ last := by
  have here := within line List.mem_cons_self
  have others := List.forall₂_same.mpr fun l member => within l (List.mem_cons_of_mem line member)
  have alike := statement_reads_alike nestingLimit line line lines lines here others
  unfold outcome
  cases read : (statement nestingLimit).run line lines with
  | ok s rest => exact (lexed_numbered here).2
  | error fault stopped =>
      rw [read] at alike
      obtain ⟨fault', stopped', -, moves, -⟩ := reads_error alike
      exact moves_between moves

-- The induction is on the lines that are left; those of one statement have all their numbers before the others.
theorem read_lenient_increases {bound before : Nat} (lines : List LexedLine) (spans : SpansFrom bound before lines) :
    ((readLenient lines).map outcomeLine).Pairwise (· < ·) ∧
      ∀ n ∈ (readLenient lines).map outcomeLine, before < n ∧ n ≤ bound := by
  cases lines with
  | nil => simp [readLenient]
  | cons line lines =>
      obtain ⟨inside, split, same⟩ := outcome_within line lines
      obtain ⟨later, last, ended, here, more⟩ := spans
      have order := (lexed_numbered here).2.2
      rw [split] at more
      obtain ⟨last', beyond, bounded, others, left⟩ := spans_from_append more ended
      have fewer := (skip_statement_suffix line lines).length_le
      have within : ∀ l ∈ line :: inside, (between line.number last').Lexed l l := by
        intro l member
        rcases List.mem_cons.mp member with rfl | member
        · exact between_widens here (Nat.le_refl _) beyond
        · exact between_widens (others l member) order (Nat.le_refl _)
      have numbered := outcome_between within
      rw [same] at numbered
      obtain ⟨increasing, bounds⟩ := read_lenient_increases (skipStatement line lines lines) left
      rw [read_lenient_cons, List.map_cons]
      refine ⟨.cons (fun n member => ?_) increasing, fun n member => ?_⟩
      · exact Nat.lt_of_le_of_lt numbered.2 (bounds n member).1
      · rcases List.mem_cons.mp member with rfl | member
        · exact ⟨by omega, by omega⟩
        · have further := bounds n member
          exact ⟨by omega, further.2⟩
termination_by lines.length
decreasing_by
  subst_vars
  exact Nat.lt_succ_of_le fewer

theorem recorded_shrinks {lines rest : List LexedLine} {found : List (Except ParseError (Nat × Statement))}
    (recorded : Recorded lines found rest) : found.length + rest.length ≤ lines.length := by
  induction recorded with
  | start => simp
  | @read found line more rest s before ends ih =>
      have fewer := (skip_statement_suffix line more).length_le
      rw [← statement_leaves ends] at fewer
      simp only [List.length_append, List.length_cons, List.length_nil] at ih ⊢
      omega
  | @skipped found line more stopped fault before ends ih =>
      have fewer := (skip_statement_suffix line more).length_le
      rw [← (statement_stops ends).1] at fewer
      simp only [List.length_append, List.length_cons, List.length_nil] at ih ⊢
      omega

theorem recorded_ends {lines : List LexedLine} {found : List (Except ParseError (Nat × Statement))}
    (rest : List LexedLine) (recorded : Recorded lines found rest) : Recorded lines (found ++ readLenient rest) [] := by
  fun_induction readLenient rest generalizing found with
  | case1 => rwa [List.append_nil]
  | case2 line rest fault stopped read ih =>
      have next := ih (.skipped recorded read)
      rwa [List.append_assoc] at next
  | case3 line rest s left read ih =>
      have next := ih (.read recorded read)
      rwa [List.append_assoc] at next

theorem lenient_reading_progresses (id : String) (text : List Char) :
    (∀ line lines fault stopped, (statement nestingLimit).run line lines = .error fault stopped →
      skipStatement line lines stopped <:+ stopped ∧ skipStatement line lines stopped <:+ lines) ∧
    (∀ found rest, Recorded (lexLines text) found rest → found.length + rest.length ≤ (lexLines text).length) ∧
    ∃ found, Recorded (lexLines text) found [] ∧
      Script.parseLenient id text = (.ofNumbered id (statementsIn found), faultsIn found) ∧
      (Script.parseLenient id text).1.lines.length = (Script.parseLenient id text).1.statements.length ∧
      (found.map outcomeLine).Pairwise (· < ·) ∧
      ∀ n ∈ found.map outcomeLine, 1 ≤ n ∧ n ≤ (physicalLines text).length := by
  obtain ⟨increasing, bounds⟩ := read_lenient_increases (lexLines text) (joined_from_spans (logical_lines_joined text))
  refine ⟨fun line lines fault stopped failed => ?_, fun found rest recorded => recorded_shrinks recorded, ?_⟩
  · obtain ⟨same, ahead⟩ := statement_stops failed
    refine ⟨ahead, ?_⟩
    rw [same]
    exact skip_statement_suffix line lines
  · refine ⟨readLenient (lexLines text), recorded_ends (lexLines text) .start, parse_lenient_eq id text, ?_, increasing,
      bounds⟩
    rw [parse_lenient_eq, Script.ofNumbered, List.length_map, List.length_map]

end ExScript
