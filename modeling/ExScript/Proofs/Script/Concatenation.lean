import ExScript.Proofs.Script.Layout
import ExScript.Proofs.Script.Progress

set_option autoImplicit false

namespace ExScript

-- Tokens beside themselves, where no line number belongs to any: the faults of tokens are faults with a place.
def unnumbered : Relocation where
  token t t' := t' = t
  place _ _ := True
  line _ _ := False
  flag _ _ _ := True
  extra _ _ := True
  kind_eq same := congrArg Token.kind same
  place_of _ := trivial
  flag_of _ _ := trivial
  flag_within _ _ _ := trivial
  extra_of _ := trivial

theorem unnumbered_tokens (ts : List Token) : unnumbered.Tokens ts ts := List.forall₂_same.mpr fun _ _ => rfl

theorem unnumbered_place (p : Position) : unnumbered.place p p := trivial

-- The reading does not blame an `endfunction`.
def Spares {α : Type} (found : Except ParseError α) : Prop := ∀ n, found ≠ .error (.unexpectedEndfunction n)

section

variable {α β : Type} {found : Except ParseError α}

theorem follows_spares {α' : Type} {same : α → α' → Prop} {found' : Except ParseError α'}
    (follows : unnumbered.Follows same found found') : Spares found := by
  intro n failed
  rw [failed] at follows
  obtain ⟨fault', -, moves⟩ := follows_error follows
  cases moves with
  | unexpectedEndfunction moved => exact moved

theorem spares_ok (a : α) : Spares (.ok a : Except ParseError α) := by
  intro n failed
  cases failed

theorem spares_error {fault : ParseError} (other : ∀ n, fault ≠ .unexpectedEndfunction n) :
    Spares (.error fault : Except ParseError α) :=
  fun n failed => other n (Except.error.inj failed)

theorem spares_bind {next : α → Except ParseError β} (first : Spares found) (more : ∀ a, Spares (next a)) :
    Spares (found >>= next) := by
  cases found with
  | error fault => exact spares_error fun n same => first n (by rw [same])
  | ok a => exact more a

end

section

variable (number : Nat) (last : Position) (ts : List Token)

theorem expect_end_spares : Spares (expectEnd ts) := follows_spares (expect_end_follows (unnumbered_tokens ts))

theorem expression_spares : Spares ((expression last).run ts) :=
  follows_spares (expression_follows (unnumbered_place last) ts ts (unnumbered_tokens ts))

theorem echo_statement_spares : Spares (echoStatement number last ts) := by
  unfold echoStatement
  split
  · exact spares_error (by simp)
  · refine spares_bind (follows_spares (expressions_follow (unnumbered_place last) (unnumbered_tokens ts))) ?_
    exact fun es => spares_ok _

theorem return_statement_spares : Spares (returnStatement number last ts) := by
  unfold returnStatement
  split
  · exact spares_error (by simp)
  · refine spares_bind (expression_spares last ts) fun (value, rest) => ?_
    exact spares_bind (expect_end_spares rest) fun _ => spares_ok _

theorem let_statement_spares : Spares (letStatement number last ts) := by
  unfold letStatement
  split
  · exact spares_error (by simp)
  · split
    · exact spares_error (by simp)
    · rename_i ts _ scope name _
      have operator := follows_spares (assign_op_follows (unnumbered_place last) (unnumbered_tokens ts))
      refine spares_bind operator fun (op, rest) => ?_
      refine spares_bind (expression_spares last rest) fun (value, rest) => ?_
      exact spares_bind (expect_end_spares rest) fun _ => spares_ok _
    · exact spares_error (by simp)

theorem unlet_statement_spares : Spares (unletStatement number ts) := by
  refine spares_bind (follows_spares (variable_names_follow (unnumbered_tokens (takeBang ts).2))) fun targets => ?_
  cases targets with
  | nil => exact spares_error (by simp)
  | cons target targets => exact spares_ok _

end

def SparesLines {α : Type} (read : LineReader α) : Prop :=
  ∀ lines n stopped, read lines ≠ .error (.unexpectedEndfunction n) stopped

section

variable {α β : Type}

theorem spares_lines_on_this_line {found : Except ParseError α} (spares : Spares found) :
    SparesLines (onThisLine found) := by
  intro lines n stopped failed
  cases found with
  | ok a => cases failed
  | error fault => exact spares n (congrArg Except.error (EStateM.Result.error.inj failed).1)

theorem spares_lines_bind {first : LineReader α} {next : α → LineReader β} (firstSpares : SparesLines first)
    (nextSpares : ∀ a, SparesLines (next a)) : SparesLines (first >>= next) := by
  intro lines n stopped failed
  rw [reader_bind_eq] at failed
  cases read : first lines with
  | error fault rest =>
      rw [read] at failed
      cases failed
      exact firstSpares lines n stopped read
  | ok a rest =>
      rw [read] at failed
      exact nextSpares a rest n stopped failed

end

theorem spares_lines_throw {α : Type} {fault : ParseError} (other : ∀ n, fault ≠ .unexpectedEndfunction n) :
    SparesLines (throw fault : LineReader α) :=
  fun _ n _ failed => other n (EStateM.Result.error.inj failed).1

theorem flags_after_spares (flags : Flags) : SparesLines (flagsAfter flags) := by
  unfold flagsAfter
  split
  · intro lines n stopped failed
    unfold flagLine at failed
    split at failed
    · split at failed
      · rename_i words listed
        have spares : Spares (flagsOfWords words) :=
          follows_spares (flags_of_words_follow (r := unnumbered) (List.forall₂_same.mpr fun _ _ => ⟨rfl, trivial⟩))
        exact spares_lines_on_this_line spares _ n stopped failed
      · cases failed
    · cases failed
  · exact spares_lines_on_this_line (spares_ok flags)

theorem function_body_spares {inner : StatementReader} (name : String) (header : Nat)
    (innerSpares : ∀ line, endfunction? line = none → SparesLines (inner.run line)) (lines : List LexedLine) (n : Nat)
    (stopped : List LexedLine) : functionBody inner name header lines ≠ .error (.unexpectedEndfunction n) stopped := by
  fun_induction functionBody inner name header lines with
  | case1 => simp
  | case2 line lines rest ended =>
      exact spares_lines_on_this_line (spares_bind (expect_end_spares rest) fun _ => spares_ok _) lines n stopped
  | case3 line lines goesOn fault rest read =>
      intro failed
      cases failed
      exact innerSpares line goesOn lines n stopped read
  | case4 line lines goesOn s rest read fault rest' next ih =>
      intro failed
      exact ih (next.trans failed)
  | case5 line lines goesOn s rest read body rest' next ih => simp

theorem function_statement_spares {inner : Option StatementReader}
    (innerSpares : ∀ reader, inner = some reader → ∀ line, endfunction? line = none → SparesLines (reader.run line))
    (number : Nat) (last : Position) (ts : List Token) : SparesLines (functionStatement inner number last ts) := by
  have header := follows_spares (function_header_follows (unnumbered_place last) (unnumbered_tokens ts))
  refine spares_lines_bind (spares_lines_on_this_line header) fun (header, rest) => ?_
  refine spares_lines_bind (flags_after_spares header.flags) fun flags => ?_
  cases inner with
  | none => exact spares_lines_throw (by simp)
  | some reader =>
      refine spares_lines_bind (function_body_spares header.name.text number (innerSpares reader rfl)) fun body => ?_
      exact spares_lines_on_this_line (spares_ok _)

-- A range before the keyword is a fault of its own.
theorem endfunction?_unranged {number : Nat} {tokens ts : List Token}
    (leads : leadingKeyword? (takeRange tokens).2 = some (.endfunction, ts)) (unranged : (takeRange tokens).1 = none) :
    endfunction? ⟨number, .ok tokens⟩ = some ts := by
  cases tokens with
  | nil => cases leads
  | cons t tokens =>
      obtain ⟨kind, text, place⟩ := t
      cases kind with
      | range r => cases unranged
      | keyword k =>
          cases leads
          rfl
      | _ => cases leads

theorem statement_from_spares {inner : Option StatementReader}
    (innerSpares : ∀ reader, inner = some reader → ∀ line, endfunction? line = none → SparesLines (reader.run line))
    {line : LexedLine} (noEnd : endfunction? line = none) : SparesLines (statementFrom inner line) := by
  obtain ⟨number, tokens⟩ := line
  cases tokens with
  | error error => exact spares_lines_throw (by simp)
  | ok tokens =>
      dsimp only [statementFrom]
      cases leads : leadingKeyword? (takeRange tokens).2 with
      | none => exact spares_lines_on_this_line (follows_spares (command_statement_follows _ (unnumbered_tokens _)))
      | some found =>
          obtain ⟨k, ts⟩ := found
          dsimp only [keywordStatement]
          split
          · exact spares_lines_throw (by simp)
          · rename_i unranged
            have place := unnumbered_place (lastPlace tokens)
            have after := unnumbered_tokens ts
            cases k with
            | function => exact function_statement_spares innerSpares number _ ts
            | endfunction =>
                have none : (takeRange tokens).1 = none := by simpa using unranged
                cases (endfunction?_unranged leads none).symm.trans noEnd
            | echo => exact spares_lines_on_this_line (echo_statement_spares number _ ts)
            | «return» => exact spares_lines_on_this_line (return_statement_spares number _ ts)
            | «let» => exact spares_lines_on_this_line (let_statement_spares number _ ts)
            | unlet => exact spares_lines_on_this_line (unlet_statement_spares number ts)
            | call => exact spares_lines_on_this_line (follows_spares (call_statement_follows _ place after))
            | delfunction => exact spares_lines_on_this_line (follows_spares (delfunction_statement_follows place after))

theorem statement_spares (room : Nat) {line : LexedLine} (noEnd : endfunction? line = none) :
    SparesLines ((statement room).run line) := by
  induction room generalizing line with
  | zero => exact statement_from_spares (by simp) noEnd
  | succ room ih =>
      refine statement_from_spares ?_ noEnd
      intro reader same line noEnd
      cases same
      exact ih noEnd

theorem outcome_spares {line : LexedLine} (opens : line.keyword? = some .function) (lines : List LexedLine) (n : Nat) :
    outcome line lines ≠ .error (.unexpectedEndfunction n) := by
  have noEnd : endfunction? line = none := by
    cases ended : endfunction? line with
    | none => rfl
    | some rest => cases (endfunction?_keyword ended).symm.trans opens
  intro failed
  unfold outcome at failed
  split at failed
  · cases failed
  · rename_i fault stopped read
    cases failed
    exact statement_spares nestingLimit noEnd lines n stopped read

-- The induction is on the lines in front. A function that they leave open would take all lines to its fault, and
-- the `endfunction` behind them with it.
theorem read_lenient_append {bound before n : Nat} (beyond : bound < n) (last : LexedLine) (lines : List LexedLine)
    (spans : SpansFrom bound before lines) (bounded : before ≤ bound)
    (reported : .error (.unexpectedEndfunction n) ∈ readLenient (lines ++ [last])) (more : List LexedLine) :
    readLenient (lines ++ more) = readLenient lines ++ readLenient more := by
  cases lines with
  | nil => simp [readLenient]
  | cons line lines =>
      rw [List.cons_append, read_lenient_cons] at reported
      rcases whole_or_open line lines with ⟨inside, after, rfl, whole⟩ | ⟨opens, depth, skips⟩
      · have fewer : after.length ≤ (inside ++ after).length := by simp
        have front : SpansFrom bound before ((line :: inside) ++ after) := spans
        obtain ⟨last', -, bounded', within, left⟩ := spans_from_append front bounded
        have upto := (outcome_between within).2
        rw [List.append_assoc, whole.alike, whole.resumes] at reported
        rw [List.cons_append, read_lenient_cons, read_lenient_cons, List.append_assoc, whole.alike, whole.alike,
          whole.resumes, whole.resumes]
        rcases List.mem_cons.mp reported with here | later
        · rw [← here] at upto
          exact absurd upto (Nat.not_le.mpr (Nat.lt_of_le_of_lt bounded' beyond))
        · rw [read_lenient_append beyond last after left bounded' later more]
          rfl
      · have nothing : skipTo (depth + 1) [last] = [] := by
          by_cases opens : last.keyword? = some .function
          · rw [skip_to_function opens, skip_to_nil]
          · by_cases ends : last.keyword? = some .endfunction
            · rw [skip_to_endfunction ends, skip_to_nil]
            · rw [skip_to_other opens ends, skip_to_nil]
        rw [skip_statement_function opens, skips, nothing, readLenient] at reported
        exact absurd (List.mem_singleton.mp reported).symm (outcome_spares opens _ n)
termination_by lines.length
decreasing_by
  subst_vars
  exact Nat.lt_succ_of_le fewer

theorem physical_lines_feed (rest : List Char) : physicalLines ('\n' :: rest) = [] :: physicalLines rest := by
  rw [physicalLines]

theorem physical_lines_return (rest : List Char) : physicalLines ('\r' :: '\n' :: rest) = [] :: physicalLines rest := by
  rw [physicalLines]

theorem physical_lines_other {c : Char} {rest line : List Char} {lines : List (List Char)} (noFeed : c ≠ '\n')
    (noReturn : ∀ more, c = '\r' → rest ≠ '\n' :: more) (found : physicalLines rest = line :: lines) :
    physicalLines (c :: rest) = (c :: line) :: lines := by
  rw [physicalLines, found]
  · exact noReturn
  · exact noFeed

theorem physical_lines_append (front more : List Char) :
    physicalLines (front ++ '\n' :: more) = physicalLines (front ++ ['\n']) ++ physicalLines more ∧
      (physicalLines (front ++ ['\n'])).length = (front ++ ['\n']).count '\n' := by
  induction front with
  | nil => exact ⟨physical_lines_feed more, rfl⟩
  | cons c front ih =>
      obtain ⟨cut, counted⟩ := ih
      by_cases feed : c = '\n'
      · subst feed
        simp only [List.cons_append, physical_lines_feed, cut, List.length_cons, counted, List.count_cons_self, and_self]
      · by_cases paired : c = '\r' ∧ (front = [] ∨ ∃ rest, front = '\n' :: rest)
        · obtain ⟨rfl, rfl | ⟨rest, rfl⟩⟩ := paired
          · exact ⟨physical_lines_return more, rfl⟩
          · simp only [List.cons_append, physical_lines_feed, List.cons.injEq, true_and, List.length_cons] at cut counted
            simp only [List.cons_append, physical_lines_return, cut, List.length_cons, List.count_cons_of_ne feed,
              true_and]
            exact counted
        · -- the line feed that ends the text is not the other half of this character
          have unpaired : ∀ behind rest, c = '\r' → front ++ '\n' :: behind ≠ '\n' :: rest := by
            intro behind rest same starts
            apply paired
            refine ⟨same, ?_⟩
            cases front with
            | nil => exact .inl rfl
            | cons d front =>
                cases starts
                exact .inr ⟨front, rfl⟩
          have filled : 0 < (physicalLines (front ++ ['\n'])).length := by
            rw [counted]
            simp
          obtain ⟨line, lines, found⟩ := List.exists_cons_of_length_pos filled
          rw [found] at cut counted
          rw [List.cons_append, List.cons_append, physical_lines_other feed (unpaired more) cut,
            physical_lines_other feed (unpaired []) found, List.count_cons_of_ne feed]
          exact ⟨rfl, counted⟩

theorem lex_lines_append {a : List Char} (ends : a = [] ∨ a.getLast? = some '\n') {c : List Char}
    (apart : continues (physicalLines c) = false) :
    (physicalLines a).length = a.count '\n' ∧
      lexLines (a ++ c) = lexLines a ++ lexedOf (joinLines none (1 + a.count '\n') (physicalLines c)) := by
  have cut : physicalLines (a ++ c) = physicalLines a ++ physicalLines c ∧ (physicalLines a).length = a.count '\n' := by
    rcases ends with rfl | last
    · exact ⟨rfl, rfl⟩
    · obtain ⟨front, rfl⟩ := List.getLast?_eq_some_iff.mp last
      rw [List.append_assoc]
      exact physical_lines_append front c
  refine ⟨cut.2, ?_⟩
  rw [lexLines, logicalLines, cut.1, join_lines_append _ none 1 apart, cut.2]
  exact lexed_of_append _ _

theorem lex_lines_behind (added : Nat) (c : List Char) :
    (renumbering (· + added)).Lines (lexLines c) (lexedOf (joinLines none (1 + added) (physicalLines c))) := by
  apply lines_renumbered
  apply join_lines_alike
  · intro i line
    rw [Renumbered, LogicalLine.renumber, Nat.add_right_comm]
    rfl
  · rintro i column tail l _ rfl
    rw [Renumbered, Nat.add_right_comm]
    rfl
  · exact .none

theorem mem_of_faults_in {fault : ParseError} {found : List (Except ParseError (Nat × Statement))}
    (member : fault ∈ faultsIn found) : .error fault ∈ found := by
  obtain ⟨o, listed, same⟩ := List.mem_filterMap.mp member
  cases o with
  | ok numbered => cases same
  | error fault' =>
      cases same
      exact listed

theorem endfunction_lexed (number : Nat) :
    ∃ last, lexedOf (joinLines none number (physicalLines "endfunction".toList)) = [last] :=
  ⟨⟨number, (LogicalLine.start number "endfunction".toList).tokens⟩, by with_unfolding_all rfl⟩

theorem statements_in_append (found more : List (Except ParseError (Nat × Statement))) :
    statementsIn (found ++ more) = statementsIn found ++ statementsIn more := List.filterMap_append

theorem faults_in_append (found more : List (Except ParseError (Nat × Statement))) :
    faultsIn (found ++ more) = faultsIn found ++ faultsIn more := List.filterMap_append

theorem of_numbered_append (name : String) (front more : List (Nat × Statement)) :
    Script.ofNumbered name (front ++ more) =
      ⟨name, (Script.ofNumbered name front).statements ++ (Script.ofNumbered name more).statements,
        (Script.ofNumbered name front).lines ++ (Script.ofNumbered name more).lines⟩ := by
  simp only [Script.ofNumbered, List.map_append]

theorem lenient_reading_composes (name : String) (a c : List Char) (ends : a = [] ∨ a.getLast? = some '\n')
    (closed : .unexpectedEndfunction (a.count '\n' + 1) ∈ (Script.parseLenient name (a ++ "endfunction".toList)).2)
    (apart : continues (physicalLines c) = false) :
    Script.parseLenient name (a ++ c) =
      (⟨name, (Script.parseLenient name a).1.statements ++ (Script.parseLenient name c).1.statements,
          (Script.parseLenient name a).1.lines ++ (Script.parseLenient name c).1.lines.map (· + a.count '\n')⟩,
        (Script.parseLenient name a).2 ++
          (Script.parseLenient name c).2.map (ParseError.renumber (· + a.count '\n'))) := by
  obtain ⟨counted, split⟩ := lex_lines_append ends apart
  obtain ⟨-, ended⟩ := lex_lines_append ends (show continues (physicalLines "endfunction".toList) = false by decide)
  obtain ⟨last, alone⟩ := endfunction_lexed (1 + a.count '\n')
  have spans := joined_from_spans (logical_lines_joined a)
  rw [counted] at spans
  rw [parse_lenient_eq, ended, alone] at closed
  have found := read_lenient_append (Nat.lt_succ_self _) last (lexLines a) spans (Nat.zero_le _)
    (mem_of_faults_in closed) (lexedOf (joinLines none (1 + a.count '\n') (physicalLines c)))
  obtain ⟨scripts, faults⟩ := found_alike name (lex_lines_behind (a.count '\n') c)
  have script := scripts_renumbered (fun _ _ same => same) scripts
  have moved := forall₂_map_eq (g := id) (fun _ _ moves => moves_renumbering moves) faults
  rw [List.map_id] at moved
  have statements := congrArg Script.statements script
  have lines := congrArg Script.lines script
  rw [parse_lenient_eq name (a ++ c), split, found, statements_in_append, faults_in_append, of_numbered_append, statements,
    lines, moved]
  rfl

-- The function of the first text is closed by a line that a lexical fault of its body does not hide, and its second
-- statement is at fault; so is the second line of the text behind it.
def closedText : List Char := "function F()\necho @\nendfunction\n1echo\n".toList

def followingText : List Char := "quit\nendfunction\nredraw".toList

theorem closed_text_composes :
    closedText.getLast? = some '\n' ∧ continues (physicalLines followingText) = false ∧
    (.unexpectedEndfunction 5 ∈ (Script.parseLenient "s" (closedText ++ "endfunction".toList)).2) ∧
    Script.parseLenient "s" (closedText ++ followingText) =
      (⟨"s", [plainCommand "quit", plainCommand "redraw"], [5, 7]⟩,
        [.lex ⟨.unexpectedCharacter '@', ⟨2, 6⟩⟩, .rangeNotAllowed 4 .echo, .unexpectedEndfunction 6]) := by
  have ends : closedText.getLast? = some '\n' := by decide
  have apart : continues (physicalLines followingText) = false := by decide
  have closed : .unexpectedEndfunction 5 ∈ (Script.parseLenient "s" (closedText ++ "endfunction".toList)).2 := by
    decide +kernel
  refine ⟨ends, apart, closed, ?_⟩
  have composed := lenient_reading_composes "s" closedText followingText (.inr ends) closed apart
  rw [composed]
  with_unfolding_all rfl

end ExScript
