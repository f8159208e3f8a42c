import ExScript.Proofs.Script.Modes
import ExScript.Proofs.Statement.Extent

set_option autoImplicit false

namespace ExScript

-- The keyword that a line's command word abbreviates, also where the rest of the line is no tokens.
def LogicalLine.commandKeyword? (l : LogicalLine) : Option Keyword :=
  match l.text.dropWhile isLineLead with
  | '"' :: _ => none
  | body => Keyword.ofWord? ((dropBlanks (spanRange body).2).takeWhile isLetter)

def lexedOf (lines : List LogicalLine) : List LexedLine := lines.filterMap (·.lexed?)

theorem lexed_of_cons_some {l : LogicalLine} {line : LexedLine} (cut : l.lexed? = some line)
    (lines : List LogicalLine) : lexedOf (l :: lines) = line :: lexedOf lines := List.filterMap_cons_some cut

theorem lexed_of_cons_none {l : LogicalLine} (cut : l.lexed? = none) (lines : List LogicalLine) :
    lexedOf (l :: lines) = lexedOf lines := List.filterMap_cons_none cut

theorem lexed_of_append (lines more : List LogicalLine) : lexedOf (lines ++ more) = lexedOf lines ++ lexedOf more :=
  List.filterMap_append

-- The command's first token is the keyword of its word, if it has any.
theorem scan_command_keyword? (l : LogicalLine) (number : Nat) {offset : Nat} {s : List Char} {command : List Lexeme}
    (scanned : scanCommand offset s = .ok command) (ended : Token) (last : ended.kind = .endOfLine) :
    LexedLine.keyword? ⟨number, .ok (command.map l.token ++ [ended])⟩ = Keyword.ofWord? (s.takeWhile isLetter) := by
  unfold scanCommand at scanned
  dsimp only at scanned
  split at scanned
  · rename_i k known
    obtain ⟨more, -, done⟩ := bind_eq_ok scanned
    cases done
    rw [known]
    rfl
  · rename_i unknown
    rw [unknown]
    split at scanned
    · cases s with
      | nil =>
          cases scanned
          obtain ⟨kind, text, place⟩ := ended
          cases last
          rfl
      | cons c rest =>
          rw [scanSymbol] at scanned
          split at scanned <;> cases scanned
          rfl
    · cases scanned
      rfl

theorem command_keyword?_body {l : LogicalLine} (noComment : ∀ tail, l.text.dropWhile isLineLead ≠ '"' :: tail) :
    l.commandKeyword? =
      Keyword.ofWord? ((dropBlanks (spanRange (l.text.dropWhile isLineLead)).2).takeWhile isLetter) := by
  unfold LogicalLine.commandKeyword?
  split
  · rename_i comment
    exact absurd comment (noComment _)
  · rfl

theorem keyword?_after_range (l : LogicalLine) (number : Nat) (unranged : Bool) (text : String) (range : List Char)
    (start : Nat) (more : List Lexeme) :
    LexedLine.keyword? ⟨number,
        .ok (((if unranged then [] else [(⟨.range text, range, start⟩ : Lexeme)]) ++ more).map l.token)⟩ =
      LexedLine.keyword? ⟨number, .ok (more.map l.token)⟩ := by
  cases unranged <;> rfl

theorem keyword?_tokens {l : LogicalLine} {tokens : List Token} (cut : l.tokens = .ok tokens) (number : Nat) :
    LexedLine.keyword? ⟨number, .ok tokens⟩ = l.commandKeyword? := by
  unfold LogicalLine.tokens at cut
  cases scanned : scanLine l.text with
  | error fault =>
      rw [scanned] at cut
      cases cut
  | ok lexemes =>
      rw [scanned] at cut
      cases cut
      unfold scanLine at scanned
      split at scanned
      · rename_i empty
        cases scanned
        rw [LogicalLine.commandKeyword?, empty]
        rfl
      · rename_i comment
        cases scanned
        rw [LogicalLine.commandKeyword?, comment]
        rfl
      · rename_i noComment
        obtain ⟨command, found, done⟩ := bind_eq_ok scanned
        cases done
        have commanded := scan_command_keyword? l number found (l.token ⟨.endOfLine, [], byteLength l.text⟩) rfl
        rw [command_keyword?_body noComment, ← commanded, List.append_assoc, keyword?_after_range,
          List.map_append]
        rfl

theorem keyword?_lexed? {l : LogicalLine} {line : LexedLine} (cut : l.lexed? = some line) :
    ∀ k, line.keyword? = some k → l.commandKeyword? = some k := by
  intro k keyed
  unfold LogicalLine.lexed? at cut
  split at cut
  · cases cut
  · cases cut
    cases tokens : l.tokens with
    | error error =>
        rw [tokens] at keyed
        cases keyed
    | ok ts =>
        rw [tokens, keyword?_tokens tokens] at keyed
        exact keyed

theorem lexed?_keyword {l : LogicalLine} {k : Keyword} (keyed : l.commandKeyword? = some k)
    (lexes : ∃ tokens, l.tokens = .ok tokens) : ∃ line, l.lexed? = some line ∧ line.keyword? = some k := by
  obtain ⟨tokens, cut⟩ := lexes
  have same := (keyword?_tokens cut l.number).trans keyed
  refine ⟨⟨l.number, .ok tokens⟩, ?_, same⟩
  unfold LogicalLine.lexed?
  split
  · rename_i empty
    cases cut.symm.trans empty
    cases same
  · rw [cut]

-- Lines that cannot be cut into tokens have no keyword for the parser; the others have that of their word.
theorem closes_lexed_of (depth : Nat) (lines : List LogicalLine)
    (closes : Closes LogicalLine.commandKeyword? depth lines)
    (lexes : ∀ l ∈ lines, l.commandKeyword? = some .function ∨ l.commandKeyword? = some .endfunction →
      ∃ tokens, l.tokens = .ok tokens) : Closes LexedLine.keyword? depth (lexedOf lines) := by
  induction lines generalizing depth with
  | nil =>
      cases depth with
      | zero => exact closes_zero.mpr rfl
      | succ depth => exact closes.elim
  | cons l lines ih =>
      cases depth with
      | zero => cases closes_zero.mp closes
      | succ depth =>
          have others : ∀ depth, Closes LogicalLine.commandKeyword? depth lines →
              Closes LexedLine.keyword? depth (lexedOf lines) :=
            fun depth closes => ih depth closes fun l member => lexes l (List.mem_cons_of_mem _ member)
          by_cases opens : l.commandKeyword? = some .function
          · obtain ⟨line, cut, keyed⟩ := lexed?_keyword opens (lexes l List.mem_cons_self (.inl opens))
            rw [lexed_of_cons_some cut, closes_function keyed]
            exact others _ ((closes_function opens).mp closes)
          · by_cases ends : l.commandKeyword? = some .endfunction
            · obtain ⟨line, cut, keyed⟩ := lexed?_keyword ends (lexes l List.mem_cons_self (.inr ends))
              rw [lexed_of_cons_some cut, closes_endfunction keyed]
              exact others _ ((closes_endfunction ends).mp closes)
            · have left := others _ ((closes_other opens ends).mp closes)
              cases cut : l.lexed? with
              | none => rwa [lexed_of_cons_none cut]
              | some line =>
                  have unkeyed := keyword?_lexed? cut
                  rw [lexed_of_cons_some cut, closes_other]
                  · exact left
                  · rintro keyed
                    exact opens (unkeyed _ keyed)
                  · rintro keyed
                    exact ends (unkeyed _ keyed)

theorem skip_functions_closes (depth : Nat) (lines after : List LexedLine)
    (closes : Closes LexedLine.keyword? (depth + 1) lines) : skipFunctions (depth + 1) (lines ++ after) = after := by
  induction lines generalizing depth with
  | nil => exact closes.elim
  | cons line lines ih =>
      rw [List.cons_append, skipFunctions]
      split
      · rename_i opens
        exact ih (depth + 1) ((closes_function opens).mp closes)
      · rename_i ends
        have left := (closes_endfunction ends).mp closes
        cases depth with
        | zero =>
            rw [if_pos (Nat.le_refl 1), closes_zero.mp left]
            rfl
        | succ depth =>
            rw [if_neg (by omega)]
            exact ih depth left
      · rename_i noFunction noEnd
        exact ih depth ((closes_other noFunction noEnd).mp closes)

-- What lenient reading has recorded when it comes to the lines `rest` at the start of a statement.
inductive Recorded (lines : List LexedLine) : List (Except ParseError (Nat × Statement)) → List LexedLine → Prop
  | start : Recorded lines [] lines
  | read {found : List (Except ParseError (Nat × Statement))} {line : LexedLine} {more rest : List LexedLine}
      {s : Statement} (before : Recorded lines found (line :: more))
      (ends : (statement nestingLimit).run line more = .ok s rest) :
      Recorded lines (found ++ [.ok (line.number, s)]) rest
  | skipped {found : List (Except ParseError (Nat × Statement))} {line : LexedLine} {more stopped : List LexedLine}
      {fault : ParseError} (before : Recorded lines found (line :: more))
      (ends : (statement nestingLimit).run line more = .error fault stopped) :
      Recorded lines (found ++ [.error fault]) (skipStatement line more stopped)

theorem read_lenient_recorded {lines rest : List LexedLine} {found : List (Except ParseError (Nat × Statement))}
    (recorded : Recorded lines found rest) : readLenient lines = found ++ readLenient rest := by
  induction recorded with
  | start => rfl
  | read before ends ih => rw [ih, read_lenient_cons_ok ends, List.append_assoc]; rfl
  | skipped before ends ih => rw [ih, read_lenient_cons_error ends, List.append_assoc]; rfl

theorem declaration_fails {line : LexedLine} {lines : List LexedLine} (opens : line.keyword? = some .function)
    (closes : Closes LexedLine.keyword? 1 lines) {fault : ParseError}
    (fails : (readStrict (line :: lines)).2 = some fault) (after : List LexedLine) :
    ∃ stopped, (statement nestingLimit).run line (lines ++ after) = .error fault stopped := by
  rcases (statement_contained nestingLimit).declaration opens closes with ⟨fault', stops⟩ | ⟨s, left, ended, -, reads⟩
  · obtain ⟨stopped, alone⟩ := stops []
    rw [List.append_nil] at alone
    rw [read_strict_cons_error alone] at fails
    cases fails
    exact stops after
  · have alone := reads []
    rw [List.append_nil, List.append_nil, closes_zero.mp ended] at alone
    rw [read_strict_cons alone, readStrict] at fails
    cases fails

theorem skip_statement_declaration {line : LexedLine} {lines : List LexedLine} (opens : line.keyword? = some .function)
    (closes : Closes LexedLine.keyword? 1 lines) (after stopped : List LexedLine) :
    skipStatement line (lines ++ after) stopped = after := by
  rw [skipStatement, if_pos opens]
  exact skip_functions_closes 0 lines after closes

theorem lenient_skips_declaration (id : String) (text : List Char) (header : LogicalLine)
    (inside after : List LogicalLine) (found : List (Except ParseError (Nat × Statement))) (fault : ParseError)
    (reached : Recorded (lexLines text) found (lexedOf (header :: (inside ++ after))))
    (declares : header.commandKeyword? = some .function)
    (closes : Closes LogicalLine.commandKeyword? 1 inside)
    (lexes : ∀ l ∈ header :: inside, l.commandKeyword? = some .function ∨ l.commandKeyword? = some .endfunction →
      ∃ tokens, l.tokens = .ok tokens)
    (fails : (readStrict (lexedOf (header :: inside))).2 = some fault) :
    Recorded (lexLines text) (found ++ [.error fault]) (lexedOf after) ∧
    Script.parseLenient id text =
      (.ofNumbered id (statementsIn found ++ statementsIn (readLenient (lexedOf after))),
        faultsIn found ++ fault :: faultsIn (readLenient (lexedOf after))) := by
  obtain ⟨line, cut, opens⟩ := lexed?_keyword declares (lexes header List.mem_cons_self (.inl declares))
  have closed := closes_lexed_of 1 inside closes fun l member => lexes l (List.mem_cons_of_mem _ member)
  rw [lexed_of_cons_some cut] at fails
  rw [lexed_of_cons_some cut, lexed_of_append] at reached
  obtain ⟨stopped, ends⟩ := declaration_fails opens closed fails (lexedOf after)
  have next := Recorded.skipped reached ends
  rw [skip_statement_declaration opens closed] at next
  refine ⟨next, ?_⟩
  rw [parse_lenient_eq, read_lenient_recorded next]
  simp [statementsIn, faultsIn]

def nestedText : List Char := "quit\nfunction F()\nfunction G()\nreturn\nendfunction\nendf\nredraw".toList

def nestedHeader : LogicalLine := .start 2 "function F()".toList

def nestedInside : List LogicalLine :=
  [.start 3 "function G()".toList, .start 4 "return".toList, .start 5 "endfunction".toList, .start 6 "endf".toList]

def plainCommand (name : String) : Statement := .command ⟨none, name, false, ""⟩

theorem tokens_of_all {lines : List LogicalLine} (cut : lines.all (·.tokens.toBool) = true) :
    ∀ l ∈ lines, ∃ tokens, l.tokens = .ok tokens := by
  intro l member
  have here := List.all_eq_true.mp cut l member
  cases tokens : l.tokens with
  | error error =>
      rw [tokens] at here
      cases here
  | ok ts => exact ⟨ts, rfl⟩

theorem lenient_skips_nested_declaration :
    nestedHeader.commandKeyword? = some .function ∧ Closes LogicalLine.commandKeyword? 1 nestedInside ∧
    (readStrict (lexedOf (nestedHeader :: nestedInside))).2 = some (.returnWithoutExpression 4) ∧
    Recorded (lexLines nestedText) [.ok (1, plainCommand "quit"), .error (.returnWithoutExpression 4)]
      (lexedOf [.start 7 "redraw".toList]) ∧
    Script.parseLenient "a.vim" nestedText =
      (⟨"a.vim", [plainCommand "quit", plainCommand "redraw"], [1, 7]⟩, [.returnWithoutExpression 4]) := by
  have declares : nestedHeader.commandKeyword? = some .function := by decide +kernel
  have closes : Closes LogicalLine.commandKeyword? 1 nestedInside := by with_unfolding_all exact rfl
  have fails : (readStrict (lexedOf (nestedHeader :: nestedInside))).2 = some (.returnWithoutExpression 4) := by
    decide +kernel
  have lexes := tokens_of_all (show (nestedHeader :: nestedInside).all (·.tokens.toBool) = true by decide +kernel)
  have reached : Recorded (lexLines nestedText) [.ok (1, plainCommand "quit")]
      (lexedOf (nestedHeader :: (nestedInside ++ [.start 7 "redraw".toList]))) :=
    .read .start (by with_unfolding_all rfl)
  have skips := lenient_skips_declaration "a.vim" nestedText nestedHeader nestedInside [.start 7 "redraw".toList] _ _
    reached declares closes (fun l member _ => lexes l member) fails
  refine ⟨declares, closes, fails, skips.1, skips.2.trans ?_⟩
  with_unfolding_all rfl

def uncutText : List Char := "function F(@)\nquit\nendfunction".toList

def uncutHeader : LogicalLine := .start 1 "function F(@)".toList

def uncutInside : List LogicalLine := [.start 2 "quit".toList, .start 3 "endfunction".toList]

-- The word of the first line is `function`, and the last line closes it; but the first line is no tokens, so
-- what stands between them is read as a statement of the script.
theorem lenient_leaks_body :
    Recorded (lexLines uncutText) [] (lexedOf (uncutHeader :: uncutInside)) ∧
    uncutHeader.commandKeyword? = some .function ∧ Closes LogicalLine.commandKeyword? 1 uncutInside ∧
    (readStrict (lexedOf (uncutHeader :: uncutInside))).2 = some (.lex ⟨.unexpectedCharacter '@', ⟨1, 12⟩⟩) ∧
    Script.parseLenient "a.vim" uncutText = (⟨"a.vim", [plainCommand "quit"], [2]⟩,
      [.lex ⟨.unexpectedCharacter '@', ⟨1, 12⟩⟩, .unexpectedEndfunction 3]) := by
  refine ⟨.start, by decide +kernel, by with_unfolding_all exact rfl, by decide +kernel, ?_⟩
  with_unfolding_all rfl

end ExScript
