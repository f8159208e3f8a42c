import ExScript.Script.Parser

set_option autoImplicit false

namespace ExScript

-- The lines end with the one that closes the last of `depth` open functions.
def Closes {α : Type} (keywordOf : α → Option Keyword) : Nat → List α → Prop
  | 0, lines => lines = []
  | _ + 1, [] => False
  | depth + 1, line :: lines =>
      match keywordOf line with
      | some .function => Closes keywordOf (depth + 2) lines
      | some .endfunction => Closes keywordOf depth lines
      | _ => Closes keywordOf (depth + 1) lines

section

variable {α : Type} {keywordOf : α → Option Keyword} {depth : Nat} {line : α} {lines : List α}

theorem closes_zero : Closes keywordOf 0 lines ↔ lines = [] := by
  rw [Closes]

theorem closes_function (opens : keywordOf line = some .function) :
    Closes keywordOf (depth + 1) (line :: lines) ↔ Closes keywordOf (depth + 2) lines := by
  simp only [Closes, opens]

theorem closes_endfunction (ends : keywordOf line = some .endfunction) :
    Closes keywordOf (depth + 1) (line :: lines) ↔ Closes keywordOf depth lines := by
  simp only [Closes, ends]

theorem closes_other (noFunction : keywordOf line ≠ some .function)
    (noEnd : keywordOf line ≠ some .endfunction) :
    Closes keywordOf (depth + 1) (line :: lines) ↔ Closes keywordOf (depth + 1) lines := by
  rw [Closes]
  split
  · rename_i opens
    exact absurd opens noFunction
  · rename_i ends
    exact absurd ends noEnd
  · exact Iff.rfl

end

-- The lines are enough for the reading: it ends the same way whatever follows them.
def StaysWithin {α : Type} (depth : Nat) (read : LineReader α) (lines : List LexedLine) : Prop :=
  (∃ fault, ∀ after, ∃ stopped, read (lines ++ after) = .error fault stopped) ∨
  ∃ a left, Closes LexedLine.keyword? depth left ∧ left.length ≤ lines.length ∧
    ∀ after, read (lines ++ after) = .ok a (left ++ after)

section

variable {α β : Type} {depth depth' : Nat} {lines : List LexedLine}

theorem stays_within_bind {first : LineReader α} {next : α → LineReader β}
    (firstStays : StaysWithin depth first lines)
    (nextStays : ∀ a left, Closes LexedLine.keyword? depth left → left.length ≤ lines.length →
      StaysWithin depth' (next a) left) : StaysWithin depth' (first >>= next) lines := by
  rcases firstStays with ⟨fault, fails⟩ | ⟨a, left, closes, fewer, reads⟩
  · refine .inl ⟨fault, fun after => ?_⟩
    obtain ⟨stopped, failed⟩ := fails after
    refine ⟨stopped, ?_⟩
    show EStateM.bind first next (lines ++ after) = _
    rw [EStateM.bind, failed]
  · have step : ∀ after, (first >>= next) (lines ++ after) = next a (left ++ after) := by
      intro after
      show EStateM.bind first next (lines ++ after) = _
      rw [EStateM.bind, reads after]
    rcases nextStays a left closes fewer with ⟨fault, fails⟩ | ⟨b, left', closes', fewer', reads'⟩
    · exact .inl ⟨fault, fun after => by rw [step]; exact fails after⟩
    · exact .inr ⟨b, left', closes', Nat.le_trans fewer' fewer, fun after => by rw [step]; exact reads' after⟩

theorem stays_within_throw (fault : ParseError) : StaysWithin depth (throw fault : LineReader α) lines :=
  .inl ⟨fault, fun after => ⟨lines ++ after, rfl⟩⟩

theorem stays_within_on_this_line (found : Except ParseError α) (closes : Closes LexedLine.keyword? depth lines) :
    StaysWithin depth (onThisLine found) lines := by
  cases found with
  | error fault => exact stays_within_throw fault
  | ok a => exact .inr ⟨a, lines, closes, Nat.le_refl _, fun _ => rfl⟩

theorem stays_within_pure (a : α) (closes : Closes LexedLine.keyword? depth lines) :
    StaysWithin depth (pure a : LineReader α) lines :=
  stays_within_on_this_line (.ok a) closes

theorem stays_within_cons {first next : LineReader α} {line : LexedLine}
    (taken : ∀ more, first (line :: more) = next more) (stays : StaysWithin depth next lines) :
    StaysWithin depth first (line :: lines) := by
  rcases stays with ⟨fault, fails⟩ | ⟨a, left, closes, fewer, reads⟩
  · exact .inl ⟨fault, fun after => by rw [List.cons_append, taken]; exact fails after⟩
  · exact .inr ⟨a, left, closes, Nat.le_succ_of_le fewer,
      fun after => by rw [List.cons_append, taken]; exact reads after⟩

end

-- A line with a second range before its keyword is none that any statement starts with.
theorem leading_keyword?_cases (number : Nat) (tokens : List Token) :
    (∃ k ts, leadingKeyword? (takeRange tokens).2 = some (k, ts) ∧
      LexedLine.keyword? ⟨number, .ok tokens⟩ = some k) ∨
    leadingKeyword? (takeRange tokens).2 = none ∧
      (LexedLine.keyword? ⟨number, .ok tokens⟩ = none ∨
        ∃ text start place ts, (takeRange tokens).2 = ⟨.range text, start, place⟩ :: ts) := by
  have unranged : ∀ ts : List Token, (∃ k more, leadingKeyword? ts = some (k, more) ∧
      LexedLine.keyword? ⟨number, .ok ts⟩ = some k) ∨
      leadingKeyword? ts = none ∧ (LexedLine.keyword? ⟨number, .ok ts⟩ = none ∨
        ∃ text start place more, ts = ⟨.range text, start, place⟩ :: more) := by
    intro ts
    cases ts with
    | nil => exact .inr ⟨rfl, .inl rfl⟩
    | cons t ts =>
        obtain ⟨kind, text, place⟩ := t
        cases kind with
        | keyword k => exact .inl ⟨k, ts, rfl, rfl⟩
        | range r => exact .inr ⟨rfl, .inr ⟨r, text, place, ts, rfl⟩⟩
        | _ => exact .inr ⟨rfl, .inl rfl⟩
  cases tokens with
  | nil => exact unranged []
  | cons t ts =>
      obtain ⟨kind, text, place⟩ := t
      cases kind with
      | range r => exact unranged ts
      | _ => exact unranged (_ :: ts)

theorem command_statement_range (range : Option String) (text : String) (start : List Char) (place : Position)
    (ts : List Token) : ∃ fault, commandStatement range (⟨.range text, start, place⟩ :: ts) = .error fault :=
  ⟨_, rfl⟩

theorem endfunction?_keyword {line : LexedLine} {rest : List Token} (ends : endfunction? line = some rest) :
    line.keyword? = some .endfunction := by
  obtain ⟨number, tokens⟩ := line
  unfold endfunction? at ends
  split at ends
  · rename_i same
    cases same
    rfl
  · cases ends

theorem flag_line?_unkeyed (number : Nat) {tokens : List Token} {words : List (String × Position)}
    (listed : flagLine? tokens = some words) : LexedLine.keyword? ⟨number, .ok tokens⟩ = none := by
  cases tokens with
  | nil => rfl
  | cons t ts =>
      obtain ⟨kind, text, place⟩ := t
      cases kind with
      | name scope first => rfl
      | _ => cases listed

theorem flag_line_stays_within {depth : Nat} {lines : List LexedLine}
    (closes : Closes LexedLine.keyword? (depth + 1) lines) : StaysWithin (depth + 1) flagLine lines := by
  cases lines with
  | nil => exact closes.elim
  | cons line lines =>
      obtain ⟨number, tokens⟩ := line
      cases tokens with
      | error error => exact .inr ⟨.empty, _, closes, Nat.le_refl _, fun _ => rfl⟩
      | ok tokens =>
          cases listed : flagLine? tokens with
          | none =>
              refine .inr ⟨.empty, _, closes, Nat.le_refl _, fun after => ?_⟩
              simp only [flagLine, List.cons_append, listed]
          | some words =>
              have unkeyed := flag_line?_unkeyed number listed
              have left := (closes_other (by simp [unkeyed]) (by simp [unkeyed])).mp closes
              apply stays_within_cons _ (stays_within_on_this_line (flagsOfWords words) left)
              intro more
              simp only [flagLine, listed]

theorem flags_after_stays_within (flags : Flags) {depth : Nat} {lines : List LexedLine}
    (closes : Closes LexedLine.keyword? (depth + 1) lines) : StaysWithin (depth + 1) (flagsAfter flags) lines := by
  unfold flagsAfter
  split
  · exact flag_line_stays_within closes
  · exact stays_within_pure flags closes

-- What the reader of a body's statements must do for the body to stay within its lines.
structure Contained (reader : StatementReader) : Prop where
  declaration : ∀ {depth : Nat} {line : LexedLine} {lines : List LexedLine}, line.keyword? = some .function →
    Closes LexedLine.keyword? (depth + 1) lines → StaysWithin depth (reader.run line) lines
  closing : ∀ {line : LexedLine}, line.keyword? = some .endfunction → ∃ fault, reader.run line = throw fault
  single : ∀ {line : LexedLine}, line.keyword? ≠ some .function → ∃ found, reader.run line = onThisLine found

theorem function_body_cons (inner : StatementReader) (name : String) (header : Nat) {line : LexedLine}
    (goesOn : endfunction? line = none) (lines : List LexedLine) :
    functionBody inner name header (line :: lines) = (show LineReader (List Statement) from do
      let s ← inner.run line
      let body ← functionBody inner name header
      return s :: body) lines := by
  rw [functionBody, goesOn]
  show _ = EStateM.bind (inner.run line) (fun s => EStateM.bind (functionBody inner name header) _) lines
  unfold EStateM.bind
  dsimp only
  split
  · rename_i read
    rw [read]
  · rename_i s rest read
    rw [read]
    dsimp only
    cases functionBody inner name header rest <;> rfl

theorem contained_line {reader : StatementReader} (contained : Contained reader) {depth : Nat} {line : LexedLine}
    {lines : List LexedLine} (closes : Closes LexedLine.keyword? (depth + 1) (line :: lines)) :
    StaysWithin (depth + 1) (reader.run line) lines := by
  by_cases opens : line.keyword? = some .function
  · exact contained.declaration opens ((closes_function opens).mp closes)
  · by_cases ends : line.keyword? = some .endfunction
    · obtain ⟨fault, fails⟩ := contained.closing ends
      rw [fails]
      exact stays_within_throw fault
    · obtain ⟨found, read⟩ := contained.single opens
      rw [read]
      exact stays_within_on_this_line found ((closes_other opens ends).mp closes)

theorem function_body_stays_within {inner : StatementReader} (contained : Contained inner) (name : String)
    (header : Nat) {depth : Nat} (lines : List LexedLine) (closes : Closes LexedLine.keyword? (depth + 1) lines) :
    StaysWithin depth (functionBody inner name header) lines := by
  cases lines with
  | nil => exact closes.elim
  | cons line lines =>
      cases ended : endfunction? line with
      | some rest =>
          have left := (closes_endfunction (endfunction?_keyword ended)).mp closes
          apply stays_within_cons _ (stays_within_on_this_line ((fun _ => []) <$> expectEnd rest) left)
          intro more
          rw [functionBody, ended]
      | none =>
          apply stays_within_cons (function_body_cons inner name header ended)
          refine stays_within_bind (contained_line contained closes) fun s left closesLeft fewer => ?_
          refine stays_within_bind (function_body_stays_within contained name header left closesLeft) ?_
          exact fun body left closesLeft _ => stays_within_pure _ closesLeft
termination_by lines.length
decreasing_by
  subst_vars
  exact Nat.lt_succ_of_le fewer

section

variable {inner : Option StatementReader} (contained : ∀ reader, inner = some reader → Contained reader)

include contained

theorem function_statement_stays_within (number : Nat) (last : Position) (ts : List Token) {depth : Nat}
    {lines : List LexedLine} (closes : Closes LexedLine.keyword? (depth + 1) lines) :
    StaysWithin depth (functionStatement inner number last ts) lines := by
  refine stays_within_bind (stays_within_on_this_line (functionHeader last ts) closes)
    fun (header, rest) left closes _ => ?_
  refine stays_within_bind (flags_after_stays_within header.flags closes) fun flags left closes _ => ?_
  cases inner with
  | none => exact stays_within_throw _
  | some reader =>
      have bodyStays := function_body_stays_within (contained reader rfl) header.name.text number left closes
      exact stays_within_bind bodyStays fun body left closes _ => stays_within_pure _ closes

theorem statement_from_declaration {line : LexedLine} (opens : line.keyword? = some .function) {depth : Nat}
    {lines : List LexedLine} (closes : Closes LexedLine.keyword? (depth + 1) lines) :
    StaysWithin depth (statementFrom inner line) lines := by
  obtain ⟨number, tokens⟩ := line
  cases tokens with
  | error error => cases opens
  | ok tokens =>
      dsimp only [statementFrom]
      rcases leading_keyword?_cases number tokens with ⟨k, ts, leads, keyed⟩ | ⟨unled, unkeyed | ranged⟩
      · rw [leads]
        cases keyed.symm.trans opens
        dsimp only [keywordStatement]
        split
        · exact stays_within_throw _
        · exact function_statement_stays_within contained number _ ts closes
      · cases unkeyed.symm.trans opens
      · obtain ⟨text, start, place, ts, same⟩ := ranged
        obtain ⟨fault, fails⟩ := command_statement_range (takeRange tokens).1 text start place ts
        rw [unled, same, fails]
        exact stays_within_throw fault

omit contained in
theorem statement_from_closing {line : LexedLine} (ends : line.keyword? = some .endfunction) :
    ∃ fault, statementFrom inner line = throw fault := by
  obtain ⟨number, tokens⟩ := line
  cases tokens with
  | error error => cases ends
  | ok tokens =>
      dsimp only [statementFrom]
      rcases leading_keyword?_cases number tokens with ⟨k, ts, leads, keyed⟩ | ⟨unled, unkeyed | ranged⟩
      · rw [leads]
        cases keyed.symm.trans ends
        dsimp only [keywordStatement]
        split <;> exact ⟨_, rfl⟩
      · cases unkeyed.symm.trans ends
      · obtain ⟨text, start, place, ts, same⟩ := ranged
        obtain ⟨fault, fails⟩ := command_statement_range (takeRange tokens).1 text start place ts
        rw [unled, same, fails]
        exact ⟨fault, rfl⟩

omit contained in
theorem statement_from_single {line : LexedLine} (noFunction : line.keyword? ≠ some .function) :
    ∃ found, statementFrom inner line = onThisLine found := by
  obtain ⟨number, tokens⟩ := line
  cases tokens with
  | error error => exact ⟨.error (.lex error), rfl⟩
  | ok tokens =>
      dsimp only [statementFrom]
      rcases leading_keyword?_cases number tokens with ⟨k, ts, leads, keyed⟩ | ⟨unled, -⟩
      · rw [leads]
        dsimp only [keywordStatement]
        split
        · exact ⟨.error _, rfl⟩
        · cases k with
          | function => exact absurd keyed noFunction
          | endfunction => exact ⟨.error _, rfl⟩
          | _ => exact ⟨_, rfl⟩
      · rw [unled]
        exact ⟨_, rfl⟩

end

theorem statement_contained (room : Nat) : Contained (statement room) := by
  induction room with
  | zero =>
      exact ⟨fun opens closes => statement_from_declaration (by simp) opens closes, statement_from_closing,
        statement_from_single⟩
  | succ room ih =>
      have contained : ∀ reader, some (statement room) = some reader → Contained reader := by
        rintro reader ⟨⟩
        exact ih
      exact ⟨fun opens closes => statement_from_declaration contained opens closes, statement_from_closing,
        statement_from_single⟩

end ExScript
