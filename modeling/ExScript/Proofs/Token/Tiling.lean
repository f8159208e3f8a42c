import ExScript.Name
import ExScript.ParseError
import ExScript.Token.Lexer

set_option autoImplicit false

namespace ExScript

-- What the text of a token says is what the token holds. The end of a line is the one token without a text.
def TokenKind.Spells : TokenKind → List Char → Prop
  | .range held, text | .raw held, text => text = held.toList
  | .name scope held, text => text = (scopeMark scope).toList ++ held.toList
  | .number n, text =>
      text.all isDecimalDigit = true ∧ n.toInt = Int.ofNat (min (Nat.ofDigitChars 10 text 0) maxNumber)
  | .endOfLine, _ => False
  | _, _ => True

theorem spells_range {held : String} {text : List Char} : (TokenKind.range held).Spells text ↔ text = held.toList :=
  .rfl

theorem spells_raw {held : String} {text : List Char} : (TokenKind.raw held).Spells text ↔ text = held.toList := .rfl

theorem spells_name {scope : Option Scope} {held : String} {text : List Char} :
    (TokenKind.name scope held).Spells text ↔ text = (scopeMark scope).toList ++ held.toList := .rfl

-- From `offset` on, the text is the lexemes in order, each after blanks, and what is left at the end is as
-- `last` says.
def Tiles (last : List Char → Prop) : Nat → List Char → List Lexeme → Prop
  | _, s, [] => last s
  | offset, s, x :: xs => ∃ gap rest, s = gap ++ (x.text ++ rest) ∧ gap.all isBlank = true ∧
      x.offset = offset + byteLength gap ∧ x.text ≠ [] ∧ x.kind.Spells x.text ∧
      Tiles last (x.offset + byteLength x.text) rest xs

-- The end of a line: blanks, and after them a comment if there may be one.
def Ends (mayComment : Prop) (s : List Char) : Prop :=
  ∃ gap note, s = gap ++ note ∧ gap.all isBlank = true ∧ (note ≠ [] → note.head? = some '"' ∧ mayComment)

-- A comment may follow the end of a function, and its header once the parameters are closed.
def MayComment (kinds : List TokenKind) : Prop :=
  .keyword .endfunction ∈ kinds ∨ .keyword .function ∈ kinds ∧ .rightParen ∈ kinds

section

variable {p q : Prop} {offset : Nat} {gap s : List Char} {xs : List Lexeme}

theorem ends_gap (blank : gap.all isBlank = true) (ends : Ends p s) : Ends p (gap ++ s) := by
  obtain ⟨more, note, rfl, blanks, comment⟩ := ends
  refine ⟨gap ++ more, note, (List.append_assoc gap more note).symm, ?_, comment⟩
  rw [List.all_append, blank, blanks]
  rfl

theorem ends_blank (blank : gap.all isBlank = true) : Ends p gap :=
  ⟨gap, [], (List.append_nil gap).symm, blank, fun filled => absurd rfl filled⟩

theorem tiles_mono {last last' : List Char → Prop} (weaker : ∀ rest, last rest → last' rest)
    (tiles : Tiles last offset s xs) : Tiles last' offset s xs := by
  induction xs generalizing offset s with
  | nil => exact weaker s tiles
  | cons x xs ih =>
      obtain ⟨gap, rest, whole, blank, placed, filled, spells, more⟩ := tiles
      exact ⟨gap, rest, whole, blank, placed, filled, spells, ih more⟩

theorem tiles_comment (weaker : p → q) (tiles : Tiles (Ends p) offset s xs) : Tiles (Ends q) offset s xs := by
  apply tiles_mono _ tiles
  rintro rest ⟨gap, note, whole, blank, comment⟩
  exact ⟨gap, note, whole, blank, fun filled => ⟨(comment filled).1, weaker (comment filled).2⟩⟩

-- Blanks in front belong to the gap of the first lexeme, or to the end of the line if there is none.
theorem tiles_gap (blank : gap.all isBlank = true) (tiles : Tiles (Ends p) (offset + byteLength gap) s xs) :
    Tiles (Ends p) offset (gap ++ s) xs := by
  cases xs with
  | nil => exact ends_gap blank tiles
  | cons x xs =>
      obtain ⟨more, rest, rfl, blanks, placed, filled, spells, others⟩ := tiles
      refine ⟨gap ++ more, rest, (List.append_assoc gap more _).symm, ?_, ?_, filled, spells, others⟩
      · rw [List.all_append, blank, blanks]
        rfl
      · rw [placed, byte_length_append, Nat.add_assoc]

theorem tiles_cons {last : List Char → Prop} (kind : TokenKind) (text : List Char) (filled : text ≠ [])
    (spells : kind.Spells text) (more : Tiles last (offset + byteLength text) s xs) :
    Tiles last offset (text ++ s) (⟨kind, text, offset⟩ :: xs) :=
  ⟨[], s, rfl, rfl, rfl, filled, spells, more⟩

end

theorem saturate_to_int (n : Nat) : (saturate n).toInt = Int.ofNat (min n maxNumber) := by
  apply Int64.toInt_ofNat_of_lt
  have bound : min n maxNumber ≤ maxNumber := Nat.min_le_right n maxNumber
  unfold maxNumber at bound ⊢
  omega

theorem decimal_value_eq (digits : List Char) : decimalValue digits = Nat.ofDigitChars 10 digits 0 :=
  Nat.ofDigitChars_eq_foldl.symm

theorem scan_number_spells {c : Char} (rest : List Char) (digit : isDecimalDigit c = true) :
    (scanNumber c rest).kind.Spells (scanNumber c rest).text := by
  refine ⟨?_, ?_⟩
  · rw [scanNumber, List.all_cons, digit, List.all_takeWhile]
    rfl
  · rw [scanNumber, saturate_to_int, decimal_value_eq]

theorem scan_plain_name_spells (c : Char) (rest : List Char) :
    (scanPlainName c rest).kind.Spells (scanPlainName c rest).text := by
  simp [scanPlainName, spells_name, scopeMark]

theorem scan_name_spells (c : Char) (rest : List Char) :
    (scanName c rest).kind.Spells (scanName c rest).text := by
  unfold scanName
  split
  · split
    · rename_i scope known _
      rw [Scope.letter_of_of_letter? known]
      simp [spells_name, scopeMark, Scope.mark]
    · exact scan_plain_name_spells c _
  · exact scan_plain_name_spells c rest

theorem scan_string_spells {rest : List Char} {quote : Char} {body : Option (StringBody rest)}
    {t : Scanned (quote :: rest)} (scanned : scanString quote body = .ok t) : t.kind.Spells t.text := by
  cases body with
  | none => cases scanned
  | some b =>
      cases scanned
      trivial

theorem scan_token_spells {c : Char} {rest : List Char} {t : Scanned (c :: rest)}
    (scanned : scanToken c rest = .ok t) : t.kind.Spells t.text := by
  unfold scanToken at scanned
  split at scanned
  · exact scan_string_spells scanned
  · exact scan_string_spells scanned
  case h_12 =>
    split at scanned
    · rename_i digit
      cases scanned
      exact scan_number_spells _ digit
    · split at scanned
      · cases scanned
        exact scan_name_spells _ _
      · cases scanned
  all_goals
    cases scanned
    try trivial

-- The induction is the scanner's own; what it knows about the header being closed is what it has read.
theorem scan_expression_tiles {k : Keyword} {closed : Bool} {offset : Nat} {s : List Char} {xs : List Lexeme}
    (scanned : scanExpression k closed offset s = .ok xs) :
    Tiles (Ends (closed = true ∨ k = .function ∧ .rightParen ∈ xs.map Lexeme.kind)) offset s xs := by
  fun_induction scanExpression k closed offset s generalizing xs with
  | case1 closed offset =>
      cases scanned
      exact ends_blank rfl
  | case2 closed offset c rest blank ih =>
      have gap : [c].all isBlank = true := by simp [blank]
      exact tiles_gap gap (by simpa [byteLength] using ih scanned)
  | case3 closed offset c rest _ comment =>
      obtain ⟨open', quote⟩ := (Bool.and_eq_true _ _).mp comment
      cases scanned
      exact ⟨[], c :: rest, rfl, rfl, fun _ => ⟨by rw [eq_of_beq quote]; rfl, .inl open'⟩⟩
  | case4 => cases scanned
  | case5 closed offset c rest _ _ t found closed' =>
      rename_i ih
      obtain ⟨more, read, done⟩ := bind_eq_ok scanned
      cases done
      have tiles := tiles_cons t.kind t.text t.nonempty (scan_token_spells found) (ih read)
      rw [t.covers] at tiles
      apply tiles_comment _ tiles
      rintro (now | ⟨header, later⟩)
      · rcases (Bool.or_eq_true _ _).mp now with before | here
        · exact .inl before
        · obtain ⟨header, paren⟩ := (Bool.and_eq_true _ _).mp here
          exact .inr ⟨eq_of_beq header, by simp [eq_of_beq paren]⟩
      · exact .inr ⟨header, by simp [later]⟩

theorem scan_raw_tiles (p : Prop) (offset : Nat) (s : List Char) : Tiles (Ends p) offset s (scanRaw offset s) := by
  have whole := take_while_append_drop_blanks s
  have tail := drop_blanks_end_append (dropBlanks s)
  have blank : (s.takeWhile isBlank).all isBlank = true := List.all_takeWhile
  have blankEnd : ((dropBlanks s).reverse.takeWhile isBlank).reverse.all isBlank = true := by
    rw [List.all_reverse, List.all_takeWhile]
  unfold scanRaw
  split
  · rename_i nothing
    rw [nothing, List.nil_append] at tail
    rw [← whole, ← tail]
    exact ends_gap blank (ends_blank blankEnd)
  · rename_i filled
    refine ⟨s.takeWhile isBlank, _, ?_, blank, rfl, filled, ?_, ends_blank blankEnd⟩
    · rw [tail, whole]
    · rw [spells_raw, String.toList_ofList]

theorem scan_arguments_tiles (p : Prop) (offset : Nat) (s : List Char) :
    Tiles (Ends p) offset s (scanArguments offset s) := by
  unfold scanArguments
  split
  · rename_i rest
    exact tiles_cons .bang ['!'] (by simp) trivial (scan_raw_tiles p (offset + 1) rest)
  · exact scan_raw_tiles p offset s

theorem scan_symbol_tiles (p : Prop) {offset : Nat} {s : List Char} {xs : List Lexeme}
    (scanned : scanSymbol offset s = .ok xs) : Tiles (Ends p) offset s xs ∧ (xs = [] → s = []) := by
  cases s with
  | nil =>
      cases scanned
      exact ⟨ends_blank rfl, fun _ => rfl⟩
  | cons c rest =>
      rw [scanSymbol] at scanned
      split at scanned
      · rename_i symbol
        cases scanned
        have single : byteLength [c] = 1 := by
          have each : ['!', '&', '<', '>', '=', '@', '*', '~', '#'].all (fun c => byteLength [c] == 1) = true := rfl
          exact eq_of_beq (List.all_eq_true.mp each c (List.contains_iff_mem.mp symbol))
        refine ⟨tiles_cons _ [c] (by simp) ?_ ?_, fun none => absurd none (List.cons_ne_nil _ _)⟩
        · simp [spells_name, scopeMark]
        · rw [single]
          exact scan_raw_tiles p (offset + 1) rest
      · cases scanned

theorem scan_command_tiles {offset : Nat} {s : List Char} {xs : List Lexeme}
    (scanned : scanCommand offset s = .ok xs) :
    Tiles (Ends (MayComment (xs.map Lexeme.kind))) offset s xs ∧ (xs = [] → s = []) := by
  have whole : s.takeWhile isLetter ++ s.dropWhile isLetter = s := List.takeWhile_append_dropWhile
  unfold scanCommand at scanned
  dsimp only at scanned
  split at scanned
  · rename_i k known
    have filled : s.takeWhile isLetter ≠ [] := by
      intro empty
      rw [empty] at known
      cases known
    obtain ⟨more, read, done⟩ := bind_eq_ok scanned
    cases done
    have tiles := tiles_cons (.keyword k) _ filled trivial (scan_expression_tiles read)
    rw [whole] at tiles
    refine ⟨tiles_comment ?_ tiles, fun none => absurd none (List.cons_ne_nil _ _)⟩
    rintro (closing | ⟨rfl, paren⟩)
    · rw [eq_of_beq closing]
      exact .inl (by simp)
    · exact .inr ⟨by simp, by simp [paren]⟩
  · split at scanned
    · exact scan_symbol_tiles _ scanned
    · rename_i filled
      cases scanned
      have tiles := tiles_cons (.name none (String.ofList (s.takeWhile isLetter))) _
        (by simpa using filled) (by simp [spells_name, scopeMark]) (scan_arguments_tiles
          (MayComment ((⟨.name none (String.ofList (s.takeWhile isLetter)), s.takeWhile isLetter, offset⟩ ::
            scanArguments (offset + byteLength (s.takeWhile isLetter)) (s.dropWhile isLetter)).map Lexeme.kind))
          (offset + byteLength (s.takeWhile isLetter)) (s.dropWhile isLetter))
      rw [whole] at tiles
      exact ⟨tiles, fun none => absurd none (List.cons_ne_nil _ _)⟩

theorem span_range_covers (s : List Char) : (spanRange s).1 ++ (spanRange s).2 = s := by
  fun_induction spanRange s with
  | case1 => rfl
  | case2 mark rest range rest' span ih =>
      rw [span] at ih
      exact congrArg (['\'', mark] ++ ·) ih
  | case3 c rest _ _ range rest' span ih =>
      rw [span] at ih
      exact congrArg (c :: ·) ih
  | case4 c rest _ _ => rfl

theorem may_comment_mono {kinds more : List TokenKind} (part : kinds ⊆ more) (may : MayComment kinds) :
    MayComment more := by
  rcases may with closing | ⟨header, paren⟩
  · exact .inl (part closing)
  · exact .inr ⟨part header, part paren⟩

def leadingRange (start : Nat) (range : List Char) : List Lexeme :=
  if range.isEmpty then [] else [⟨.range (String.ofList range), range, start⟩]

theorem leading_range_tiles {last : List Char → Prop} {start : Nat} {body : List Char} {command : List Lexeme}
    (tiles : Tiles last (start + byteLength (spanRange body).1) (spanRange body).2 command) :
    Tiles last start body (leadingRange start (spanRange body).1 ++ command) := by
  have whole := span_range_covers body
  unfold leadingRange
  by_cases bare : (spanRange body).1 = []
  · rw [bare, List.nil_append] at whole
    rw [bare, whole] at tiles
    rw [bare]
    exact tiles
  · rw [if_neg (by simpa using bare)]
    refine ⟨[], (spanRange body).2, whole.symm, rfl, rfl, bare, ?_, tiles⟩
    rw [spells_range, String.toList_ofList]

theorem leading_range_eq_nil {start : Nat} {range : List Char} (none : leadingRange start range = []) :
    range = [] := by
  unfold leadingRange at none
  split at none
  · rename_i empty
    exact List.isEmpty_iff.mp empty
  · cases none

theorem drop_blanks_body (s : List Char) : dropBlanks (s.dropWhile isLineLead) = s.dropWhile isLineLead := by
  cases body : s.dropWhile isLineLead with
  | nil => rfl
  | cons c rest =>
      have first := List.head?_dropWhile_not isLineLead s
      rw [body] at first
      have noBlank : isBlank c = false := (Bool.or_eq_false_iff.mp first).1
      rw [dropBlanks, List.dropWhile_cons_of_neg (by simp [noBlank])]

-- The first character that is not skipped belongs to a token, so there is one.
theorem scan_line_tiles {s : List Char} {xs : List Lexeme} (scanned : scanLine s = .ok xs) (filled : xs ≠ []) :
    ∃ ys, xs = ys ++ [⟨.endOfLine, [], byteLength s⟩] ∧ ys ≠ [] ∧
      Tiles (Ends (MayComment (ys.map Lexeme.kind))) (byteLength (s.takeWhile isLineLead))
        (s.dropWhile isLineLead) ys := by
  unfold scanLine at scanned
  split at scanned
  · cases scanned
    exact absurd rfl filled
  · cases scanned
    exact absurd rfl filled
  · rename_i nonempty _
    obtain ⟨command, read, done⟩ := bind_eq_ok scanned
    cases done
    obtain ⟨tiles, nothing⟩ := scan_command_tiles read
    refine ⟨leadingRange (byteLength (s.takeWhile isLineLead)) (spanRange (s.dropWhile isLineLead)).1 ++ command,
      rfl, fun none => ?_, leading_range_tiles ?_⟩
    · obtain ⟨noRange, noCommand⟩ := List.append_eq_nil_iff.mp none
      have whole := span_range_covers (s.dropWhile isLineLead)
      rw [leading_range_eq_nil noRange, List.nil_append] at whole
      have rest := nothing noCommand
      rw [whole, drop_blanks_body] at rest
      exact nonempty rest
    · rw [← take_while_append_drop_blanks (spanRange (s.dropWhile isLineLead)).2, List.map_append]
      exact tiles_gap List.all_takeWhile (tiles_comment (may_comment_mono (List.subset_append_right _ _)) tiles)

theorem tiles_pieces {last : List Char → Prop} {offset : Nat} {s : List Char} {xs : List Lexeme}
    (tiles : Tiles last offset s xs) :
    ∃ (pieces : List (List Char × Lexeme)) (rest : List Char),
      xs = pieces.map Prod.snd ∧ s = (pieces.flatMap fun piece => piece.1 ++ piece.2.text) ++ rest ∧ last rest ∧
      ∀ piece ∈ pieces,
        piece.1.all isBlank = true ∧ piece.2.text ≠ [] ∧ piece.2.kind.Spells piece.2.text := by
  induction xs generalizing offset s with
  | nil => exact ⟨[], s, rfl, rfl, tiles, fun _ member => nomatch member⟩
  | cons x xs ih =>
      obtain ⟨gap, rest, rfl, blank, -, filled, spells, more⟩ := tiles
      obtain ⟨pieces, tail, rfl, rfl, ends, each⟩ := ih more
      refine ⟨(gap, x) :: pieces, tail, rfl, ?_, ends, ?_⟩
      · simp only [List.flatMap_cons, List.append_assoc]
      · intro piece member
        rcases List.mem_cons.mp member with rfl | member
        · exact ⟨blank, filled, spells⟩
        · exact each piece member

theorem tokens_scanned {l : LogicalLine} {tokens : List Token} (cut : l.tokens = .ok tokens) :
    ∃ xs, scanLine l.text = .ok xs ∧ tokens = xs.map l.token := by
  unfold LogicalLine.tokens at cut
  cases scanned : scanLine l.text with
  | error fault =>
      rw [scanned] at cut
      cases cut
  | ok xs =>
      rw [scanned] at cut
      cases cut
      exact ⟨xs, rfl, rfl⟩

theorem token_kinds (l : LogicalLine) (xs : List Lexeme) : (xs.map l.token).map Token.kind = xs.map Lexeme.kind :=
  List.map_map

theorem lead_of_blanks {gap : List Char} (blank : gap.all isBlank = true) : gap.all isLineLead = true := by
  rw [List.all_eq_true] at blank ⊢
  intro c member
  rw [isLineLead, blank c member]
  rfl

-- The text is the texts of the tokens and the gaps around them: white space and colons in front, white space
-- between, white space and perhaps a comment behind.
def TiledBy (text : List Char) (tokens : List Token) : Prop :=
  ∃ (lead : List Char) (first : Token) (others : List (List Char × Token)) (gap note : List Char) (place : Position),
    tokens = first :: (others.map Prod.snd ++ [⟨.endOfLine, [], place⟩]) ∧
    text = lead ++ (first.text ++ ((others.flatMap fun other => other.1 ++ other.2.text) ++ (gap ++ note))) ∧
    lead.all isLineLead = true ∧ (∀ other ∈ others, other.1.all isBlank = true) ∧ gap.all isBlank = true ∧
    (note ≠ [] → note.head? = some '"' ∧ MayComment (tokens.map Token.kind)) ∧
    ∀ t ∈ first :: others.map Prod.snd, t.text ≠ [] ∧ t.kind.Spells t.text

theorem tokens_tile_line (l : LogicalLine) (tokens : List Token) (cut : l.tokens = .ok tokens)
    (filled : tokens ≠ []) : TiledBy l.text tokens := by
  obtain ⟨xs, scanned, rfl⟩ := tokens_scanned cut
  obtain ⟨ys, rfl, nonempty, tiles⟩ := scan_line_tiles scanned (by simpa using filled)
  obtain ⟨pieces, rest, rfl, body, ⟨gap, note, rfl, blank, comment⟩, each⟩ := tiles_pieces tiles
  have whole : l.text.takeWhile isLineLead ++ l.text.dropWhile isLineLead = l.text := List.takeWhile_append_dropWhile
  cases pieces with
  | nil => exact absurd rfl nonempty
  | cons piece pieces =>
      refine ⟨l.text.takeWhile isLineLead ++ piece.1, l.token piece.2,
        pieces.map fun other => (other.1, l.token other.2), gap, note, l.position (byteLength l.text),
        ?_, ?_, ?_, ?_, blank, fun some => ⟨(comment some).1, ?_⟩, ?_⟩
      · simp [LogicalLine.token, Function.comp_def]
      · have text := whole.symm
        rw [body] at text
        simpa [LogicalLine.token, List.flatMap_map] using text
      · rw [List.all_append, List.all_takeWhile, lead_of_blanks (each piece (by simp)).1]
        rfl
      · intro other member
        obtain ⟨source, listed, rfl⟩ := List.mem_map.mp member
        exact (each source (by simp [listed])).1
      · apply may_comment_mono _ (comment some).2
        rw [token_kinds, List.map_append]
        exact List.subset_append_left _ _
      · intro t member
        have listed : t ∈ ((piece :: pieces).map Prod.snd).map l.token := by simpa using member
        obtain ⟨x, placed, rfl⟩ := List.mem_map.mp listed
        obtain ⟨other, found, rfl⟩ := List.mem_map.mp placed
        exact (each other found).2

def commentedHeader : LogicalLine := .start 1 " : 'é function! g:F(n)  abort\t\" done".toList

def largeArgument : LogicalLine := .start 1 "call s:F(99999999999999999999 ,'it''s')  ".toList

theorem lines_tiled :
    (∃ tokens, commentedHeader.tokens = .ok tokens ∧ TiledBy commentedHeader.text tokens ∧
      tokens.map Token.text = ["'é", "function", "!", "g:F", "(", "n", ")", "abort", ""].map String.toList) ∧
    (∃ tokens, largeArgument.tokens = .ok tokens ∧ TiledBy largeArgument.text tokens ∧
      .number 9223372036854775807 ∈ tokens.map Token.kind) := by
  have header : ∃ tokens, commentedHeader.tokens = .ok tokens ∧
      tokens.map Token.text = ["'é", "function", "!", "g:F", "(", "n", ")", "abort", ""].map String.toList :=
    ⟨_, by with_unfolding_all rfl, by decide +kernel⟩
  have argument : ∃ tokens, largeArgument.tokens = .ok tokens ∧
      .number 9223372036854775807 ∈ tokens.map Token.kind := ⟨_, by with_unfolding_all rfl, by decide +kernel⟩
  constructor
  · obtain ⟨tokens, cut, texts⟩ := header
    have filled : tokens ≠ [] := by
      rintro rfl
      cases texts
    exact ⟨tokens, cut, tokens_tile_line commentedHeader tokens cut filled, texts⟩
  · obtain ⟨tokens, cut, number⟩ := argument
    have filled : tokens ≠ [] := by
      rintro rfl
      cases number
    exact ⟨tokens, cut, tokens_tile_line largeArgument tokens cut filled, number⟩

end ExScript
