import ExScript.Proofs.Line.Places
import ExScript.Proofs.Line.Printed

set_option autoImplicit false

namespace ExScript

-- What follows a token now: a blank, nothing, or what followed it before. No token starts with a colon.
def NextLike (rest rest' : List Char) : Prop :=
  ∀ c, rest'.head? = some c → isBlank c = true ∨ rest.head? = some c ∧ c ≠ ':'

section

variable {rest rest' : List Char}

theorem is_name_char_range {c : Char} (chars : isNameChar c = true) : 33 ≤ c.toNat ∧ c.toNat ≤ 126 := by
  simp only [isNameChar, Bool.or_eq_true, is_letter_iff, is_decimal_digit_iff, beq_iff_eq] at chars
  rcases chars with ((letter | digit) | rfl) | rfl
  · omega
  · omega
  · decide
  · decide

theorem outside_blank {p : Char → Bool} (printed : ∀ c, p c = true → 33 ≤ c.toNat ∧ c.toNat ≤ 126) {c : Char}
    (blank : isBlank c = true) : p c = false := by
  rw [Bool.eq_false_iff]
  intro inside
  obtain ⟨low, high⟩ := printed c inside
  rw [is_blank_printed low high] at blank
  cases blank

theorem next_outside {p : Char → Bool} (printed : ∀ c, p c = true → 33 ≤ c.toNat ∧ c.toNat ≤ 126)
    (ends : ∀ c, rest.head? = some c → p c = false) (next : NextLike rest rest') :
    ∀ c, rest'.head? = some c → p c = false := by
  intro c first
  rcases next c first with blank | ⟨before, -⟩
  · exact outside_blank printed blank
  · exact ends c before

theorem next_no_colon (next : NextLike rest rest') : rest'.head? ≠ some ':' := by
  intro first
  rcases next ':' first with blank | ⟨-, noColon⟩
  · exact absurd blank (by decide)
  · exact noColon rfl

theorem next_boundary (ends : ∀ c, rest.head? = some c → isNameChar c = false) (next : NextLike rest rest') :
    Boundary rest' := by
  intro c first
  refine ⟨next_outside (fun _ => is_name_char_range) ends next c first, ?_⟩
  rintro rfl
  exact next_no_colon next first

theorem drop_while_ends (p : Char → Bool) (s : List Char) : ∀ c, (s.dropWhile p).head? = some c → p c = false := by
  intro c first
  have ended := List.head?_dropWhile_not p s
  rw [first] at ended
  exact ended

theorem next_ne {sign : Char} (noBlank : isBlank sign = false) (ends : rest.head? ≠ some sign)
    (next : NextLike rest rest') : rest'.head? ≠ some sign := by
  intro first
  rcases next sign first with blank | ⟨before, -⟩
  · rw [noBlank] at blank
    cases blank
  · exact ends before

end

-- The token is cut off its text again if `rest'` follows it.
def CutAgain {c : Char} {rest : List Char} (t : Scanned (c :: rest)) (rest' : List Char) : Prop :=
  ∃ text, t.text = c :: text ∧ ∃ t', scanToken c (text ++ rest') = .ok t' ∧ t'.kind = t.kind ∧ t'.rest = rest'

theorem head?_ne {c : Char} {s : List Char} (never : ∀ tail, s = c :: tail → False) : s.head? ≠ some c := by
  intro first
  obtain ⟨tail, whole⟩ := List.head?_eq_some_iff.mp first
  exact never tail whole

theorem literal_body_plain {c : Char} (rest : List Char) (noQuote : c ≠ '\'') :
    literalBody (c :: rest) =
      (literalBody rest).map fun b => ⟨c :: b.value, c :: b.text, b.rest, by simp [b.covers]⟩ := by
  rw [literalBody]
  · exact fun _ same _ => noQuote same
  · exact noQuote

theorem literal_body_closes {rest : List Char} (noQuote : rest.head? ≠ some '\'') :
    literalBody ('\'' :: rest) = some ⟨[], ['\''], rest, rfl⟩ := by
  rw [literalBody]
  rintro tail rfl
  exact noQuote rfl

-- The body of a string is closed where it was before. A quote right behind the closing one would keep it open.
theorem literal_body_again {s : List Char} {b : StringBody s} (read : literalBody s = some b) :
    b.rest.head? ≠ some '\'' ∧ ∀ rest', rest'.head? ≠ some '\'' →
      ∃ b', literalBody (b.text ++ rest') = some b' ∧ b'.value = b.value ∧ b'.rest = rest' := by
  fun_induction literalBody s with
  | case1 => cases read
  | case2 rest ih =>
      obtain ⟨inner, readInner, rfl⟩ := Option.map_eq_some_iff.mp read
      obtain ⟨ends, again⟩ := ih readInner
      refine ⟨ends, fun rest' noQuote => ?_⟩
      obtain ⟨inner', readAgain, value, left⟩ := again rest' noQuote
      exact ⟨_, congrArg (Option.map _) readAgain, congrArg (List.cons _) value, left⟩
  | case3 rest single =>
      cases read
      exact ⟨head?_ne single, fun rest' noQuote => ⟨_, literal_body_closes noQuote, rfl, rfl⟩⟩
  | case4 c rest _ noQuote ih =>
      obtain ⟨inner, readInner, rfl⟩ := Option.map_eq_some_iff.mp read
      obtain ⟨ends, again⟩ := ih readInner
      refine ⟨ends, fun rest' noQuote' => ?_⟩
      obtain ⟨inner', readAgain, value, left⟩ := again rest' noQuote'
      have plain := literal_body_plain (inner.text ++ rest') noQuote
      rw [readAgain] at plain
      exact ⟨_, plain, congrArg (List.cons _) value, left⟩

theorem escaped_body_again {s : List Char} {b : StringBody s} (read : escapedBody s = some b) (rest' : List Char) :
    ∃ b', escapedBody (b.text ++ rest') = some b' ∧ b'.value = b.value ∧ b'.rest = rest' := by
  fun_induction escapedBody s with
  | case1 => cases read
  | case2 rest =>
      cases read
      exact ⟨_, rfl, rfl, rfl⟩
  | case3 c rest ih =>
      obtain ⟨inner, readInner, rfl⟩ := Option.map_eq_some_iff.mp read
      obtain ⟨inner', readAgain, value, left⟩ := ih readInner
      exact ⟨_, congrArg (Option.map _) readAgain, congrArg (List.cons _) value, left⟩
  | case4 => cases read
  | case5 c rest noQuote noEscape noLast ih =>
      obtain ⟨inner, readInner, rfl⟩ := Option.map_eq_some_iff.mp read
      obtain ⟨inner', readAgain, value, left⟩ := ih readInner
      have noSlash : c ≠ '\\' := by
        rintro rfl
        cases rest with
        | nil => exact noLast rfl rfl
        | cons d rest => exact noEscape d rest rfl rfl
      have plain := escaped_body_plain (inner.text ++ rest') noQuote noSlash
      rw [readAgain] at plain
      exact ⟨_, plain, congrArg (List.cons _) value, left⟩

section

variable {c : Char} {rest rest' : List Char}

theorem scan_number_again (next : NextLike (scanNumber c rest).rest rest') (digit : isDecimalDigit c = true) :
    CutAgain (scanNumber c rest) rest' := by
  have ends := next_outside (fun _ inside => by have range := (is_decimal_digit_iff _).mp inside; omega)
    (drop_while_ends isDecimalDigit rest) next
  obtain ⟨taken, left⟩ := take_while_piece List.all_takeWhile ends
  refine ⟨rest.takeWhile isDecimalDigit, rfl, _, scan_token_number _ digit, ?_, left⟩
  simp only [scanNumber, taken]

theorem scan_plain_name_again (next : NextLike (scanPlainName c rest).rest rest') (starts : isNameStart c = true) :
    CutAgain (scanPlainName c rest) rest' := by
  have boundary := next_boundary (drop_while_ends isNameChar rest) next
  have chars : (rest.takeWhile isNameChar).all isNameChar = true := List.all_takeWhile
  obtain ⟨taken, left⟩ := take_while_piece chars fun d first => (boundary d first).1
  obtain ⟨kind, after⟩ := @scan_name_unscoped c _ (no_colon_piece chars boundary)
  refine ⟨rest.takeWhile isNameChar, rfl, _, scan_token_name _ starts, ?_, after.trans left⟩
  rw [kind, taken]
  rfl

theorem scan_name_again (next : NextLike (scanName c rest).rest rest') (starts : isNameStart c = true) :
    CutAgain (scanName c rest) rest' := by
  unfold scanName at next ⊢
  split at next
  · rename_i d tail
    split at next
    · rename_i scope known chars
      have letter := Scope.letter_of_of_letter? known
      have boundary := next_boundary (drop_while_ends isNameChar tail) next
      obtain ⟨taken, left⟩ := take_while_piece (s := tail.takeWhile isNameChar) List.all_takeWhile
        fun d first => (boundary d first).1
      obtain ⟨kind, after⟩ := scan_name_scoped scope (tail.takeWhile isNameChar ++ rest') chars
      rw [← letter] at kind after
      refine ⟨':' :: d :: tail.takeWhile isNameChar, rfl, _, scan_token_name _ starts, ?_, after.trans left⟩
      exact kind.trans (by rw [taken])
    · exact scan_plain_name_again next starts
  · exact scan_plain_name_again next starts

theorem scan_token_dot_dot (noDot : rest.head? ≠ some '.') :
    scanToken '.' ('.' :: rest) = .ok ⟨.dotDot, ['.', '.'], rest, rfl, by simp⟩ := by
  rw [scanToken]
  rintro tail rfl
  exact noDot rfl

theorem scan_token_dot (noDot : rest.head? ≠ some '.') (noEquals : rest.head? ≠ some '=') :
    scanToken '.' rest = .ok ⟨.dot, ['.'], rest, rfl, by simp⟩ := by
  rw [scanToken]
  · rintro tail rfl
    exact noDot rfl
  · rintro tail rfl
    exact noDot rfl
  · rintro tail rfl
    exact noEquals rfl

theorem scan_string_parts {quote : Char} {body : Option (StringBody rest)} {t : Scanned (quote :: rest)}
    (scanned : scanString quote body = .ok t) :
    ∃ b, body = some b ∧ t.kind = .string (String.ofList b.value) ∧ t.text = quote :: b.text ∧ t.rest = b.rest := by
  cases body with
  | none => cases scanned
  | some b =>
      cases scanned
      exact ⟨b, rfl, rfl, rfl, rfl⟩

-- One case for each rule of the scanner; only names, numbers, strings and dots look at what follows them.
theorem scan_token_again {t : Scanned (c :: rest)} (scanned : scanToken c rest = .ok t) (next : NextLike t.rest rest') :
    CutAgain t rest' := by
  unfold scanToken at scanned
  split at scanned
  · obtain ⟨b, read, kind, text, left⟩ := scan_string_parts scanned
    obtain ⟨ends, again⟩ := literal_body_again read
    rw [left] at next
    obtain ⟨b', readAgain, value, leftAgain⟩ := again rest' (next_ne rfl ends next)
    refine ⟨b.text, text, _, congrArg (scanString '\'') readAgain, ?_, leftAgain⟩
    rw [kind, value]
  · obtain ⟨b, read, kind, text, -⟩ := scan_string_parts scanned
    obtain ⟨b', readAgain, value, leftAgain⟩ := escaped_body_again read rest'
    refine ⟨b.text, text, _, congrArg (scanString '"') readAgain, ?_, leftAgain⟩
    rw [kind, value]
  case h_8 => cases scanned
  case h_9 single =>
    cases scanned
    exact ⟨['.'], rfl, _, scan_token_dot_dot (next_ne rfl (head?_ne single) next), rfl, rfl⟩
  case h_10 =>
    cases scanned
    exact ⟨['='], rfl, _, rfl, rfl, rfl⟩
  case h_11 noDot noEquals =>
    cases scanned
    have ends := next_ne rfl (head?_ne noDot) next
    exact ⟨[], rfl, _, scan_token_dot ends (next_ne rfl (head?_ne noEquals) next), rfl, rfl⟩
  case h_12 =>
    split at scanned
    · rename_i digit
      cases scanned
      exact scan_number_again next digit
    · split at scanned
      · rename_i starts
        cases scanned
        exact scan_name_again next starts
      · cases scanned
  all_goals
    cases scanned
    exact ⟨[], rfl, _, rfl, rfl, rfl⟩

end

-- What the rewriting of a line leaves of a token: its text, or for a keyword any word that means it.
def Respells (x : Lexeme) (text : List Char) : Prop :=
  match x.kind with
  | .keyword k => k.matchesWord text = true
  | _ => text = x.text

-- The tokens one after the other, each followed by blanks, and by some where there were some before.
def Spread : List Lexeme → List Char → Prop
  | [], s => s = []
  | x :: xs, s => ∃ text gap rest, s = text ++ (gap ++ rest) ∧ Respells x text ∧ gap.all isBlank = true ∧
      (∀ y ∈ xs.head?, x.offset + byteLength x.text < y.offset → gap ≠ []) ∧ Spread xs rest

theorem scan_name_name (c : Char) (rest : List Char) : ∃ scope name, (scanName c rest).kind = .name scope name := by
  unfold scanName
  split
  · split
    · exact ⟨_, _, rfl⟩
    · exact ⟨_, _, rfl⟩
  · exact ⟨_, _, rfl⟩

theorem scan_token_unkeyed {c : Char} {rest : List Char} {t : Scanned (c :: rest)} (scanned : scanToken c rest = .ok t)
    (k : Keyword) : t.kind ≠ .keyword k := by
  intro keyed
  unfold scanToken at scanned
  split at scanned
  · obtain ⟨b, -, kind, -⟩ := scan_string_parts scanned
    cases kind.symm.trans keyed
  · obtain ⟨b, -, kind, -⟩ := scan_string_parts scanned
    cases kind.symm.trans keyed
  case h_12 =>
    split at scanned
    · cases scanned
      cases keyed
    · split at scanned
      · cases scanned
        obtain ⟨scope, name, named⟩ := scan_name_name c rest
        rw [named] at keyed
        cases keyed
      · cases scanned
  all_goals
    cases scanned
    try cases keyed

theorem scanned_text {s : List Char} {t : Scanned s} : t.text.head? = s.head? := by
  cases text : t.text with
  | nil => exact absurd text t.nonempty
  | cons c tail => rw [← t.covers, text]; rfl

section

variable {k : Keyword} {closed : Bool} {offset : Nat} {s : List Char} {xs : List Lexeme}

theorem scan_expression_starts (scanned : scanExpression k closed offset s = .ok xs) :
    ∀ x ∈ xs, x.text.head? ≠ some ':' ∧ ∀ k, x.kind ≠ .keyword k := by
  fun_induction scanExpression k closed offset s generalizing xs with
  | case1 closed offset =>
      cases scanned
      simp
  | case2 closed offset c rest blank ih => exact ih scanned
  | case3 closed offset c rest _ comment =>
      cases scanned
      simp
  | case4 => cases scanned
  | case5 closed offset c rest _ _ t found closed' =>
      rename_i ih
      obtain ⟨more, read, done⟩ := bind_eq_ok scanned
      cases done
      intro x member
      rcases List.mem_cons.mp member with rfl | member
      · refine ⟨?_, scan_token_unkeyed found⟩
        rw [scanned_text]
        rintro ⟨⟩
        cases found
      · exact ih read x member

theorem respells_plain {x : Lexeme} {text : List Char} (plain : ∀ k, x.kind ≠ .keyword k) (spells : Respells x text) :
    text = x.text := by
  unfold Respells at spells
  split at spells
  · rename_i k keyed
    exact absurd keyed (plain k)
  · exact spells

theorem spread_next {gap body : List Char} (scanned : scanExpression k closed offset s = .ok xs)
    (blank : gap.all isBlank = true) (kept : ∀ y ∈ xs.head?, offset < y.offset → gap ≠ []) (spread : Spread xs body) :
    NextLike s (gap ++ body) := by
  intro c first
  cases gap with
  | cons b gap =>
      cases first
      exact .inl ((Bool.and_eq_true _ _).mp blank).1
  | nil =>
      cases xs with
      | nil =>
          cases spread
          cases first
      | cons y ys =>
          obtain ⟨noColon, plain⟩ := scan_expression_starts scanned y (by simp)
          obtain ⟨gap, rest, rfl, -, placed, filled, -⟩ := scan_expression_tiles scanned
          obtain ⟨text, gap', rest', rfl, spells, -⟩ := spread
          cases respells_plain plain spells
          have close : gap = [] := by
            have notAfter := mt (kept y rfl) (not_not.mpr rfl)
            by_contra between
            have positive := byte_length_pos between
            omega
          obtain ⟨d, tail, found⟩ := List.exists_cons_of_ne_nil filled
          rw [found] at first noColon ⊢
          rw [close]
          cases first
          refine .inr ⟨rfl, ?_⟩
          rintro rfl
          exact noColon rfl

end

theorem lexes_gap {k : Keyword} {closed : Bool} {gap s : List Char} {ks : List TokenKind}
    (blank : gap.all isBlank = true) (more : Lexes k closed s ks) : Lexes k closed (gap ++ s) ks := by
  induction gap with
  | nil => exact more
  | cons c gap ih =>
      obtain ⟨first, others⟩ := (Bool.and_eq_true _ _).mp blank
      exact lexes_blank first (ih others)

-- The induction is the scanner's own, over the line as it was.
theorem lexes_spread {k : Keyword} {closed : Bool} {offset : Nat} {s : List Char} {xs : List Lexeme}
    (scanned : scanExpression k closed offset s = .ok xs) {body : List Char} (spread : Spread xs body) :
    Lexes k closed body (xs.map Lexeme.kind) := by
  fun_induction scanExpression k closed offset s generalizing xs body with
  | case1 closed offset =>
      cases scanned
      cases spread
      exact lexes_nil k closed
  | case2 closed offset c rest blank ih => exact ih scanned spread
  | case3 closed offset c rest _ comment =>
      cases scanned
      cases spread
      exact lexes_nil k closed
  | case4 => cases scanned
  | case5 closed offset c rest noBlank noComment t found closed' =>
      rename_i ih
      obtain ⟨more, read, done⟩ := bind_eq_ok scanned
      cases done
      obtain ⟨text, gap, body, rfl, spells, blank, kept, spread⟩ := spread
      cases respells_plain (scan_token_unkeyed found) spells
      obtain ⟨tail, whole, t', again, kind, left⟩ := scan_token_again found (spread_next read blank kept spread)
      have others := lexes_gap blank (ih read spread)
      have noQuote : closed = true → c ≠ '"' := by
        rintro rfl rfl
        exact noComment rfl
      have lexes := lexes_token (Bool.eq_false_iff.mpr noBlank) noQuote again (by rw [kind, left]; exact others)
      rw [kind] at lexes
      rw [List.map_cons, whole]
      exact lexes

-- No two keywords share an abbreviation, so that an abbreviation is read as the keyword it is of.
theorem of_word?_take (k : Keyword) : ∀ n ≤ k.name.toList.length, k.shortest ≤ n →
    Keyword.ofWord? (k.name.toList.take n) = some k := by cases k <;> decide

theorem matches_word_known {k : Keyword} {word : List Char} (abbreviates : k.matchesWord word = true) :
    Keyword.ofWord? word = some k ∧ word.all isLetter = true ∧ word ≠ [] := by
  obtain ⟨long, front⟩ := (Bool.and_eq_true _ _).mp abbreviates
  have isPrefix := List.isPrefixOf_iff_prefix.mp front
  have known := of_word?_take k word.length isPrefix.length_le (of_decide_eq_true long)
  rw [← List.prefix_iff_eq_take.mp isPrefix] at known
  refine ⟨known, ?_, ?_⟩
  · rw [List.all_eq_true]
    exact fun c member => List.all_eq_true.mp (letters_name k) c (isPrefix.subset member)
  · rintro rfl
    cases known

theorem commands_spread {offset : Nat} {s body : List Char} {xs : List Lexeme} {k : Keyword}
    (keyed : Keyword.ofWord? (s.takeWhile isLetter) = some k) (scanned : scanCommand offset s = .ok xs)
    (spread : Spread xs body) :
    Commands body (xs.map Lexeme.kind) ∧ ∃ c rest, body = c :: rest ∧ isLetter c = true := by
  rw [scanCommand, keyed] at scanned
  obtain ⟨more, read, done⟩ := bind_eq_ok scanned
  cases done
  obtain ⟨word, gap, rest, rfl, spells, blank, kept, spread⟩ := spread
  obtain ⟨known, letters, filled⟩ := matches_word_known spells
  have next := spread_next read blank kept spread
  have ends := next_outside (fun _ inside => by have range := (is_letter_iff _).mp inside; omega)
    (drop_while_ends isLetter s) next
  constructor
  · exact commands_abbreviated known letters ends (lexes_gap blank (lexes_spread read spread))
  · obtain ⟨c, tail, rfl⟩ := List.exists_cons_of_ne_nil filled
    exact ⟨c, tail ++ (gap ++ rest), rfl, ((Bool.and_eq_true _ _).mp letters).1⟩

theorem span_range_again {s rest' : List Char} (ends : ∀ c, rest'.head? = some c → isRangeChar c = false ∧ c ≠ '\'') :
    spanRange ((spanRange s).1 ++ rest') = ((spanRange s).1, rest') := by
  fun_induction spanRange s with
  | case1 => exact span_range_append [] rfl ends
  | case2 mark rest range left span ih =>
      rw [span] at ih
      rw [List.cons_append, List.cons_append, spanRange, ih]
  | case3 c rest noMark rangeChar range left span ih =>
      rw [span] at ih
      rw [List.cons_append, spanRange, if_pos rangeChar, ih]
      exact fun _ _ same => absurd same (ne_of_class rangeChar rfl)
  | case4 c rest _ _ => exact span_range_append [] rfl ends

theorem span_range_leads {s : List Char} (filled : (spanRange s).1 ≠ []) : Leads (spanRange s).1 := by
  fun_induction spanRange s with
  | case1 => exact absurd rfl filled
  | case2 mark rest range left span _ => exact ⟨'\'', mark :: range, rfl, rfl⟩
  | case3 c rest noMark rangeChar range left span _ => exact ⟨c, range, rfl, leads_range_char rangeChar⟩
  | case4 c rest noMark noRange => exact absurd rfl filled

theorem letter_opens {c : Char} (letter : isLetter c = true) : isBlank c = false ∧ isRangeChar c = false ∧ c ≠ '\'' :=
  ⟨leads_no_blank (leads_letter letter), is_range_char_letter letter, ne_of_class letter rfl⟩

theorem scan_line_lettered {lead body : List Char} (skipped : lead.all isLineLead = true)
    (starts : ∃ c rest, body = c :: rest ∧ isLetter c = true) {ks : List TokenKind} (commands : Commands body ks) :
    ∃ xs, scanLine (lead ++ body) = .ok xs ∧ xs.map Lexeme.kind = ks ++ [.endOfLine] := by
  obtain ⟨c, rest, rfl, letter⟩ := starts
  obtain ⟨noBlank, noRange⟩ := letter_opens letter
  have leads : Leads (c :: rest) := ⟨c, rest, rfl, leads_letter letter⟩
  have span := @span_range_append [] (c :: rest) rfl (by rintro c ⟨⟩; exact noRange)
  exact @scan_line_after lead _ [] [] _ skipped leads span rfl (by rintro c ⟨⟩; exact noBlank) _ commands

theorem range_ends {gap rest : List Char} (blank : gap.all isBlank = true)
    (letters : ∃ c tail, rest = c :: tail ∧ isLetter c = true) :
    ∀ c, (gap ++ rest).head? = some c → isRangeChar c = false ∧ c ≠ '\'' := by
  intro c first
  cases gap with
  | nil =>
      obtain ⟨d, tail, rfl, letter⟩ := letters
      cases first
      exact (letter_opens letter).2
  | cons b gap =>
      cases first
      have isGap := ((Bool.and_eq_true _ _).mp blank).1
      refine ⟨Bool.eq_false_iff.mpr fun rangeChar => ?_, ne_of_class isGap rfl⟩
      rw [leads_no_blank (leads_range_char rangeChar)] at isGap
      cases isGap

theorem line_spread {s lead body : List Char} {xs : List Lexeme} {k : Keyword}
    (scanned : scanLine s = .ok (xs ++ [⟨.endOfLine, [], byteLength s⟩]))
    (keyed : Keyword.ofWord? ((dropBlanks (spanRange (s.dropWhile isLineLead)).2).takeWhile isLetter) = some k)
    (skipped : lead.all isLineLead = true) (spread : Spread xs body) :
    Leads body ∧ ∃ ys, scanLine (lead ++ body) = .ok ys ∧ ys.map Lexeme.kind = xs.map Lexeme.kind ++ [.endOfLine] := by
  unfold scanLine at scanned
  split at scanned
  · simp at scanned
  · simp at scanned
  · obtain ⟨command, read, done⟩ := bind_eq_ok scanned
    have same := List.append_inj_left' (Except.ok.inj done) rfl
    cases same
    by_cases bare : (spanRange (s.dropWhile isLineLead)).1 = []
    · rw [if_pos (by simp [bare])] at spread ⊢
      obtain ⟨commands, letters⟩ := commands_spread keyed read spread
      have scans := scan_line_lettered skipped letters commands
      obtain ⟨c, tail, rfl, letter⟩ := letters
      exact ⟨⟨c, tail, rfl, leads_letter letter⟩, scans⟩
    · rw [if_neg (by simpa using bare)] at spread ⊢
      obtain ⟨range, gap, rest, rfl, rfl, blank, -, spread⟩ := spread
      obtain ⟨commands, letters⟩ := commands_spread keyed read spread
      have leads := leads_append (span_range_leads bare) (gap ++ rest)
      have span := @span_range_again (s.dropWhile isLineLead) _ (range_ends blank letters)
      refine ⟨leads, ?_⟩
      obtain ⟨c, tail, rfl, letter⟩ := letters
      have found := scan_line_after skipped leads span blank (by rintro c ⟨⟩; exact (letter_opens letter).1) commands
      rw [if_neg (by simpa using bare)] at found
      exact found

end ExScript
