import ExScript.Proofs.Line.Shapes
import ExScript.Proofs.Line.Spacing

set_option autoImplicit false

namespace ExScript

def Parted (rest : List Char) : Prop := rest.head?.all isBlank = true

-- The words one after the other, with blanks between them; behind the last one stand blanks, and perhaps a comment.
inductive Listed : List String → List Char → Prop
  | blanks {gap : List Char} (blank : gap.all isBlank = true) : Listed [] gap
  | comment {gap : List Char} (note : List Char) (blank : gap.all isBlank = true) : Listed [] (gap ++ '"' :: note)
  | word {gap rest : List Char} {word : String} {words : List String} (blank : gap.all isBlank = true)
      (named : isName word = true) (others : Listed words rest) (parted : Parted rest) :
      Listed (word :: words) (gap ++ (word.toList ++ rest))

theorem parted_first {rest : List Char} (parted : Parted rest) {c : Char} (first : rest.head? = some c) :
    isBlank c = true := by
  rw [Parted, first] at parted
  exact parted

theorem boundary_parted {rest : List Char} (parted : Parted rest) : Boundary rest := by
  intro c first
  have blank := parted_first parted first
  exact ⟨outside_blank (fun _ => is_name_char_range) blank, ne_of_class blank rfl⟩

theorem lexes_comment (k : Keyword) (note : List Char) : Lexes k true ('"' :: note) [] := by
  intro offset
  refine ⟨[], ?_, rfl⟩
  unfold scanExpression
  rfl

theorem lexes_listed {words : List String} {s : List Char} (listed : Listed words s) (k : Keyword) :
    Lexes k true s (words.map fun word => .name none word) := by
  induction listed with
  | @blanks gap blank =>
      have lexes := lexes_gap blank (lexes_nil k true)
      rwa [List.append_nil] at lexes
  | comment note blank => exact lexes_gap blank (lexes_comment k note)
  | word blank named others parted ih =>
      exact lexes_gap blank (piece_name k true (show isScopedName none _ = true from named) _ _
        (boundary_parted parted) ih)

-- Headers. What is put behind the right parenthesis that ends a text leaves the tokens before it as they are.
section

variable {k : Keyword} {closed : Bool} {offset close : Nat} {s tail : List Char} {xs : List Lexeme}
  {ks : List TokenKind}

theorem scan_expression_no_colon (scanned : scanExpression k closed offset s = .ok xs) : s.head? ≠ some ':' := by
  intro first
  obtain ⟨rest, rfl⟩ := List.head?_eq_some_iff.mp first
  unfold scanExpression at scanned
  rw [if_neg (by decide), if_neg (by simp)] at scanned
  cases scanned

theorem byte_length_eq_zero (none : byteLength s = 0) : s = [] := by
  by_contra filled
  exact Nat.ne_of_gt (byte_length_pos filled) none

-- The induction is the scanner's own, over the text in front.
theorem lexes_behind (scanned : scanExpression k closed offset s = .ok (xs ++ [⟨.rightParen, [')'], close⟩]))
    (ends : close + 1 = offset + byteLength s) (more : Lexes k (closed || k == .function) tail ks) :
    Lexes k closed (s ++ tail) (xs.map Lexeme.kind ++ .rightParen :: ks) := by
  fun_induction scanExpression k closed offset s generalizing xs with
  | case1 => simp at scanned
  | case2 closed offset c rest blank ih =>
      refine lexes_blank blank (ih scanned ?_ more)
      rw [ends, byteLength, Nat.add_assoc]
  | case3 => simp at scanned
  | case4 => cases scanned
  | case5 closed offset c rest noBlank noComment t found closed' =>
      rename_i ih
      obtain ⟨others, read, done⟩ := bind_eq_ok scanned
      have same := Except.ok.inj done
      cases xs with
      | nil =>
          obtain ⟨first, rfl⟩ := List.cons.inj same
          obtain ⟨kind, text, placed⟩ := Lexeme.mk.inj first
          have covers := t.covers
          rw [text] at covers
          obtain ⟨rfl, rest'⟩ := List.cons.inj covers
          -- the parenthesis is one byte, and the text ends with it
          have empty : rest = [] := by
            apply byte_length_eq_zero
            have one : byteLength (')' :: rest) = 1 + byteLength rest := rfl
            omega
          rw [empty]
          exact lexes_right_paren more
      | cons x xs =>
          obtain ⟨rfl, rfl⟩ := List.cons.inj same
          have length := congrArg byteLength t.covers
          rw [byte_length_append] at length
          have still : (closed' || k == .function) = (closed || k == .function) := by
            dsimp only [closed']
            cases closed <;> cases k == .function <;> simp
          have behind := ih read (by omega) (by rw [still]; exact more)
          have next : NextLike t.rest (t.rest ++ tail) := by
            intro d first
            have noColon := scan_expression_no_colon read
            cases left : t.rest with
            | nil =>
                rw [left] at read
                unfold scanExpression at read
                simp at read
            | cons e rest =>
                rw [left] at first noColon
                cases first
                exact .inr ⟨rfl, fun colon => noColon (congrArg some colon)⟩
          obtain ⟨text, whole, t', again, kind, left⟩ := scan_token_again found next
          have noQuote : closed = true → c ≠ '"' := by
            rintro rfl rfl
            exact noComment rfl
          have lexes := lexes_token (Bool.eq_false_iff.mpr noBlank) noQuote again (by rw [kind, left]; exact behind)
          have covers := t.covers
          rw [whole, List.cons_append] at covers
          rw [kind, ← List.append_assoc, (List.cons.inj covers).2] at lexes
          exact lexes

end

theorem scan_command_keyed {offset start : Nat} {s word : List Char} {k : Keyword} {xs : List Lexeme}
    (scanned : scanCommand offset s = .ok (⟨.keyword k, word, start⟩ :: xs)) :
    Keyword.ofWord? (s.takeWhile isLetter) = some k ∧
      scanExpression k (k == .endfunction) (offset + byteLength (s.takeWhile isLetter)) (s.dropWhile isLetter) =
        .ok xs := by
  unfold scanCommand at scanned
  dsimp only at scanned
  split at scanned
  · rename_i k' known
    obtain ⟨more, read, done⟩ := bind_eq_ok scanned
    cases done
    exact ⟨known, read⟩
  · split at scanned
    · unfold scanSymbol at scanned
      split at scanned
      · cases scanned
      · split at scanned <;> cases scanned
    · cases scanned

theorem scan_line_keyed {s word : List Char} {start : Nat} {k : Keyword} {xs : List Lexeme} {last : Lexeme}
    (scanned : scanLine s = .ok (⟨.keyword k, word, start⟩ :: (xs ++ [last]))) :
    ∃ lead body, s = lead ++ body ∧ lead.all isLineLead = true ∧ last.offset = byteLength s ∧
      scanCommand (byteLength lead) body = .ok (⟨.keyword k, word, start⟩ :: xs) := by
  have whole := List.takeWhile_append_dropWhile (p := isLineLead) (l := s)
  refine ⟨s.takeWhile isLineLead, s.dropWhile isLineLead, whole.symm, List.all_takeWhile, ?_⟩
  unfold scanLine at scanned
  split at scanned
  · cases scanned
  · cases scanned
  · obtain ⟨command, read, done⟩ := bind_eq_ok scanned
    rw [← List.cons_append] at done
    obtain ⟨tokens, ended⟩ := List.append_inj' (Except.ok.inj done) rfl
    refine ⟨by rw [← (List.cons.inj ended).1], ?_⟩
    have covers := span_range_covers (s.dropWhile isLineLead)
    by_cases bare : (spanRange (s.dropWhile isLineLead)).1 = []
    · rw [bare, List.nil_append] at covers
      rw [if_pos (by simp [bare]), List.nil_append] at tokens
      have gapless := take_while_append_drop_blanks (s.dropWhile isLineLead)
      rw [drop_blanks_body, List.append_left_eq_self] at gapless
      rw [covers, drop_blanks_body, gapless, bare, tokens] at read
      exact read
    · rw [if_neg (by simpa using bare)] at tokens
      cases tokens

theorem keyed_letter {s : List Char} {k : Keyword} (known : Keyword.ofWord? (s.takeWhile isLetter) = some k) :
    ∃ c rest, s = c :: rest ∧ isLetter c = true := by
  cases s with
  | nil => cases known
  | cons c rest =>
      refine ⟨c, rest, rfl, ?_⟩
      by_contra other
      rw [List.takeWhile_cons_of_neg other] at known
      cases known

theorem scan_line_behind {s word tail : List Char} {start close : Nat} {xs : List Lexeme} {ks : List TokenKind}
    (scanned : scanLine s = .ok (⟨.keyword .function, word, start⟩ ::
      (xs ++ [⟨.rightParen, [')'], close⟩, ⟨.endOfLine, [], close + 1⟩])))
    (more : Lexes .function true tail ks) :
    ∃ ys, scanLine (s ++ tail) = .ok ys ∧
      ys.map Lexeme.kind = .keyword .function :: (xs.map Lexeme.kind ++ .rightParen :: (ks ++ [.endOfLine])) := by
  have split : xs ++ [⟨.rightParen, [')'], close⟩, ⟨.endOfLine, [], close + 1⟩] =
      (xs ++ [⟨.rightParen, [')'], close⟩]) ++ [(⟨.endOfLine, [], close + 1⟩ : Lexeme)] := by
    rw [List.append_assoc]
    rfl
  rw [split] at scanned
  obtain ⟨lead, body, rfl, skipped, ended, command⟩ := scan_line_keyed scanned
  obtain ⟨known, read⟩ := scan_command_keyed command
  have cut := List.takeWhile_append_dropWhile (p := isLetter) (l := body)
  have ends : close + 1 =
      byteLength lead + byteLength (body.takeWhile isLetter) + byteLength (body.dropWhile isLetter) := by
    rw [Nat.add_assoc, ← byte_length_append, cut, ← byte_length_append]
    exact ended
  have behind := lexes_behind read ends more
  have noLetter : ∀ c, (body.dropWhile isLetter ++ tail).head? = some c → isLetter c = false := by
    intro c first
    cases left : body.dropWhile isLetter with
    | nil =>
        rw [left] at read
        unfold scanExpression at read
        simp at read
    | cons d rest =>
        have ended := drop_while_ends isLetter body
        rw [left] at first ended
        exact ended c first
  have commands := commands_abbreviated known List.all_takeWhile noLetter behind
  rw [← List.append_assoc, cut] at commands
  have starts : ∃ c rest, body ++ tail = c :: rest ∧ isLetter c = true := by
    obtain ⟨c, rest, rfl, letter⟩ := keyed_letter known
    exact ⟨c, rest ++ tail, rfl, letter⟩
  have found := scan_line_lettered skipped starts commands
  rw [List.append_assoc]
  simpa using found

theorem commands_listed {word : String} {rest : List Char} (filled : word ≠ "")
    (letters : word.toList.all isLetter = true) (noKeyword : Keyword.ofWord? word.toList = none)
    (parted : Parted rest) :
    Commands (word.toList ++ rest) (.name none word :: argumentKinds (String.ofList (trimmed rest))) := by
  intro offset
  have noLetter : ∀ c, rest.head? = some c → isLetter c = false := by
    intro c first
    exact outside_blank (fun _ inside => by have range := (is_letter_iff _).mp inside; omega) (parted_first parted first)
  obtain ⟨taken, left⟩ := take_while_piece letters noLetter
  have raw : scanArguments (offset + byteLength word.toList) rest = scanRaw (offset + byteLength word.toList) rest := by
    unfold scanArguments
    split
    · exact absurd (parted_first parted rfl) (by decide)
    · rfl
  have found : scanCommand offset (word.toList ++ rest) =
      .ok (⟨.name none (String.ofList word.toList), word.toList, offset⟩ ::
        scanRaw (offset + byteLength word.toList) rest) := by
    rw [scanCommand, taken, left, noKeyword, ← raw]
    exact if_neg (by simpa using filled)
  refine ⟨_, found, ?_⟩
  rw [List.map_cons, scan_raw_kinds, String.ofList_toList]

theorem scan_line_listed {word : String} {gap rest : List Char} (filled : word ≠ "")
    (letters : word.toList.all isLetter = true) (noKeyword : Keyword.ofWord? word.toList = none)
    (blank : gap.all isBlank = true) (parted : Parted rest) :
    ∃ xs, scanLine (gap ++ (word.toList ++ rest)) = .ok xs ∧
      xs.map Lexeme.kind = unrangedKinds ⟨none, word, false, String.ofList (trimmed rest)⟩ := by
  have commands := commands_listed filled letters noKeyword parted
  have starts : ∃ c tail, word.toList ++ rest = c :: tail ∧ isLetter c = true := by
    obtain ⟨c, tail, whole⟩ := List.exists_cons_of_ne_nil (show word.toList ≠ [] by simpa using filled)
    rw [whole] at letters ⊢
    exact ⟨c, tail ++ rest, rfl, ((Bool.and_eq_true _ _).mp letters).1⟩
  have found := scan_line_lettered (lead_of_blanks blank) starts commands
  simpa [unrangedKinds, wordKinds, bangKinds, filled] using found

end ExScript
