import ExScript.Proofs.Statement.Spelling

set_option autoImplicit false

namespace ExScript

def Lexes (k : Keyword) (closed : Bool) (s : List Char) (ks : List TokenKind) : Prop :=
  ∀ offset, ∃ xs, scanExpression k closed offset s = .ok xs ∧ xs.map Lexeme.kind = ks

theorem lexes_nil (k : Keyword) (closed : Bool) : Lexes k closed [] [] := by
  intro offset
  exact ⟨[], by unfold scanExpression; rfl, rfl⟩

theorem lexes_blank {k : Keyword} {closed : Bool} {c : Char} {s : List Char} {ks : List TokenKind}
    (blank : isBlank c = true) (more : Lexes k closed s ks) : Lexes k closed (c :: s) ks := by
  intro offset
  obtain ⟨xs, read, same⟩ := more (offset + c.utf8Size)
  refine ⟨xs, ?_, same⟩
  unfold scanExpression
  rw [if_pos blank, read]

theorem lexes_space {k : Keyword} {closed : Bool} {s : List Char} {ks : List TokenKind}
    (more : Lexes k closed s ks) : Lexes k closed (' ' :: s) ks := lexes_blank (by decide) more

theorem lexes_token {k : Keyword} {closed : Bool} {c : Char} {rest : List Char} {ks : List TokenKind}
    {t : Scanned (c :: rest)} (noBlank : isBlank c = false) (noComment : closed = true → c ≠ '"')
    (scanned : scanToken c rest = .ok t)
    (more : Lexes k (closed || (k == .function && t.kind == .rightParen)) t.rest ks) :
    Lexes k closed (c :: rest) (t.kind :: ks) := by
  intro offset
  obtain ⟨xs, read, same⟩ := more (offset + byteLength t.text)
  refine ⟨⟨t.kind, t.text, offset⟩ :: xs, ?_, by rw [List.map_cons, same]⟩
  have goesOn : (closed && c == '"') = false := by
    cases closed with
    | false => rfl
    | true => simpa using noComment rfl
  unfold scanExpression
  rw [if_neg (by simp [noBlank]), if_neg (by simp [goesOn]), scanned]
  dsimp only
  rw [read]
  rfl

theorem lexes_plain {k : Keyword} {closed : Bool} {c : Char} {text rest : List Char} {kind : TokenKind}
    {ks : List TokenKind} {t : Scanned (c :: text)} (noBlank : isBlank c = false)
    (noComment : closed = true → c ≠ '"') (scanned : scanToken c text = .ok t) (same : t.kind = kind)
    (left : t.rest = rest) (noParen : kind ≠ .rightParen) (more : Lexes k closed rest ks) :
    Lexes k closed (c :: text) (kind :: ks) := by
  rw [← same] at noParen ⊢
  refine lexes_token noBlank noComment scanned ?_
  rw [beq_eq_false_iff_ne.mpr noParen, Bool.and_false, Bool.or_false, left]
  exact more

-- The signs that mean the same wherever they stand; a right parenthesis closes the header of a function.
inductive Sign : List Char → TokenKind → Prop
  | leftParen : Sign ['('] .leftParen
  | comma : Sign [','] .comma
  | bang : Sign ['!'] .bang
  | equals : Sign ['='] .equals
  | dotEquals : Sign ['.', '='] .dotEquals

section

variable {k : Keyword} {closed : Bool} {rest : List Char} {ks : List TokenKind}

theorem lexes_sign {s : List Char} {kind : TokenKind} (sign : Sign s kind) (more : Lexes k closed rest ks) :
    Lexes k closed (s ++ rest) (kind :: ks) := by
  cases sign <;> exact lexes_plain (by decide) (by simp) rfl rfl rfl (by simp) more

theorem lexes_right_paren (more : Lexes k (closed || k == .function) rest ks) :
    Lexes k closed (')' :: rest) (.rightParen :: ks) :=
  lexes_token (t := ⟨.rightParen, [')'], rest, rfl, by simp⟩) (by decide) (by simp) rfl (by simpa using more)

theorem lexes_dot {c : Char} (noDot : c ≠ '.') (noEquals : c ≠ '=') (more : Lexes k closed (c :: rest) ks) :
    Lexes k closed ('.' :: c :: rest) (.dot :: ks) := by
  have scanned : scanToken '.' (c :: rest) = .ok ⟨.dot, ['.'], c :: rest, rfl, by simp⟩ := by
    simp [scanToken, noDot, noEquals]
  exact lexes_plain (by decide) (by simp) scanned rfl rfl (by simp) more

end

theorem ne_of_class {p : Char → Bool} {c d : Char} (inside : p c = true) (outside : p d = false) : c ≠ d := by
  rintro rfl
  rw [inside] at outside
  cases outside

-- What may follow a name or a number: nothing that would be taken for a part of it.
def Boundary (rest : List Char) : Prop := ∀ c, rest.head? = some c → isNameChar c = false ∧ c ≠ ':'

theorem boundary_nil : Boundary [] := by
  intro c first
  cases first

theorem boundary_cons {c : Char} (rest : List Char) (ends : isNameChar c = false := by decide)
    (noColon : c ≠ ':' := by decide) : Boundary (c :: rest) := by
  rintro c' ⟨⟩
  exact ⟨ends, noColon⟩

theorem boundary_append {s rest : List Char} (front : Boundary s) (boundary : Boundary rest) :
    Boundary (s ++ rest) := by
  cases s with
  | nil => exact boundary
  | cons c s => exact front

theorem boundary_spaced (texts : List (List Char)) : Boundary (spaced texts) := by
  cases texts with
  | nil => exact boundary_nil
  | cons text texts => exact boundary_cons _

theorem boundary_keys (keys : List String) : Boundary (keys.flatMap fun key => '.' :: key.toList) := by
  cases keys with
  | nil => exact boundary_nil
  | cons key keys => exact boundary_cons _

def Piece (k : Keyword) (closed : Bool) (s : List Char) (ks : List TokenKind) : Prop :=
  ∀ rest more, Boundary rest → Lexes k closed rest more → Lexes k closed (s ++ rest) (ks ++ more)

theorem lexes_of_piece {k : Keyword} {closed : Bool} {s : List Char} {ks : List TokenKind}
    (piece : Piece k closed s ks) : Lexes k closed s ks := by
  simpa using piece [] [] boundary_nil (lexes_nil k closed)

theorem take_while_piece {p : Char → Bool} {s rest : List Char} (all : s.all p = true)
    (ends : ∀ c, rest.head? = some c → p c = false) :
    (s ++ rest).takeWhile p = s ∧ (s ++ rest).dropWhile p = rest := by
  rw [List.takeWhile_append_of_pos (List.all_eq_true.mp all), List.dropWhile_append_of_pos (List.all_eq_true.mp all)]
  cases rest with
  | nil => simp
  | cons c rest => simp [ends c rfl]

theorem is_letter_iff (c : Char) :
    isLetter c = true ↔ (97 ≤ c.toNat ∧ c.toNat ≤ 122) ∨ (65 ≤ c.toNat ∧ c.toNat ≤ 90) := by
  simp [isLetter, Char.le_def, UInt32.le_iff_toNat_le]

theorem is_decimal_digit_iff (c : Char) : isDecimalDigit c = true ↔ 48 ≤ c.toNat ∧ c.toNat ≤ 57 := by
  simp [isDecimalDigit, Char.le_def, UInt32.le_iff_toNat_le]

theorem is_name_start_range {c : Char} (starts : isNameStart c = true) :
    (97 ≤ c.toNat ∧ c.toNat ≤ 122) ∨ (65 ≤ c.toNat ∧ c.toNat ≤ 90) ∨ c.toNat = 95 := by
  rcases (Bool.or_eq_true _ _).mp starts with letter | underscore
  · rcases (is_letter_iff c).mp letter with small | capital
    · exact .inl small
    · exact .inr (.inl capital)
  · exact .inr (.inr (by rw [eq_of_beq underscore]; rfl))

theorem is_blank_printed {c : Char} (low : 33 ≤ c.toNat) (high : c.toNat ≤ 126) : isBlank c = false := by
  rw [Bool.eq_false_iff]
  intro blank
  simp only [isBlank, Bool.or_eq_true, Bool.and_eq_true, decide_eq_true_eq, beq_iff_eq] at blank
  omega

theorem is_blank_of_is_name_start {c : Char} (starts : isNameStart c = true) : isBlank c = false := by
  have range := is_name_start_range starts
  exact is_blank_printed (by omega) (by omega)

theorem is_blank_of_is_decimal_digit {c : Char} (digit : isDecimalDigit c = true) : isBlank c = false := by
  have range := (is_decimal_digit_iff c).mp digit
  exact is_blank_printed (by omega) (by omega)

-- A letter, an underscore or a digit is none of the signs, so the last rule of the scanner applies.
theorem scan_token_name {c : Char} (rest : List Char) (starts : isNameStart c = true) :
    scanToken c rest = .ok (scanName c rest) := by
  have noDigit : isDecimalDigit c = false := by
    have range := is_name_start_range starts
    rw [Bool.eq_false_iff, Ne, is_decimal_digit_iff]
    omega
  unfold scanToken
  split
  all_goals try exact absurd starts (by decide)
  rw [noDigit, starts]
  rfl

theorem scan_token_number {c : Char} (rest : List Char) (digit : isDecimalDigit c = true) :
    scanToken c rest = .ok (scanNumber c rest) := by
  unfold scanToken
  split
  all_goals try exact absurd digit (by decide)
  rw [digit]
  rfl

theorem scan_name_unscoped {c : Char} {rest : List Char} (noColon : rest.head? ≠ some ':') :
    (scanName c rest).kind = .name none (String.ofList (c :: rest.takeWhile isNameChar)) ∧
      (scanName c rest).rest = rest.dropWhile isNameChar := by
  unfold scanName
  split
  · exact absurd rfl noColon
  · exact ⟨rfl, rfl⟩

theorem scan_name_scoped (scope : Scope) {d : Char} (rest : List Char) (chars : isNameChar d = true) :
    (scanName scope.letter (':' :: d :: rest)).kind =
        .name (some scope) (String.ofList (d :: rest.takeWhile isNameChar)) ∧
      (scanName scope.letter (':' :: d :: rest)).rest = rest.dropWhile isNameChar := by
  simp [scanName, chars]

theorem no_colon_piece {s rest : List Char} (chars : s.all isNameChar = true) (boundary : Boundary rest) :
    (s ++ rest).head? ≠ some ':' := by
  cases s with
  | nil => exact fun first => (boundary ':' first).2 rfl
  | cons d s =>
      intro first
      cases first
      exact absurd ((Bool.and_eq_true _ _).mp chars).1 (by decide)

theorem lexes_name {k : Keyword} {closed : Bool} {c : Char} {text rest : List Char} {ks : List TokenKind}
    (starts : isNameStart c = true) {scope : Option Scope} {name : String}
    (kind : (scanName c text).kind = .name scope name) (left : (scanName c text).rest = rest)
    (more : Lexes k closed rest ks) : Lexes k closed (c :: text) (.name scope name :: ks) :=
  lexes_plain (is_blank_of_is_name_start starts) (fun _ => ne_of_class starts rfl) (scan_token_name text starts)
    kind left (by simp) more

theorem piece_name (k : Keyword) (closed : Bool) {scope : Option Scope} {name : String}
    (named : isScopedName scope name = true) :
    Piece k closed ((scopeMark scope).toList ++ name.toList) [.name scope name] := by
  intro rest more boundary lexes
  cases scope with
  | none =>
      obtain ⟨c, s, rfl, starts, chars⟩ := is_name_cases named
      obtain ⟨taken, left⟩ := take_while_piece chars fun c first => (boundary c first).1
      obtain ⟨kind, after⟩ := scan_name_unscoped (c := c) (no_colon_piece chars boundary)
      rw [taken] at kind
      rw [left] at after
      rw [String.toList_ofList]
      exact lexes_name starts kind after lexes
  | some scope =>
      have starts : isNameStart scope.letter = true := by cases scope <;> rfl
      have mark : (scopeMark (some scope)).toList = [scope.letter, ':'] := by simp [scopeMark, Scope.mark]
      obtain ⟨filled, chars⟩ := (Bool.and_eq_true _ _).mp named
      cases spelled : name.toList with
      | nil => simp [spelled] at filled
      | cons d s =>
          rw [spelled, List.all_cons, Bool.and_eq_true] at chars
          obtain ⟨taken, left⟩ := take_while_piece chars.2 fun c first => (boundary c first).1
          obtain ⟨kind, after⟩ := scan_name_scoped scope (s ++ rest) chars.1
          rw [taken, ← spelled, String.ofList_toList] at kind
          rw [left] at after
          rw [mark]
          exact lexes_name starts kind after lexes

theorem text_natural {n : Int64} (natural : 0 ≤ n.toInt) :
    (Value.num n).text.toList = Nat.toDigits 10 n.toInt.toNat := by
  have whole : n.toInt = Int.ofNat n.toInt.toNat := (Int.toNat_of_nonneg natural).symm
  show (toString n.toInt).toList = _
  rw [whole]
  exact Nat.toList_repr

theorem decimal_value_to_digits (n : Nat) : decimalValue (Nat.toDigits 10 n) = n := by
  have same := Nat.ofDigitChars_ten_toDigits (n := n)
  rwa [Nat.ofDigitChars_eq_foldl] at same

theorem saturate_to_nat {n : Int64} (natural : 0 ≤ n.toInt) : saturate n.toInt.toNat = n := by
  have bound : n.toInt.toNat ≤ maxNumber := by
    have most := n.toInt_lt
    unfold maxNumber
    omega
  rw [saturate, Nat.min_eq_left bound, ← Int64.ofInt_eq_ofNat, Int.toNat_of_nonneg natural, Int64.ofInt_toInt]

theorem to_digits_is_decimal_digit (n : Nat) : (Nat.toDigits 10 n).all isDecimalDigit = true := by
  rw [List.all_eq_true]
  intro c member
  have digit := Nat.isDigit_of_mem_toDigits (by decide) (by decide) member
  simpa [Char.isDigit, isDecimalDigit, Char.le_def] using digit

theorem is_name_char_of_is_decimal_digit {c : Char} (digit : isDecimalDigit c = true) : isNameChar c = true := by
  simp [isNameChar, digit]

theorem piece_number (k : Keyword) (closed : Bool) {n : Int64} (natural : 0 ≤ n.toInt) :
    Piece k closed (printValue (.num n)) [.number n] := by
  intro rest more boundary lexes
  rw [printValue, text_natural natural]
  have digits := to_digits_is_decimal_digit n.toInt.toNat
  have value := decimal_value_to_digits n.toInt.toNat
  cases spelled : Nat.toDigits 10 n.toInt.toNat with
  | nil => exact absurd spelled Nat.toDigits_ne_nil
  | cons c s =>
      rw [spelled] at digits value
      obtain ⟨digit, digits⟩ := (Bool.and_eq_true _ _).mp digits
      have ends : ∀ c, rest.head? = some c → isDecimalDigit c = false := by
        intro c first
        have noName := (boundary c first).1
        rw [Bool.eq_false_iff] at noName ⊢
        exact fun digit => noName (is_name_char_of_is_decimal_digit digit)
      obtain ⟨taken, left⟩ := take_while_piece digits ends
      have kind : (scanNumber c (s ++ rest)).kind = .number n := by
        simp only [scanNumber, taken, value, saturate_to_nat natural]
      exact lexes_plain (is_blank_of_is_decimal_digit digit) (fun _ => ne_of_class digit rfl) (scan_token_number _ digit)
        kind left (by simp) lexes

theorem escaped_body_plain {c : Char} (rest : List Char) (noQuote : c ≠ '"') (noEscape : c ≠ '\\') :
    escapedBody (c :: rest) =
      (escapedBody rest).map fun b => ⟨c :: b.value, c :: b.text, b.rest, by simp [b.covers]⟩ := by
  rw [escapedBody]
  · exact noQuote
  · exact fun _ _ same _ => noEscape same
  · exact fun same _ => noEscape same

theorem escaped_body_escape (s rest : List Char) :
    ∃ b, escapedBody (s.flatMap escapeChar ++ '"' :: rest) = some b ∧ b.value = s ∧ b.rest = rest := by
  induction s with
  | nil => exact ⟨_, rfl, rfl, rfl⟩
  | cons c s ih =>
      obtain ⟨b, read, value, left⟩ := ih
      rw [List.flatMap_cons, List.append_assoc]
      by_cases special : c = '\\' ∨ c = '"' ∨ c = '\n' ∨ c = '\r'
      · rcases special with rfl | rfl | rfl | rfl <;>
        · refine ⟨_, congrArg (Option.map _) read, ?_, left⟩
          exact congrArg (List.cons _) value
      · obtain ⟨noEscape, noQuote, noFeed, noReturn⟩ := by simpa only [not_or] using special
        have same : escapeChar c = [c] := by
          rw [escapeChar, if_neg noEscape, if_neg noQuote, if_neg noFeed, if_neg noReturn]
        rw [same, List.singleton_append, escaped_body_plain _ noQuote noEscape, read]
        exact ⟨_, rfl, congrArg (List.cons c) value, left⟩

theorem piece_string (k : Keyword) (s : String) : Piece k false (printValue (.str s)) [.string s] := by
  intro rest more _ lexes
  obtain ⟨b, read, value, left⟩ := escaped_body_escape s.toList rest
  have scanned : scanToken '"' (s.toList.flatMap escapeChar ++ '"' :: rest) = scanString '"' (some b) := by
    rw [← read]
    rfl
  rw [printValue, List.cons_append, List.append_assoc]
  exact lexes_plain (by decide) (by simp) scanned (by rw [value, String.ofList_toList]) left (by simp) lexes

section

variable {k : Keyword} {closed : Bool}

theorem piece_comma_separated {α : Type} (text : α → List Char) (spelling : α → List TokenKind) (xs : List α)
    (pieces : ∀ x ∈ xs, Piece k closed (text x) (spelling x)) :
    Piece k closed (commaSeparated (xs.map text)) ([.comma].intercalate (xs.map spelling)) := by
  induction xs with
  | nil => exact fun rest more _ lexes => lexes
  | cons x xs ih =>
      have first := pieces x (by simp)
      have others := ih fun y member => pieces y (by simp [member])
      intro rest more boundary lexes
      cases xs with
      | nil => simpa [commaSeparated] using first rest more boundary lexes
      | cons y ys =>
          have tail := first _ _ (boundary_cons _)
            (lexes_sign .comma (lexes_space (others rest more boundary lexes)))
          simpa [commaSeparated] using tail

theorem piece_spaced {α : Type} (text : α → List Char) (spelling : α → List TokenKind) (xs : List α)
    (pieces : ∀ x ∈ xs, Piece k closed (text x) (spelling x)) :
    Piece k closed (spaced (xs.map text)) (xs.map spelling).flatten := by
  induction xs with
  | nil => exact fun rest more _ lexes => lexes
  | cons x xs ih =>
      have first := pieces x (by simp)
      have others := ih fun y member => pieces y (by simp [member])
      intro rest more boundary lexes
      have next := boundary_append (boundary_spaced (xs.map text)) boundary
      simpa [spaced] using lexes_space (first _ _ next (others rest more boundary lexes))

theorem piece_keys (keys : List String) (named : ∀ key ∈ keys, isName key = true) :
    Piece k closed (keys.flatMap fun key => '.' :: key.toList) (keys.flatMap fun key => [.dot, .name none key]) := by
  induction keys with
  | nil => exact fun rest more _ lexes => lexes
  | cons key keys ih =>
      have others := ih fun key' member => named key' (by simp [member])
      have keyNamed : isScopedName none key = true := named key (by simp)
      intro rest more boundary lexes
      have next := boundary_append (boundary_keys keys) boundary
      have first := piece_name k closed keyNamed _ _ next (others rest more boundary lexes)
      obtain ⟨c, s, rfl, starts, -⟩ := is_name_cases keyNamed
      have dotted := lexes_dot (ne_of_class starts rfl) (ne_of_class starts rfl) (by simpa [scopeMark] using first)
      simpa [scopeMark] using dotted

theorem intercalate_dot (first : List Char) (keys : List (List Char)) :
    ['.'].intercalate (first :: keys) = first ++ keys.flatMap ('.' :: ·) := by
  induction keys generalizing first with
  | nil => simp
  | cons key keys ih => simp [ih key]

theorem text_of_path (scope : Option Scope) (first : String) (keys : List String) (plain : '.' ∉ first.toList) :
    (FunctionName.ofPath scope first keys).text.toList =
      ((scopeMark scope).toList ++ first.toList) ++ keys.flatMap fun key => '.' :: key.toList := by
  rw [FunctionName.text]
  cases keys with
  | nil =>
      rw [is_dotted_plain scope first plain]
      simp [FunctionName.ofPath]
  | cons key keys =>
      rw [if_pos (is_dotted_of_path scope first key keys), to_list_of_path, List.map_cons, intercalate_dot,
        List.append_assoc, List.flatMap_map]

theorem piece_function_name {f : FunctionName} (printable : f.Printable) :
    Piece k closed f.text.toList (nameKinds f) := by
  obtain ⟨-, first, keys, firstNamed, keysNamed, path⟩ := printable
  rw [path, name_kinds_of_path firstNamed keysNamed,
    text_of_path f.scope first keys (no_dot_of_name_chars (name_chars_of_is_scoped_name firstNamed))]
  intro rest more boundary lexes
  have next := boundary_append (boundary_keys keys) boundary
  rw [List.append_assoc]
  exact piece_name k closed firstNamed _ _ next (piece_keys keys keysNamed rest more boundary lexes)

end

theorem print_exprs_eq (es : List Expr) : printExprs es = es.map printExpr := by
  induction es with
  | nil => rfl
  | cons e es ih => rw [printExprs, ih, List.map_cons]

theorem exprs_kinds_eq (es : List Expr) : exprsKinds es = es.map exprKinds := by
  induction es with
  | nil => rfl
  | cons e es ih => rw [exprsKinds, ih, List.map_cons]

theorem text_plain {f : FunctionName} (named : isScopedName f.scope f.name = true) :
    f.text = scopeMark f.scope ++ f.name := by
  have plain : f.isDotted = false := by
    simpa [FunctionName.isDotted] using no_dot_of_name_chars (name_chars_of_is_scoped_name named)
  rw [FunctionName.text, plain]
  rfl

-- Outside a header a right parenthesis does not end the part where a double quote opens a string.
theorem lexes_close {k : Keyword} {rest : List Char} {ks : List TokenKind} (noHeader : k ≠ .function)
    (more : Lexes k false rest ks) : Lexes k false (')' :: rest) (.rightParen :: ks) := by
  apply lexes_right_paren
  rwa [beq_eq_false_iff_ne.mpr noHeader]

theorem lexes_arguments {k : Keyword} (noHeader : k ≠ .function) (es : List Expr)
    (pieces : ∀ e ∈ es, Piece k false (printExpr e) (exprKinds e)) {rest : List Char} {ks : List TokenKind}
    (lexes : Lexes k false rest ks) :
    Lexes k false ('(' :: (commaSeparated (printExprs es) ++ ')' :: rest))
      (.leftParen :: ([.comma].intercalate (exprsKinds es) ++ .rightParen :: ks)) := by
  rw [print_exprs_eq, exprs_kinds_eq]
  exact lexes_sign .leftParen (piece_comma_separated printExpr exprKinds es pieces _ _ (boundary_cons _)
    (lexes_close noHeader lexes))

mutual

theorem piece_expr {k : Keyword} (noHeader : k ≠ .function) (e : Expr) (spellable : e.isSpellable = true) :
    Piece k false (printExpr e) (exprKinds e) := by
  cases e with
  | literal value =>
      cases value with
      | str s => exact piece_string k s
      | num n => exact piece_number k false (of_decide_eq_true spellable)
  | «variable» v =>
      rw [printExpr, Variable.text, String.toList_append]
      exact piece_name k false spellable
  | concat left right =>
      rw [Expr.isSpellable, Bool.and_eq_true] at spellable
      have first := piece_expr noHeader left spellable.1
      have second := piece_expr noHeader right spellable.2
      intro rest more boundary lexes
      have operand : Lexes k false
          ((if right.isConcat then '(' :: (printExpr right ++ [')']) else printExpr right) ++ rest)
          ((if right.isConcat then .leftParen :: (exprKinds right ++ [.rightParen]) else exprKinds right) ++ more) := by
        split
        · simpa using lexes_sign .leftParen (second _ _ (boundary_cons _) (lexes_close noHeader lexes))
        · exact second rest more boundary lexes
      have join := lexes_space (lexes_dot (by decide) (by decide) (lexes_space operand))
      simpa [printExpr, exprKinds] using first _ _ (boundary_cons _) join
  | call name args =>
      rw [Expr.isSpellable, Bool.and_eq_true, Bool.and_eq_true] at spellable
      obtain ⟨⟨-, named⟩, argsSpellable⟩ := spellable
      intro rest more boundary lexes
      have argsLex := lexes_arguments noHeader args (pieces_exprs noHeader args argsSpellable) lexes
      have whole := piece_name k false named _ _ (boundary_cons _) argsLex
      simpa [printExpr, exprKinds, text_plain named] using whole

theorem pieces_exprs {k : Keyword} (noHeader : k ≠ .function) (es : List Expr) (spellable : areSpellable es = true) :
    ∀ e ∈ es, Piece k false (printExpr e) (exprKinds e) := by
  cases es with
  | nil => simp
  | cons e es =>
      rw [areSpellable, Bool.and_eq_true] at spellable
      have first := piece_expr noHeader e spellable.1
      have others := pieces_exprs noHeader es spellable.2
      intro e' member
      rcases List.mem_cons.mp member with rfl | member
      · exact first
      · exact others e' member

end

end ExScript
