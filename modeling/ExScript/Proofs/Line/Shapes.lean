import ExScript.Proofs.Expr.Grammar
import ExScript.Proofs.Statement.Spelling
import ExScript.Proofs.Token.Tiling

set_option autoImplicit false

namespace ExScript

def TokenKind.isSpellable : TokenKind → Bool
  | .name scope word => isScopedName scope word
  | .number n => decide (0 ≤ n.toInt)
  | _ => true

def Spelled (ks : List TokenKind) : Prop := ∀ kind ∈ ks, kind.isSpellable = true

-- Only a range alone is a command without a name.
structure HostCommand.WellFormed (c : HostCommand) : Prop where
  range : c.range ≠ some ""
  noKeyword : Keyword.ofWord? c.name.toList = none
  noBlankFirst : ∀ b, c.args.toList.head? = some b → isBlank b = false
  noBlankLast : ∀ b, c.args.toList.getLast? = some b → isBlank b = false
  nameless : c.name = "" → c.range.isSome = true ∧ c.bang = false ∧ c.args = ""

inductive LineShape : List TokenKind → Prop
  | keyword {range : Option String} (k : Keyword) {ks : List TokenKind} (ranged : range ≠ some "")
      (spelled : Spelled ks) : LineShape (rangeKinds range ++ .keyword k :: (ks ++ [.endOfLine]))
  | command (c : HostCommand) (formed : c.WellFormed) : LineShape (commandKinds c)

section

variable {c : Char} {rest : List Char}

theorem scan_number_spellable (c : Char) (rest : List Char) : (scanNumber c rest).kind.isSpellable = true := by
  rw [scanNumber, TokenKind.isSpellable, saturate_to_int]
  exact decide_eq_true (Int.natCast_nonneg _)

theorem scan_plain_name_spellable (starts : isNameStart c = true) :
    (scanPlainName c rest).kind.isSpellable = true := by
  rw [scanPlainName, TokenKind.isSpellable, isScopedName, isName, String.toList_ofList]
  dsimp only
  rw [starts, List.all_takeWhile]
  rfl

theorem scan_name_spellable (starts : isNameStart c = true) : (scanName c rest).kind.isSpellable = true := by
  unfold scanName
  split
  · rename_i d tail
    split
    · rename_i scope _ chars
      simp [TokenKind.isSpellable, isScopedName, chars]
    · exact scan_plain_name_spellable starts
  · exact scan_plain_name_spellable starts

theorem scan_string_spellable {quote : Char} {body : Option (StringBody rest)} {t : Scanned (quote :: rest)}
    (scanned : scanString quote body = .ok t) : t.kind.isSpellable = true := by
  cases body with
  | none => cases scanned
  | some b =>
      cases scanned
      rfl

theorem scan_token_spellable {t : Scanned (c :: rest)} (scanned : scanToken c rest = .ok t) :
    t.kind.isSpellable = true := by
  unfold scanToken at scanned
  split at scanned
  · exact scan_string_spellable scanned
  · exact scan_string_spellable scanned
  case h_12 =>
    split at scanned
    · cases scanned
      exact scan_number_spellable _ _
    · split at scanned
      · rename_i starts
        cases scanned
        exact scan_name_spellable starts
      · cases scanned
  all_goals
    cases scanned
    try rfl

theorem scan_expression_spellable {k : Keyword} {closed : Bool} {offset : Nat} {s : List Char} {xs : List Lexeme}
    (scanned : scanExpression k closed offset s = .ok xs) : Spelled (xs.map Lexeme.kind) := by
  fun_induction scanExpression k closed offset s generalizing xs with
  | case1 closed offset =>
      cases scanned
      simp [Spelled]
  | case2 closed offset c rest blank ih => exact ih scanned
  | case3 closed offset c rest _ comment =>
      cases scanned
      simp [Spelled]
  | case4 => cases scanned
  | case5 closed offset c rest _ _ t found closed' =>
      rename_i ih
      obtain ⟨more, read, done⟩ := bind_eq_ok scanned
      cases done
      intro kind member
      rcases List.mem_cons.mp member with rfl | later
      · exact scan_token_spellable found
      · exact ih read kind later

end

def trimmed (s : List Char) : List Char := dropBlanksEnd (dropBlanks s)

theorem drop_blanks_first {s : List Char} {b : Char} (first : (dropBlanks s).head? = some b) : isBlank b = false := by
  have noBlank := List.head?_dropWhile_not isBlank s
  rw [dropBlanks] at first
  rw [first] at noBlank
  simpa using noBlank

theorem trimmed_first (s : List Char) (b : Char) (first : (trimmed s).head? = some b) : isBlank b = false := by
  rw [trimmed] at first
  apply drop_blanks_first (s := s)
  rw [← drop_blanks_end_append (dropBlanks s), List.head?_append, first]
  rfl

theorem trimmed_last (s : List Char) (b : Char) (last : (trimmed s).getLast? = some b) : isBlank b = false := by
  rw [trimmed, dropBlanksEnd, List.getLast?_reverse] at last
  exact drop_blanks_first last

theorem scan_raw_kinds (offset : Nat) (s : List Char) :
    (scanRaw offset s).map Lexeme.kind = argumentKinds (String.ofList (trimmed s)) := by
  unfold scanRaw argumentKinds trimmed
  split
  · rename_i nothing
    rw [nothing]
    rfl
  · rename_i filled
    rw [if_neg]
    · rfl
    · intro empty
      exact filled (by simpa using congrArg String.toList empty)

theorem scan_arguments_kinds (offset : Nat) (s : List Char) :
    ∃ bang tail, (scanArguments offset s).map Lexeme.kind =
      bangKinds bang ++ argumentKinds (String.ofList (trimmed tail)) := by
  unfold scanArguments
  split
  · rename_i rest
    exact ⟨true, rest, by rw [List.map_cons, scan_raw_kinds]; rfl⟩
  · exact ⟨false, s, scan_raw_kinds offset s⟩

section

variable {range : Option String} {s : List Char}

theorem command_shape {name : String} (filled : name ≠ "") (noKeyword : Keyword.ofWord? name.toList = none)
    (ranged : range ≠ some "") (bang : Bool) (tail : List Char) :
    LineShape (rangeKinds range ++
      (.name none name :: (bangKinds bang ++ argumentKinds (String.ofList (trimmed tail))) ++ [.endOfLine])) := by
  have shape := LineShape.command ⟨range, name, bang, String.ofList (trimmed tail)⟩
    ⟨ranged, noKeyword, by simpa using trimmed_first tail, by simpa using trimmed_last tail,
      fun nameless => absurd nameless filled⟩
  simpa [commandKinds, unrangedKinds, wordKinds, filled] using shape

theorem symbol_no_keyword {c : Char} (symbol : isSymbolCommand c = true) : Keyword.ofWord? [c] = none := by
  have each : ['!', '&', '<', '>', '=', '@', '*', '~', '#'].all (fun c => (Keyword.ofWord? [c]).isNone) = true := rfl
  exact Option.isNone_iff_eq_none.mp (List.all_eq_true.mp each c (List.contains_iff_mem.mp symbol))

theorem scan_symbol_shape {offset : Nat} {xs : List Lexeme} (scanned : scanSymbol offset s = .ok xs)
    (ranged : range ≠ some "") (something : s = [] → range.isSome = true) :
    LineShape (rangeKinds range ++ (xs.map Lexeme.kind ++ [.endOfLine])) := by
  cases s with
  | nil =>
      cases scanned
      exact .command ⟨range, "", false, ""⟩
        ⟨ranged, rfl, by simp, by simp, fun _ => ⟨something rfl, rfl, rfl⟩⟩
  | cons c rest =>
      rw [scanSymbol] at scanned
      split at scanned
      · rename_i symbol
        cases scanned
        rw [List.map_cons, scan_raw_kinds]
        have named : Keyword.ofWord? (String.ofList [c]).toList = none := by
          rw [String.toList_ofList]
          exact symbol_no_keyword symbol
        exact command_shape (fun empty => by simpa using congrArg String.toList empty) named ranged false rest
      · cases scanned

theorem scan_command_shape {offset : Nat} {xs : List Lexeme} (scanned : scanCommand offset s = .ok xs)
    (ranged : range ≠ some "") (something : s = [] → range.isSome = true) :
    LineShape (rangeKinds range ++ (xs.map Lexeme.kind ++ [.endOfLine])) := by
  unfold scanCommand at scanned
  dsimp only at scanned
  split at scanned
  · rename_i k known
    obtain ⟨more, read, done⟩ := bind_eq_ok scanned
    cases done
    exact .keyword k ranged (scan_expression_spellable read)
  · rename_i unknown
    split at scanned
    · exact scan_symbol_shape scanned ranged something
    · rename_i filled
      cases scanned
      obtain ⟨bang, tail, spelled⟩ :=
        scan_arguments_kinds (offset + byteLength (s.takeWhile isLetter)) (s.dropWhile isLetter)
      rw [List.map_cons, spelled]
      refine command_shape (fun empty => filled ?_) ?_ ranged bang tail
      · simpa using congrArg String.toList empty
      · rw [String.toList_ofList]
        exact unknown

theorem scan_line_shape {xs : List Lexeme} (scanned : scanLine s = .ok xs) (filled : xs ≠ []) :
    LineShape (xs.map Lexeme.kind) := by
  unfold scanLine at scanned
  split at scanned
  · cases scanned
    exact absurd rfl filled
  · cases scanned
    exact absurd rfl filled
  · rename_i nonempty _
    obtain ⟨command, read, done⟩ := bind_eq_ok scanned
    cases done
    have whole := span_range_covers (s.dropWhile isLineLead)
    by_cases bare : (spanRange (s.dropWhile isLineLead)).1 = []
    · rw [bare, List.nil_append] at whole
      have something : dropBlanks (spanRange (s.dropWhile isLineLead)).2 = [] → (none : Option String).isSome = true := by
        intro nothing
        rw [whole, drop_blanks_body] at nothing
        exact absurd nothing nonempty
      simpa [bare, rangeKinds] using scan_command_shape read (by simp) something
    · have ranged : some (String.ofList (spanRange (s.dropWhile isLineLead)).1) ≠ some "" :=
        fun empty => bare (by simpa using congrArg String.toList (Option.some.inj empty))
      simpa [bare, rangeKinds] using scan_command_shape read ranged fun _ => rfl

theorem lex_lines_shape {source : List Char} {line : LexedLine} {tokens : List Token} (listed : line ∈ lexLines source)
    (lexed : line.tokens = .ok tokens) : LineShape (kinds tokens) := by
  obtain ⟨l, -, cut⟩ := List.mem_filterMap.mp listed
  unfold LogicalLine.lexed? at cut
  split at cut
  · cases cut
  · rename_i filled
    cases cut
    obtain ⟨xs, scanned, rfl⟩ := tokens_scanned lexed
    rw [kinds, token_kinds]
    refine scan_line_shape scanned fun nothing => ?_
    rw [nothing] at lexed
    exact filled lexed

end

end ExScript
