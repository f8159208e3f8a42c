import Mathlib.Data.List.Forall2
import ExScript.Proofs.Token.Scanning

set_option autoImplicit false

namespace ExScript

def Commands (s : List Char) (ks : List TokenKind) : Prop :=
  ∀ offset, ∃ xs, scanCommand offset s = .ok xs ∧ xs.map Lexeme.kind = ks

theorem of_word?_name (k : Keyword) : Keyword.ofWord? k.name.toList = some k := by cases k <;> decide

theorem letters_name (k : Keyword) : k.name.toList.all isLetter = true := by cases k <;> decide

theorem commands_abbreviated {k : Keyword} {word rest : List Char} {ks : List TokenKind}
    (known : Keyword.ofWord? word = some k) (letters : word.all isLetter = true)
    (ends : ∀ c, rest.head? = some c → isLetter c = false) (lexes : Lexes k (k == .endfunction) rest ks) :
    Commands (word ++ rest) (.keyword k :: ks) := by
  intro offset
  obtain ⟨taken, left⟩ := take_while_piece letters ends
  obtain ⟨xs, read, same⟩ := lexes (offset + byteLength word)
  refine ⟨⟨.keyword k, word, offset⟩ :: xs, ?_, by rw [List.map_cons, same]⟩
  simp only [scanCommand, taken, left, known, read]
  rfl

theorem commands_keyword {k : Keyword} {rest : List Char} {ks : List TokenKind}
    (ends : ∀ c, rest.head? = some c → isLetter c = false) (lexes : Lexes k (k == .endfunction) rest ks) :
    Commands (k.name.toList ++ rest) (.keyword k :: ks) :=
  commands_abbreviated (of_word?_name k) (letters_name k) ends lexes

theorem drop_blanks_head {s : List Char} (noBlank : ∀ b, s.head? = some b → isBlank b = false) : dropBlanks s = s := by
  cases s with
  | nil => rfl
  | cons c s => rw [dropBlanks, List.dropWhile_cons_of_neg (by simp [noBlank c rfl])]

theorem drop_blanks_end_last {s : List Char} (noBlank : ∀ b, s.getLast? = some b → isBlank b = false) :
    dropBlanksEnd s = s := by
  have same := drop_blanks_head (s := s.reverse) (by simpa using noBlank)
  rw [dropBlanks] at same
  rw [dropBlanksEnd, same, List.reverse_reverse]

theorem scan_raw_arguments {args : String} (noBlankFirst : ∀ b, args.toList.head? = some b → isBlank b = false)
    (noBlankLast : ∀ b, args.toList.getLast? = some b → isBlank b = false) (offset : Nat) :
    (scanRaw offset (printArguments args)).map Lexeme.kind = argumentKinds args := by
  by_cases bare : args = ""
  · rw [bare]
    rfl
  · have filled : args.toList ≠ [] := by simpa using bare
    have trimmed : dropBlanksEnd (dropBlanks (' ' :: args.toList)) = args.toList := by
      rw [dropBlanks, List.dropWhile_cons_of_pos (by decide)]
      exact (congrArg dropBlanksEnd (drop_blanks_head noBlankFirst)).trans (drop_blanks_end_last noBlankLast)
    rw [printArguments, if_neg bare, argumentKinds, if_neg bare, scanRaw, trimmed]
    split
    · rename_i empty
      exact absurd empty filled
    · simp

theorem scan_arguments_printed {c : HostCommand} (printable : c.Printable) (offset : Nat) :
    (scanArguments offset (printBang c.bang ++ printArguments c.args)).map Lexeme.kind =
      bangKinds c.bang ++ argumentKinds c.args := by
  have raw := scan_raw_arguments printable.noBlankFirst printable.noBlankLast
  cases c.bang with
  | true => exact congrArg (List.cons _) (raw (offset + 1))
  | false =>
      rw [printBang, bangKinds, if_neg (by simp), if_neg (by simp), List.nil_append, List.nil_append]
      unfold scanArguments
      split
      · rename_i marked
        by_cases bare : c.args = "" <;> simp [printArguments, bare] at marked
      · exact raw offset

theorem not_letter_arguments (bang : Bool) (args : String) :
    ∀ c, (printBang bang ++ printArguments args).head? = some c → isLetter c = false := by
  intro c first
  by_cases bare : args = "" <;> cases bang <;> simp [printBang, printArguments, bare] at first <;>
    · rw [← first]
      decide

theorem commands_word {c : HostCommand} (printable : c.Printable) (filled : c.name ≠ "")
    (letters : c.name.toList.all isLetter = true) (noKeyword : Keyword.ofWord? c.name.toList = none) :
    Commands (c.name.toList ++ (printBang c.bang ++ printArguments c.args))
      (wordKinds c.name ++ (bangKinds c.bang ++ argumentKinds c.args)) := by
  intro offset
  obtain ⟨taken, left⟩ := take_while_piece letters (not_letter_arguments c.bang c.args)
  have word : c.name.toList.isEmpty = false := by simpa using filled
  have found : scanCommand offset (c.name.toList ++ (printBang c.bang ++ printArguments c.args)) =
      .ok (⟨.name none (String.ofList c.name.toList), c.name.toList, offset⟩ ::
        scanArguments (offset + byteLength c.name.toList) (printBang c.bang ++ printArguments c.args)) := by
    simp only [scanCommand, taken, left, noKeyword, word]
    rfl
  refine ⟨_, found, ?_⟩
  rw [List.map_cons, scan_arguments_printed printable, String.ofList_toList, wordKinds, if_neg filled]
  rfl

theorem is_letter_symbol {mark : Char} (known : isSymbolCommand mark = true) : isLetter mark = false := by
  have each : ['!', '&', '<', '>', '=', '@', '*', '~', '#'].all (fun c => !isLetter c) = true := rfl
  simpa using List.all_eq_true.mp each mark (List.contains_iff_mem.mp known)

theorem commands_symbol {c : HostCommand} (printable : c.Printable) {mark : Char}
    (known : isSymbolCommand mark = true) (named : c.name = String.ofList [mark]) (plain : c.bang = false) :
    Commands (c.name.toList ++ (printBang c.bang ++ printArguments c.args))
      (wordKinds c.name ++ (bangKinds c.bang ++ argumentKinds c.args)) := by
  intro offset
  have raw := scan_raw_arguments printable.noBlankFirst printable.noBlankLast (offset + 1)
  have noLetter := is_letter_symbol known
  have noWord : Keyword.ofWord? [] = none := by decide
  have found : scanCommand offset (mark :: printArguments c.args) =
      .ok (⟨.name none (String.ofList [mark]), [mark], offset⟩ :: scanRaw (offset + 1) (printArguments c.args)) := by
    simp [scanCommand, noLetter, noWord, scanSymbol, known]
  rw [named, plain, String.toList_ofList]
  refine ⟨_, found, ?_⟩
  rw [List.map_cons, raw]
  simp [wordKinds, bangKinds]

def leads (c : Char) : Bool := !isLineLead c && c != '"' && c != '\\'

def Leads (line : List Char) : Prop := ∃ c rest, line = c :: rest ∧ leads c = true

theorem leads_append {s : List Char} (lead : Leads s) (rest : List Char) : Leads (s ++ rest) := by
  obtain ⟨c, tail, rfl, starts⟩ := lead
  exact ⟨c, tail ++ rest, rfl, starts⟩

theorem leads_no_blank {c : Char} (lead : leads c = true) : isBlank c = false := by
  simp only [leads, isLineLead, Bool.and_eq_true, Bool.not_eq_true', Bool.or_eq_false_iff] at lead
  exact lead.1.1.1

theorem leads_printed {c : Char} (low : 33 ≤ c.toNat) (high : c.toNat ≤ 126) (noColon : c ≠ ':') (noQuote : c ≠ '"')
    (noSlash : c ≠ '\\') : leads c = true := by
  simp [leads, isLineLead, is_blank_printed low high, noColon, noQuote, noSlash]

theorem leads_letter {c : Char} (letter : isLetter c = true) : leads c = true := by
  have range := (is_letter_iff c).mp letter
  exact leads_printed (by omega) (by omega) (ne_of_class letter rfl) (ne_of_class letter rfl) (ne_of_class letter rfl)

theorem leads_range_char {c : Char} (ranged : isRangeChar c = true) : leads c = true := by
  rcases (Bool.or_eq_true _ _).mp ranged with digit | sign
  · have range := (is_decimal_digit_iff c).mp digit
    exact leads_printed (by omega) (by omega) (ne_of_class digit rfl) (ne_of_class digit rfl) (ne_of_class digit rfl)
  · have each : ['.', '$', '%', ',', ';', '+', '-'].all leads = true := rfl
    exact List.all_eq_true.mp each c (List.contains_iff_mem.mp sign)

theorem is_range_char_letter {c : Char} (letter : isLetter c = true) : isRangeChar c = false := by
  have noDigit : isDecimalDigit c = false := by
    have range := (is_letter_iff c).mp letter
    rw [Bool.eq_false_iff, Ne, is_decimal_digit_iff]
    omega
  have noSign : ['.', '$', '%', ',', ';', '+', '-'].contains c = false := by
    have each : ['.', '$', '%', ',', ';', '+', '-'].all (fun c => !isLetter c) = true := rfl
    rw [Bool.eq_false_iff]
    intro sign
    have noLetter := List.all_eq_true.mp each c (List.contains_iff_mem.mp sign)
    rw [letter] at noLetter
    cases noLetter
  rw [isRangeChar, noDigit, noSign]
  rfl

theorem scan_line_after {lead line range gap rest : List Char} (skipped : lead.all isLineLead = true)
    (starts : Leads line) (span : spanRange line = (range, gap ++ rest)) (blank : gap.all isBlank = true)
    (noBlank : ∀ b, rest.head? = some b → isBlank b = false) {ks : List TokenKind} (commands : Commands rest ks) :
    ∃ xs, scanLine (lead ++ line) = .ok xs ∧ xs.map Lexeme.kind =
      (if range.isEmpty then [] else [.range (String.ofList range)]) ++ (ks ++ [.endOfLine]) := by
  obtain ⟨c, tail, rfl, first⟩ := starts
  simp only [leads, Bool.and_eq_true, Bool.not_eq_true', bne_iff_ne] at first
  have ends : ∀ b, (c :: tail).head? = some b → isLineLead b = false := by
    rintro b ⟨⟩
    exact first.1.1
  obtain ⟨taken, whole⟩ := take_while_piece skipped ends
  obtain ⟨between, left⟩ := take_while_piece blank noBlank
  obtain ⟨xs, read, same⟩ := commands (byteLength lead + byteLength range + byteLength gap)
  refine ⟨(if range.isEmpty then [] else [⟨.range (String.ofList range), range, byteLength lead⟩]) ++ xs ++
      [⟨.endOfLine, [], byteLength (lead ++ c :: tail)⟩], ?_, ?_⟩
  · unfold scanLine
    rw [whole]
    split
    · rename_i empty
      cases empty
    · rename_i comment
      cases comment
      exact absurd rfl first.1.2
    · simp only [span, dropBlanks, taken, between, left, read]
      rfl
  · rw [List.map_append, List.map_append, same, List.append_assoc]
    split <;> rfl

theorem scan_line_leads {line : List Char} (lead : Leads line) {range rest : List Char}
    (span : spanRange line = (range, rest)) (noBlank : ∀ b, rest.head? = some b → isBlank b = false)
    {ks : List TokenKind} (commands : Commands rest ks) :
    ∃ xs, scanLine line = .ok xs ∧ xs.map Lexeme.kind =
      (if range.isEmpty then [] else [.range (String.ofList range)]) ++ (ks ++ [.endOfLine]) :=
  @scan_line_after [] line range [] rest rfl lead span rfl noBlank ks commands

theorem span_range_append (range : List Char) {rest : List Char} (ranged : isRangeText range = true)
    (ends : ∀ c, rest.head? = some c → isRangeChar c = false ∧ c ≠ '\'') :
    spanRange (range ++ rest) = (range, rest) := by
  fun_induction isRangeText range with
  | case1 =>
      cases rest with
      | nil => rfl
      | cons c rest =>
          obtain ⟨noRange, noQuote⟩ := ends c rfl
          rw [List.nil_append, spanRange]
          · simp [noRange]
          · exact fun _ _ same => absurd same noQuote
  | case2 mark range ih =>
      rw [List.cons_append, List.cons_append, spanRange, ih ((Bool.and_eq_true _ _).mp ranged).2]
  | case3 c range _ ih =>
      obtain ⟨rangeChar, others⟩ := (Bool.and_eq_true _ _).mp ranged
      rw [List.cons_append, spanRange]
      · rw [if_pos rangeChar, ih others]
      · exact fun _ _ same => absurd same (ne_of_class rangeChar rfl)

theorem leads_range {range : List Char} (filled : range ≠ []) (ranged : isRangeText range = true) : Leads range := by
  unfold isRangeText at ranged
  split at ranged
  · exact absurd rfl filled
  · exact ⟨_, _, rfl, by decide⟩
  · exact ⟨_, _, rfl, leads_range_char ((Bool.and_eq_true _ _).mp ranged).1⟩

theorem no_break_range {range : List Char} (ranged : isRangeText range = true) : '\n' ∉ range := by
  fun_induction isRangeText range with
  | case1 => simp
  | case2 mark range ih =>
      obtain ⟨noBreak, others⟩ := (Bool.and_eq_true _ _).mp ranged
      simpa using ⟨(bne_iff_ne.mp noBreak).symm, ih others⟩
  | case3 c range _ ih =>
      obtain ⟨rangeChar, others⟩ := (Bool.and_eq_true _ _).mp ranged
      have noBreak : c ≠ '\n' := ne_of_class rangeChar rfl
      simpa using ⟨noBreak.symm, ih others⟩

structure Prints (line : List Char) (ks : List TokenKind) : Prop where
  lead : Leads line
  noBreak : '\n' ∉ line
  noReturn : line.getLast? ≠ some '\r'
  filled : ks ≠ []
  scans : ∃ xs, scanLine line = .ok xs ∧ xs.map Lexeme.kind = ks

def opens (c : Char) : Bool := leads c && !isRangeChar c && c != '\''

theorem prints_ranged {range : Option String} (ranged : RangePrintable range) (rest : List Char) {ks : List TokenKind}
    (opening : ∀ c, rest.head? = some c → opens c = true) (filled : range = none → rest ≠ [])
    (noBreak : '\n' ∉ rest) (noReturn : (printRange range ++ rest).getLast? ≠ some '\r') (commands : Commands rest ks) :
    Prints (printRange range ++ rest) (rangeKinds range ++ (ks ++ [.endOfLine])) := by
  have facts : ∀ c, rest.head? = some c → leads c = true ∧ isRangeChar c = false ∧ c ≠ '\'' := by
    intro c first
    simpa [opens, and_assoc] using opening c first
  have noBlank : ∀ c, rest.head? = some c → isBlank c = false := fun c first => leads_no_blank (facts c first).1
  cases range with
  | none =>
      cases rest with
      | nil => exact absurd rfl (filled rfl)
      | cons c rest =>
          have lead : Leads (c :: rest) := ⟨c, rest, rfl, (facts c rfl).1⟩
          have span := span_range_append [] rfl fun c first => (facts c first).2
          exact ⟨lead, noBreak, noReturn, by simp, scan_line_leads lead span noBlank commands⟩
  | some text =>
      obtain ⟨nonempty, rangeText⟩ := ranged text rfl
      have filledText : text.toList ≠ [] := by simpa using nonempty
      have lead := leads_append (leads_range filledText rangeText) rest
      have span := span_range_append _ rangeText fun c first => (facts c first).2
      refine ⟨lead, ?_, noReturn, by simp, ?_⟩
      · simpa [printRange] using ⟨no_break_range rangeText, noBreak⟩
      · have scanned := scan_line_leads lead span noBlank commands
        rwa [if_neg (by simpa using filledText), String.ofList_toList] at scanned

def isClean (c : Char) : Bool := c != '\n' && c != '\r'

def Clean (s : List Char) : Prop := s.all isClean = true

theorem clean_append {s t : List Char} (first : Clean s) (second : Clean t) : Clean (s ++ t) := by
  rw [Clean, List.all_append, first, second]
  rfl

theorem clean_cons {c : Char} {s : List Char} (char : isClean c = true) (others : Clean s) : Clean (c :: s) := by
  rw [Clean, List.all_cons, char, others]
  rfl

theorem clean_of_class {p : Char → Bool} {s : List Char} (chars : s.all p = true) (noBreak : p '\n' = false)
    (noReturn : p '\r' = false) : Clean s := by
  rw [Clean, List.all_eq_true]
  intro c member
  have inClass := List.all_eq_true.mp chars c member
  rw [isClean, Bool.and_eq_true, bne_iff_ne, bne_iff_ne]
  exact ⟨ne_of_class inClass noBreak, ne_of_class inClass noReturn⟩

theorem clean_name {scope : Option Scope} {name : String} (named : isScopedName scope name = true) :
    Clean ((scopeMark scope).toList ++ name.toList) := by
  refine clean_append ?_ (clean_of_class (name_chars_of_is_scoped_name named) rfl rfl)
  cases scope with
  | none => rfl
  | some scope => cases scope <;> rfl

theorem clean_comma_separated (texts : List (List Char)) (clean : ∀ text ∈ texts, Clean text) :
    Clean (commaSeparated texts) := by
  induction texts with
  | nil => rfl
  | cons text texts ih =>
      have first := clean text (by simp)
      have others := ih fun other member => clean other (by simp [member])
      cases texts with
      | nil => simpa [commaSeparated] using first
      | cons next texts =>
          have tail := clean_cons (c := ',') (by decide) (clean_cons (c := ' ') (by decide) others)
          have whole := clean_append first tail
          simpa [commaSeparated] using whole

theorem clean_spaced (texts : List (List Char)) (clean : ∀ text ∈ texts, Clean text) : Clean (spaced texts) := by
  induction texts with
  | nil => rfl
  | cons text texts ih =>
      have others := ih fun other member => clean other (by simp [member])
      exact clean_cons (by decide) (clean_append (clean text (by simp)) others)

theorem clean_escape_char (c : Char) : Clean (escapeChar c) := by
  unfold escapeChar
  split
  · rfl
  · split
    · rfl
    · split
      · rfl
      · split
        · rfl
        · rename_i noBreak noReturn
          simp [Clean, isClean, noBreak, noReturn]

theorem clean_value (value : Value) (spellable : (Expr.literal value).isSpellable = true) :
    Clean (printValue value) := by
  cases value with
  | str s =>
      refine clean_cons (by decide) (clean_append ?_ rfl)
      rw [Clean, List.all_flatMap, List.all_eq_true]
      exact fun c _ => clean_escape_char c
  | num n =>
      rw [printValue, text_natural (of_decide_eq_true spellable)]
      exact clean_of_class (to_digits_is_decimal_digit _) rfl rfl

theorem clean_function_name {f : FunctionName} (printable : f.Printable) : Clean f.text.toList := by
  obtain ⟨-, first, keys, firstNamed, keysNamed, path⟩ := printable
  rw [path, text_of_path f.scope first keys (no_dot_of_name_chars (name_chars_of_is_scoped_name firstNamed))]
  refine clean_append (clean_name firstNamed) ?_
  rw [Clean, List.all_flatMap, List.all_eq_true]
  exact fun key member => clean_cons (by decide) (clean_of_class (name_chars_of_is_name (keysNamed key member)) rfl rfl)

mutual

theorem clean_expr (e : Expr) (spellable : e.isSpellable = true) : Clean (printExpr e) := by
  cases e with
  | literal value => exact clean_value value spellable
  | «variable» v =>
      rw [printExpr, Variable.text, String.toList_append]
      exact clean_name spellable
  | concat left right =>
      rw [Expr.isSpellable, Bool.and_eq_true] at spellable
      have first := clean_expr left spellable.1
      have second := clean_expr right spellable.2
      rw [printExpr]
      refine clean_append first (clean_cons (by decide) (clean_cons (by decide) (clean_cons (by decide) ?_)))
      split
      · exact clean_cons (by decide) (clean_append second rfl)
      · exact second
  | call name args =>
      rw [Expr.isSpellable, Bool.and_eq_true, Bool.and_eq_true] at spellable
      obtain ⟨⟨-, named⟩, argsSpellable⟩ := spellable
      rw [printExpr, text_plain named, String.toList_append]
      exact clean_append (clean_name named) (clean_cons (by decide)
        (clean_append (clean_comma_separated _ (clean_exprs args argsSpellable)) rfl))

theorem clean_exprs (es : List Expr) (spellable : areSpellable es = true) : ∀ text ∈ printExprs es, Clean text := by
  cases es with
  | nil => simp [printExprs]
  | cons e es =>
      rw [areSpellable, Bool.and_eq_true] at spellable
      have first := clean_expr e spellable.1
      have others := clean_exprs es spellable.2
      rw [printExprs]
      intro text member
      rcases List.mem_cons.mp member with rfl | member
      · exact first
      · exact others text member

end

theorem no_break_clean {s : List Char} (clean : Clean s) : '\n' ∉ s := by
  intro member
  exact absurd (List.all_eq_true.mp clean '\n' member) (by decide)

theorem no_return_clean {s : List Char} (clean : Clean s) : s.getLast? ≠ some '\r' := by
  intro last
  exact absurd (List.all_eq_true.mp clean '\r' (List.mem_of_getLast? last)) (by decide)

theorem get_last?_append_filled {s t : List Char} (filled : t ≠ []) : (s ++ t).getLast? = t.getLast? := by
  rw [List.getLast?_append, List.getLast?_eq_some_getLast filled]
  rfl

theorem opens_letter {c : Char} (letter : isLetter c = true) : opens c = true := by
  have noQuote : c ≠ '\'' := ne_of_class letter rfl
  simp [opens, leads_letter letter, is_range_char_letter letter, noQuote]

theorem prints_keyword (range : Option String) (ranged : RangePrintable range) {k : Keyword} {tail : List Char}
    {ks : List TokenKind} (ends : ∀ c, tail.head? = some c → isLetter c = false) (clean : Clean tail)
    (lexes : Lexes k (k == .endfunction) tail ks) :
    Prints (printRange range ++ (k.name.toList ++ tail)) (rangeKinds range ++ .keyword k :: (ks ++ [.endOfLine])) := by
  have filled : k.name.toList ++ tail ≠ [] := by cases k <;> simp [Keyword.name]
  have whole := clean_append (clean_of_class (letters_name k) rfl rfl) clean
  refine prints_ranged ranged _ ?_ (fun _ => filled) (no_break_clean whole) ?_ (commands_keyword ends lexes)
  · intro c first
    apply opens_letter
    cases k <;> cases first <;> decide
  · rw [get_last?_append_filled filled]
    exact no_return_clean whole

theorem prints_plain {k : Keyword} {tail : List Char} {ks : List TokenKind}
    (ends : ∀ c, tail.head? = some c → isLetter c = false) (clean : Clean tail)
    (lexes : Lexes k (k == .endfunction) tail ks) :
    Prints (k.name.toList ++ tail) (.keyword k :: (ks ++ [.endOfLine])) :=
  prints_keyword none (fun _ absent => by cases absent) ends clean lexes

theorem lexes_print_bang {k : Keyword} {closed : Bool} (bang : Bool) {rest : List Char} {ks : List TokenKind}
    (lexes : Lexes k closed rest ks) : Lexes k closed (printBang bang ++ rest) (bangKinds bang ++ ks) := by
  cases bang with
  | true => exact lexes_sign .bang lexes
  | false => exact lexes

theorem clean_print_bang (bang : Bool) : Clean (printBang bang) := by cases bang <;> rfl

theorem not_letter_print_bang (bang : Bool) (rest : List Char) :
    ∀ c, (printBang bang ++ ' ' :: rest).head? = some c → isLetter c = false := by
  intro c first
  cases bang <;> cases first <;> decide

theorem not_letter_space (rest : List Char) : ∀ c, (' ' :: rest).head? = some c → isLetter c = false := by
  rintro c ⟨⟩
  decide

theorem prints_echo (exprs : List Expr) (printable : ∀ e ∈ exprs, e.Printable) :
    Prints (Keyword.echo.name.toList ++ spaced (printExprs exprs))
      (.keyword .echo :: ((exprsKinds exprs).flatten ++ [.endOfLine])) := by
  have spellable := are_spellable_of_mem exprs fun e member => (printable e member).1
  have pieces := pieces_exprs (k := .echo) (by simp) exprs spellable
  refine prints_plain ?_ (clean_spaced _ (clean_exprs exprs spellable)) ?_
  · intro c first
    cases exprs <;> cases first
    decide
  · rw [print_exprs_eq, exprs_kinds_eq]
    exact lexes_of_piece (piece_spaced printExpr exprKinds exprs pieces)

theorem prints_return {value : Expr} (printable : value.Printable) :
    Prints (Keyword.return.name.toList ++ ' ' :: printExpr value)
      (.keyword .return :: (exprKinds value ++ [.endOfLine])) := by
  have lexes := lexes_of_piece (piece_expr (k := .return) (by simp) value printable.1)
  exact prints_plain (not_letter_space _) (clean_cons (by decide) (clean_expr value printable.1)) (lexes_space lexes)

theorem lexes_assign_op {k : Keyword} (op : AssignOp) {rest : List Char} {ks : List TokenKind}
    (lexes : Lexes k false rest ks) : Lexes k false (printAssignOp op ++ rest) (assignOpKind op :: ks) := by
  cases op with
  | assign => exact lexes_sign .equals lexes
  | append => exact lexes_sign .dotEquals lexes

theorem prints_let {target : Variable} (named : isScopedName target.scope target.name = true) (op : AssignOp)
    {value : Expr} (printable : value.Printable) :
    Prints (Keyword.let.name.toList ++
        ' ' :: (target.text.toList ++ ' ' :: (printAssignOp op ++ ' ' :: printExpr value)))
      (.keyword .let :: .name target.scope target.name :: assignOpKind op :: (exprKinds value ++ [.endOfLine])) := by
  have lexes := lexes_of_piece (piece_expr (k := .let) (by simp) value printable.1)
  have assigned := lexes_space (lexes_assign_op op (lexes_space lexes))
  have cleanOp : Clean (printAssignOp op) := by cases op <;> rfl
  rw [Variable.text, String.toList_append]
  refine prints_plain (not_letter_space _) ?_ (lexes_space
    (piece_name .let false named _ _ (boundary_cons _) assigned))
  exact clean_cons (by decide) (clean_append (clean_name named) (clean_cons (by decide)
    (clean_append cleanOp (clean_cons (by decide) (clean_expr value printable.1)))))

theorem prints_unlet (bang : Bool) (targets : List Variable) (filled : targets ≠ [])
    (named : ∀ v ∈ targets, isScopedName v.scope v.name = true) :
    Prints (Keyword.unlet.name.toList ++ (printBang bang ++ spaced (targets.map fun v => v.text.toList)))
      (.keyword .unlet :: (bangKinds bang ++ ((targets.map fun v => .name v.scope v.name) ++ [.endOfLine]))) := by
  have pieces : ∀ v ∈ targets, Piece .unlet false v.text.toList [.name v.scope v.name] := by
    intro v member
    rw [Variable.text, String.toList_append]
    exact piece_name .unlet false (named v member)
  have lexes := lexes_of_piece (piece_spaced _ (fun v : Variable => [.name v.scope v.name]) targets pieces)
  rw [← List.flatMap_def, ← List.map_eq_flatMap] at lexes
  rw [← List.append_assoc (bangKinds bang)]
  refine prints_plain ?_ (clean_append (clean_print_bang bang) (clean_spaced _ ?_)) (lexes_print_bang bang lexes)
  · cases targets with
    | nil => exact absurd rfl filled
    | cons v targets => exact not_letter_print_bang bang _
  · intro text member
    obtain ⟨v, listed, rfl⟩ := List.mem_map.mp member
    rw [Variable.text, String.toList_append]
    exact clean_name (named v listed)

theorem prints_call {range : Option String} (ranged : RangePrintable range) {name : FunctionName}
    (named : name.Printable) (args : List Expr) (printable : ∀ e ∈ args, e.Printable) :
    Prints (printRange range ++ (Keyword.call.name.toList ++
        ' ' :: (name.text.toList ++ '(' :: (commaSeparated (printExprs args) ++ [')']))))
      (rangeKinds range ++ .keyword .call :: (nameKinds name ++
        .leftParen :: ([.comma].intercalate (exprsKinds args) ++ [.rightParen, .endOfLine]))) := by
  have spellable := are_spellable_of_mem args fun e member => (printable e member).1
  have argsLex := lexes_arguments (k := .call) (by simp) args (pieces_exprs (by simp) args spellable) (lexes_nil _ _)
  have lexes := piece_function_name named _ _ (boundary_cons _) argsLex
  have line := prints_keyword range ranged (not_letter_space _) ?_ (lexes_space lexes)
  · simpa using line
  · exact clean_cons (by decide) (clean_append (clean_function_name named) (clean_cons (by decide)
      (clean_append (clean_comma_separated _ (clean_exprs args spellable)) rfl)))

theorem prints_delfunction (bang : Bool) {name : FunctionName} (named : name.Printable) :
    Prints (Keyword.delfunction.name.toList ++ (printBang bang ++ ' ' :: name.text.toList))
      (.keyword .delfunction :: (bangKinds bang ++ (nameKinds name ++ [.endOfLine]))) := by
  rw [← List.append_assoc (bangKinds bang)]
  refine prints_plain (not_letter_print_bang bang _) ?_
    (lexes_print_bang bang (lexes_space (lexes_of_piece (piece_function_name named))))
  exact clean_append (clean_print_bang bang) (clean_cons (by decide) (clean_function_name named))

theorem piece_word {k : Keyword} (closed : Bool) {word : String} (named : isName word = true) :
    Piece k closed word.toList [.name none word] := by
  have piece := piece_name k closed (show isScopedName none word = true from named)
  simpa [scopeMark] using piece

theorem clean_word {word : String} (named : isName word = true) : Clean word.toList :=
  clean_of_class (name_chars_of_is_name named) rfl rfl

theorem is_name_flag (flag : Flag) : isName flag.word = true := by cases flag <;> rfl

theorem lexes_flags (flags : List Flag) :
    Lexes .function true (spaced (flags.map fun flag => flag.word.toList))
      (flags.map fun flag => .name none flag.word) := by
  have pieces : ∀ flag ∈ flags, Piece .function true flag.word.toList [.name none flag.word] :=
    fun flag _ => piece_word true (is_name_flag flag)
  have lexes := lexes_of_piece (piece_spaced _ (fun flag : Flag => [.name none flag.word]) flags pieces)
  rwa [← List.flatMap_def, ← List.map_eq_flatMap] at lexes

theorem prints_header {header : FunctionHeader} (named : header.name.Printable)
    (params : ∀ param ∈ header.params, isName param = true) : Prints (printHeader header) (headerKinds header) := by
  have closed : Lexes .function false (')' :: spaced _) _ := lexes_right_paren (lexes_flags header.flags.toList)
  have inside := piece_comma_separated String.toList (fun param => [.name none param]) header.params
    (fun param member => piece_word false (params param member)) _ _ (boundary_cons _) closed
  have opened := lexes_sign .leftParen inside
  rw [List.singleton_append] at opened
  have lexes := piece_function_name named _ _ (boundary_cons _) opened
  have line := prints_plain (not_letter_print_bang header.replace _) ?_
    (lexes_print_bang header.replace (lexes_space lexes))
  · simpa [headerKinds, printHeader] using line
  · refine clean_append (clean_print_bang _) (clean_cons (by decide) (clean_append (clean_function_name named)
      (clean_cons (by decide) (clean_append (clean_comma_separated _ ?_) (clean_cons (by decide) (clean_spaced _ ?_))))))
    · intro text member
      obtain ⟨param, listed, rfl⟩ := List.mem_map.mp member
      exact clean_word (params param listed)
    · intro text member
      obtain ⟨flag, -, rfl⟩ := List.mem_map.mp member
      exact clean_word (is_name_flag flag)

theorem prints_endfunction : Prints Keyword.endfunction.name.toList [.keyword .endfunction, .endOfLine] := by
  have line : Prints (_ ++ []) _ := prints_plain (by simp) rfl (lexes_nil .endfunction true)
  rwa [List.append_nil] at line

theorem opens_symbol {mark : Char} (known : isSymbolCommand mark = true) : opens mark = true := by
  have each : ['!', '&', '<', '>', '=', '@', '*', '~', '#'].all opens = true := rfl
  exact List.all_eq_true.mp each mark (List.contains_iff_mem.mp known)

theorem print_arguments_no_break {c : HostCommand} (printable : c.Printable) :
    '\n' ∉ printBang c.bang ++ printArguments c.args := by
  have noBreak := printable.noBreak
  by_cases bare : c.args = "" <;> cases c.bang <;> simp [printBang, printArguments, bare, noBreak]

theorem print_arguments_no_return {c : HostCommand} (printable : c.Printable) :
    (printBang c.bang ++ printArguments c.args).getLast? ≠ some '\r' := by
  by_cases bare : c.args = ""
  · cases c.bang <;> simp [printBang, printArguments, bare]
  · have filled : c.args.toList ≠ [] := by simpa using bare
    intro last
    have shape : printBang c.bang ++ printArguments c.args = (printBang c.bang ++ [' ']) ++ c.args.toList := by
      simp [printArguments, bare]
    rw [shape, get_last?_append_filled filled] at last
    exact absurd (printable.noBlankLast _ last) (by decide)

-- The last character of a named command is that of its arguments, of its bang or of its name.
theorem prints_named {c : HostCommand} (printable : c.Printable) {first : Char} {others : List Char}
    (named : c.name.toList = first :: others) (opening : opens first = true) (clean : Clean c.name.toList)
    (commands : Commands (c.name.toList ++ (printBang c.bang ++ printArguments c.args))
      (wordKinds c.name ++ (bangKinds c.bang ++ argumentKinds c.args))) :
    Prints (printCommand c) (commandKinds c) := by
  have filled : c.name.toList ++ (printBang c.bang ++ printArguments c.args) ≠ [] := by simp [named]
  have line := prints_ranged printable.range (c.name.toList ++ (printBang c.bang ++ printArguments c.args))
    ?_ (fun _ => filled) ?_ ?_ commands
  · simpa [printCommand, commandKinds, unrangedKinds] using line
  · rw [named]
    rintro c' ⟨⟩
    exact opening
  · rw [List.mem_append, not_or]
    exact ⟨no_break_clean clean, print_arguments_no_break printable⟩
  · rw [get_last?_append_filled filled]
    by_cases short : printBang c.bang ++ printArguments c.args = []
    · rw [short, List.append_nil]
      exact no_return_clean clean
    · rw [get_last?_append_filled short]
      exact print_arguments_no_return printable

theorem prints_command {c : HostCommand} (printable : c.Printable) : Prints (printCommand c) (commandKinds c) := by
  cases printable.name with
  | word filled letters noKeyword =>
      cases spelled : c.name.toList with
      | nil => exact absurd (by simpa using spelled) filled
      | cons first others =>
          have letter := (Bool.and_eq_true _ _).mp (spelled ▸ letters)
          exact prints_named printable spelled (opens_letter letter.1) (clean_of_class letters rfl rfl)
            (commands_word printable filled letters noKeyword)
  | symbol mark known named plain =>
      have spelled : c.name.toList = [mark] := by rw [named, String.toList_ofList]
      refine prints_named printable spelled (opens_symbol known) ?_ (commands_symbol printable known named plain)
      rw [spelled]
      exact clean_of_class (p := isSymbolCommand) (by simp [known]) (by decide) (by decide)
  | jump text ranged named plain bare kept =>
      have noWord : Keyword.ofWord? [] = none := by decide
      have commands : Commands [] [] := fun offset => ⟨[], by simp [scanCommand, noWord, scanSymbol], rfl⟩
      have line := prints_ranged printable.range [] (by simp) (by simp [ranged]) (by simp)
        (by simpa [printRange, ranged] using kept) commands
      simpa [printCommand, commandKinds, unrangedKinds, wordKinds, argumentKinds, bangKinds, printArguments, printBang,
        named, plain, bare] using line

mutual

theorem prints_statement (s : Statement) (printable : s.Printable) :
    List.Forall₂ Prints (printStatement s) (statementKinds s) := by
  cases s with
  | function header body =>
      obtain ⟨named, params, -, bodyPrintable⟩ := printable
      refine .cons (prints_header named params) (List.rel_append (prints_statements body bodyPrintable) ?_)
      exact .cons prints_endfunction .nil
  | echo exprs => exact .cons (prints_echo exprs printable.2) .nil
  | «return» value => exact .cons (prints_return printable) .nil
  | assign target op value => exact .cons (prints_let printable.1 op printable.2) .nil
  | unlet bang targets => exact .cons (prints_unlet bang targets printable.1 printable.2) .nil
  | call range name args => exact .cons (prints_call printable.1 printable.2.1 args printable.2.2) .nil
  | delfunction bang name => exact .cons (prints_delfunction bang printable) .nil
  | command c => exact .cons (prints_command printable) .nil

theorem prints_statements (statements : List Statement) (printable : AllPrintable statements) :
    List.Forall₂ Prints (printStatements statements) (statementsKinds statements) := by
  cases statements with
  | nil => exact .nil
  | cons s statements =>
      exact List.rel_append (prints_statement s printable.1) (prints_statements statements printable.2)

end

end ExScript
