import ExScript.Proofs.Line.Listing
import ExScript.Proofs.Script.ErrorPlaces
import ExScript.Proofs.Script.Layout
import ExScript.Proofs.Script.Modes
import ExScript.Proofs.Script.Spacing
import ExScript.Proofs.Statement.WellFormed

set_option autoImplicit false

namespace ExScript

section

variable {gap rest s : List Char} {words : List String}

theorem split_words_gap (blank : gap.all isBlank = true) (offset : Nat) (s : List Char) :
    splitWords offset (gap ++ s) = splitWords (offset + byteLength gap) s := by
  induction gap generalizing offset with
  | nil => rfl
  | cons c gap ih =>
      obtain ⟨first, others⟩ := (Bool.and_eq_true _ _).mp blank
      rw [List.cons_append, splitWords, if_pos first, ih others, byteLength, Nat.add_assoc]

theorem split_words_blanks (blank : gap.all isBlank = true) (offset : Nat) : splitWords offset gap = [] := by
  have skipped := split_words_gap blank offset []
  rwa [List.append_nil, splitWords] at skipped

theorem split_words_trailing (blank : gap.all isBlank = true) (offset : Nat) (s : List Char) :
    splitWords offset (s ++ gap) = splitWords offset s := by
  induction s generalizing offset with
  | nil => exact split_words_blanks blank offset
  | cons c s ih => rw [List.cons_append, splitWords, splitWords, ih]

theorem split_words_first {c : Char} (noBlank : isBlank c = false) (offset : Nat) (rest : List Char) :
    ∃ word more, splitWords offset (c :: rest) = (offset, c :: word) :: more := by
  rw [splitWords, if_neg (by simp [noBlank])]
  cases splitWords (offset + c.utf8Size) rest with
  | nil => exact ⟨[], [], rfl⟩
  | cons first more =>
      obtain ⟨start, word⟩ := first
      dsimp only
      split
      · exact ⟨word, more, rfl⟩
      · exact ⟨[], _, rfl⟩

-- Behind a blank the next word starts further on, so it is not joined to the one before.
theorem split_words_apart (parted : Parted rest) {offset start : Nat} {word : List Char}
    (member : (start, word) ∈ splitWords offset rest) : start ≠ offset := by
  cases rest with
  | nil => cases member
  | cons b rest =>
      rw [splitWords, if_pos (parted_first parted rfl)] at member
      obtain ⟨-, before, -, -, placed⟩ := split_words_stand member
      have wide := b.utf8Size_pos
      omega

theorem split_words_word (parted : Parted rest) {c : Char} {word : List Char}
    (noBlank : ∀ d ∈ c :: word, isBlank d = false) (offset : Nat) :
    splitWords offset (c :: (word ++ rest)) =
      (offset, c :: word) :: splitWords (offset + byteLength (c :: word)) rest := by
  induction word generalizing c offset with
  | nil =>
      rw [splitWords, if_neg (by simp [noBlank c]), List.nil_append]
      cases words : splitWords (offset + c.utf8Size) rest with
      | nil => exact congrArg _ words.symm
      | cons first more =>
          have apart := @split_words_apart rest parted (offset + c.utf8Size) first.1 first.2 (by simp [words])
          dsimp only
          rw [if_neg apart]
          exact congrArg _ words.symm
  | cons d word ih =>
      have others := @ih d (fun e member => noBlank e (List.mem_cons_of_mem c member)) (offset + c.utf8Size)
      rw [splitWords, if_neg (by simp [noBlank c]), List.cons_append, others]
      dsimp only
      rw [if_pos rfl, byteLength, byteLength, Nat.add_assoc]
      rfl

theorem listed_words (listed : Listed words s) (offset : Nat) :
    ((splitWords offset s).takeWhile fun (_, word) => word.head? != some '"').map
      (fun (_, word) => String.ofList word) = words := by
  induction listed generalizing offset with
  | blanks blank =>
      rw [split_words_blanks blank]
      rfl
  | comment note blank =>
      rw [split_words_gap blank]
      obtain ⟨word, more, first⟩ := @split_words_first '"' rfl (offset + byteLength _) note
      rw [first]
      rfl
  | word blank named others parted ih =>
      obtain ⟨c, name, rfl, starts, chars⟩ := is_name_cases named
      have noBlank : ∀ d ∈ c :: name, isBlank d = false := by
        intro d member
        rcases List.mem_cons.mp member with rfl | member
        · exact is_blank_of_is_name_start starts
        · obtain ⟨low, high⟩ := is_name_char_range (List.all_eq_true.mp chars d member)
          exact is_blank_printed low high
      have noQuote : c ≠ '"' := ne_of_class starts rfl
      rw [split_words_gap blank, String.toList_ofList, List.cons_append, split_words_word parted noBlank,
        List.takeWhile_cons_of_pos (by simpa using noQuote), List.map_cons, ih]

theorem listed_drop_blanks (listed : Listed words s) : Listed words (dropBlanks s) := by
  unfold dropBlanks
  cases listed with
  | blanks blank =>
      have left := (@take_while_piece isBlank s [] blank (by simp)).2
      rw [List.append_nil] at left
      rw [left]
      exact .blanks rfl
  | comment note blank =>
      rw [(take_while_piece blank (by rintro c ⟨⟩; rfl)).2]
      exact @Listed.comment [] note rfl
  | @word gap rest word words blank named others parted =>
      have starts : ∀ c, (word.toList ++ rest).head? = some c → isBlank c = false := by
        obtain ⟨d, name, rfl, starts, -⟩ := is_name_cases named
        rw [String.toList_ofList]
        rintro c ⟨⟩
        exact is_blank_of_is_name_start starts
      rw [(take_while_piece blank starts).2]
      exact @Listed.word [] rest word words rfl named others parted

theorem words_of_listed (listed : Listed words s) : wordsOf (String.ofList (trimmed s)) = words := by
  have blank : ((dropBlanks s).reverse.takeWhile isBlank).reverse.all isBlank = true := by
    rw [List.all_reverse, List.all_takeWhile]
  have whole := split_words_trailing blank 0 (dropBlanksEnd (dropBlanks s))
  rw [drop_blanks_end_append] at whole
  rw [wordsOf, String.toList_ofList, trimmed, ← whole]
  exact listed_words (listed_drop_blanks listed) 0

end

theorem of_word?_iff {word : String} {flag : Flag} : Flag.ofWord? word = some flag ↔ flag.word = word := by
  constructor
  · intro known
    unfold Flag.ofWord? at known
    split_ifs at known with same same same same <;> cases known <;> exact same.symm
  · rintro rfl
    exact of_word?_word flag

-- The flags that words name are the words, unless one of them is none; then the first such is blamed.
theorem flags_of_words_cases (found : List (String × Position)) :
    (∃ flags, flagsOfWords found = .ok flags ∧ (∀ f, flags.contains f = true ↔ f.word ∈ found.map Prod.fst) ∧
      ∀ word ∈ found.map Prod.fst, (Flag.ofWord? word).isSome = true) ∨
    ∃ place word, flagsOfWords found = .error (.unknownFlag place word) ∧
      (found.map Prod.fst).find? (fun word => (Flag.ofWord? word).isNone) = some word := by
  induction found with
  | nil => exact .inl ⟨.empty, rfl, fun f => by cases f <;> simp [Flags.contains, Flags.empty], by simp⟩
  | cons first others ih =>
      obtain ⟨word, place⟩ := first
      cases known : Flag.ofWord? word with
      | none => exact .inr ⟨place, word, by rw [flagsOfWords, known], by simp [known]⟩
      | some flag =>
          rcases ih with ⟨flags, read, contains, all⟩ | ⟨place', blamed, failed, first⟩
          · refine .inl ⟨flags.insert flag, by rw [flagsOfWords, known, read]; rfl, fun f => ?_, ?_⟩
            · have same : f = flag ↔ f.word = word := by rw [← of_word?_iff, known, Option.some.injEq, eq_comm]
              rw [Flags.contains_insert, Bool.or_eq_true, contains f, List.map_cons, List.mem_cons, beq_iff_eq, same,
                or_comm]
            · simpa [known] using all
          · refine .inr ⟨place', blamed, by rw [flagsOfWords, known, failed]; rfl, ?_⟩
            simpa [known] using first

theorem flags_of_words_alike {found found' : List (String × Position)} {words : List String}
    (here : found.map Prod.fst = words) (there : found'.map Prod.fst = words) :
    (∃ flags, flagsOfWords found = .ok flags ∧ flagsOfWords found' = .ok flags ∧
      (∀ f, flags.contains f = true ↔ f.word ∈ words) ∧ ∀ word ∈ words, (Flag.ofWord? word).isSome = true) ∨
    ∃ word place place', flagsOfWords found = .error (.unknownFlag place word) ∧
      flagsOfWords found' = .error (.unknownFlag place' word) ∧
      words.find? (fun word => (Flag.ofWord? word).isNone) = some word := by
  have apart : (∀ word ∈ words, (Flag.ofWord? word).isSome = true) →
      words.find? (fun word => (Flag.ofWord? word).isNone) = none := by
    intro all
    rw [List.find?_eq_none]
    intro word member
    simpa [Option.isSome_iff_ne_none] using all word member
  have first := flags_of_words_cases found
  have second := flags_of_words_cases found'
  rw [here] at first
  rw [there] at second
  rcases first with ⟨flags, read, contains, all⟩ | ⟨place, word, failed, blamed⟩
  · rcases second with ⟨flags', read', contains', -⟩ | ⟨place', word', -, blamed'⟩
    · have same : flags' = flags := Flags.eq_of_contains fun f => by rw [Bool.eq_iff_iff, contains, contains']
      rw [same] at read'
      exact .inl ⟨flags, read, read', contains, all⟩
    · rw [apart all] at blamed'
      cases blamed'
  · rcases second with ⟨flags', -, -, all'⟩ | ⟨place', word', failed', blamed'⟩
    · rw [apart all'] at blamed
      cases blamed
    · rw [blamed] at blamed'
      cases blamed'
      exact .inr ⟨word, place, place', failed, failed', blamed⟩

-- The lines of a header. They are one logical line, which ends with the right parenthesis of the parameters; the last
-- of them is not a comment, so that what is put behind it is put behind the parenthesis.
structure HeaderText (header : FunctionHeader) (before : List (List Char)) (last : List Char) : Prop where
  named : header.name.Printable
  spelled : ∃ l word start xs close, joinLines none 1 (before ++ [last]) = [l] ∧
    scanLine l.text = .ok (⟨.keyword .function, word, start⟩ ::
      (xs ++ [⟨.rightParen, [')'], close⟩, ⟨.endOfLine, [], close + 1⟩])) ∧
    xs.map Lexeme.kind = signatureKinds header
  ends : ∃ c ∈ (dropBlanks last).head?, c ≠ '"'

section

variable {before : List (List Char)} {last : List Char} {l : LogicalLine}

theorem no_comment_append (ends : ∃ c ∈ (dropBlanks last).head?, c ≠ '"') (s : List Char) :
    isContinuationComment (last ++ s) = false := by
  obtain ⟨c, first, noQuote⟩ := ends
  obtain ⟨rest, start⟩ := List.head?_eq_some_iff.mp first
  unfold isContinuationComment
  rw [drop_blanks_append (by simp [start]), start]
  split
  · rename_i comment
    exact absurd (List.cons.inj comment).1 noQuote
  · rfl

theorem continuation?_append {column : Nat} {tail : List Char} (found : continuation? last = some (column, tail))
    (s : List Char) : continuation? (last ++ s) = some (column, tail ++ s) := by
  obtain ⟨indent, blank, rfl, placed⟩ := continuation?_iff.mp found
  exact continuation?_iff.mpr ⟨indent, blank, by rw [List.append_assoc]; rfl, placed⟩

-- The last physical line is the whole logical line, or the last continuation of it.
theorem join_lines_behind (joined : joinLines none 1 (before ++ [last]) = [l])
    (ends : ∃ c ∈ (dropBlanks last).head?, c ≠ '"') (s : List Char) :
    joinLines none 1 (before ++ [last ++ s]) = [{ l with text := l.text ++ s }] := by
  obtain ⟨done, left, -, front⟩ := join_lines_front before none 1
  have plain := no_comment_append ends
  have plainLast := plain []
  rw [List.append_nil] at plainLast
  rw [front] at joined
  cases left with
  | none =>
      rw [join_lines_start plainLast (.inl rfl)] at joined
      obtain ⟨rfl, same⟩ := List.append_eq_singleton_iff.mp joined |>.resolve_right (by simp [joinLines])
      cases same
      rw [front, join_lines_start (plain s) (.inl rfl)]
      rfl
  | some m =>
      cases found : continuation? last with
      | none =>
          rw [join_lines_start plainLast (.inr found)] at joined
          have length := congrArg List.length joined
          simp [joinLines] at length
      | some continued =>
          obtain ⟨column, tail⟩ := continued
          rw [join_lines_extend plainLast found] at joined
          obtain ⟨rfl, same⟩ := List.append_eq_singleton_iff.mp joined |>.resolve_right (by simp [joinLines])
          cases same
          rw [front, join_lines_extend (plain s) (continuation?_append found s)]
          simp [joinLines, LogicalLine.extend]

end

theorem lexed?_scanned {l : LogicalLine} {xs : List Lexeme} (scanned : scanLine l.text = .ok xs) (filled : xs ≠ []) :
    l.lexed? = some ⟨l.number, .ok (xs.map l.token)⟩ := by
  cases xs with
  | nil => exact absurd rfl filled
  | cons x xs =>
      rw [LogicalLine.lexed?, tokens_of_scan scanned]
      rfl

-- The line of a header, for any words and blanks behind it and any lines that do not continue it.
def LexedHeader (header : FunctionHeader) (before : List (List Char)) (last : List Char) (number : Nat) : Prop :=
  ∀ (words : List String) (tail : List Char) (lines : List (List Char)),
    Listed words tail → continues lines = false → ∃ tokens,
      kinds tokens = .keyword .function :: headedKinds header words ∧
      lexedOf (joinLines none 1 (before ++ (last ++ tail) :: lines)) =
        ⟨number, .ok tokens⟩ :: lexedOf (joinLines none (before.length + 2) lines)

theorem header_lexed {header : FunctionHeader} {before : List (List Char)} {last : List Char}
    (text : HeaderText header before last) : ∃ number, LexedHeader header before last number := by
  obtain ⟨l, word, start, xs, close, joined, scanned, signature⟩ := text.spelled
  have behind := join_lines_behind joined text.ends
  refine ⟨l.number, fun words tail lines listed apart => ?_⟩
  obtain ⟨ys, scannedAll, spelled⟩ := scan_line_behind scanned (lexes_listed listed .function)
  have filled : ys ≠ [] := by
    rintro rfl
    cases spelled
  refine ⟨ys.map l.token, ?_, ?_⟩
  · rw [kinds, token_kinds, spelled, signature, headedKinds]
  · have split : before ++ (last ++ tail) :: lines = (before ++ [last ++ tail]) ++ lines := by simp
    have cut := @lexed?_scanned { l with text := l.text ++ tail } ys scannedAll filled
    have counted : 1 + (before ++ [last ++ tail]).length = before.length + 2 := by
      rw [List.length_append, List.length_singleton, Nat.add_comm]
    rw [split, join_lines_append _ none 1 apart, behind, counted, List.cons_append, List.nil_append]
    exact lexed_of_cons_some cut _

theorem flag_opens (flag : Flag) : flag.word ≠ "" ∧ flag.word.toList.all isLetter = true ∧
    Keyword.ofWord? flag.word.toList = none := by cases flag <;> decide

-- The line that lists flags stands for itself, and its words are found in it.
theorem flag_line_lexed {word : String} {words : List String} {list : List Char}
    (known : (Flag.ofWord? word).isSome = true) (listed : Listed (word :: words) list) (number : Nat)
    {lines : List (List Char)} (apart : continues lines = false) :
    continues (list :: lines) = false ∧ ∃ tokens found,
      lexedOf (joinLines none number (list :: lines)) =
        ⟨number, .ok tokens⟩ :: lexedOf (joinLines none (number + 1) lines) ∧
      found.map Prod.fst = word :: words ∧ flagLine? tokens = some found := by
  obtain ⟨flag, same⟩ := Option.isSome_iff_exists.mp known
  cases of_word?_iff.mp same
  obtain ⟨filled, letters, noKeyword⟩ := flag_opens flag
  cases listed with
  | @word gap rest _ _ blank named others parted =>
      obtain ⟨c, name, starts⟩ := List.exists_cons_of_ne_nil (show flag.word.toList ≠ [] by simpa using filled)
      have letter : isLetter c = true := List.all_eq_true.mp letters c (by simp [starts])
      have leads : Leads (flag.word.toList ++ rest) := leads_append ⟨c, name, starts, leads_letter letter⟩ rest
      obtain ⟨plain, fresh⟩ := skipped_starts (lead_of_blanks blank) leads
      obtain ⟨xs, scanned, spelled⟩ := scan_line_listed filled letters noKeyword blank parted
      have nonempty : xs ≠ [] := by
        rintro rfl
        simp [unrangedKinds] at spelled
      have cut := @lexed?_scanned (.start number (gap ++ (flag.word.toList ++ rest))) xs scanned nonempty
      obtain ⟨found, read, taken⟩ := flag_line?_unranged filled
        ((token_kinds (.start number (gap ++ (flag.word.toList ++ rest))) xs).trans spelled)
      rw [words_of_listed others] at read
      refine ⟨by rw [continues_plain plain, fresh]; rfl, _, found, ?_, read, by rw [taken, if_pos known]⟩
      rw [join_lines_start plain (.inl rfl), join_lines_apart (some _) _ apart]
      exact lexed_of_cons_some cut _

def declared (header : FunctionHeader) (number : Nat) (flags : Flags) : LineReader Statement := do
  let body ← functionBody (statement (nestingLimit - 1)) header.name.text number
  return .function { header with flags } body

section

variable {header : FunctionHeader} {number : Nat} {flags : Flags} {body : List Statement} {lines : List LexedLine}

theorem declared_reads
    (read : functionBody (statement (nestingLimit - 1)) header.name.text number lines = .ok body []) (flags : Flags) :
    declared header number flags lines = .ok (.function { header with flags } body) [] :=
  reader_bind _ read

theorem declared_body {s : Statement} (read : declared header number flags lines = .ok s []) :
    ∃ body, s = .function { header with flags } body ∧
      functionBody (statement (nestingLimit - 1)) header.name.text number lines = .ok body [] := by
  obtain ⟨body, rest, found, done⟩ := reader_bind_eq_ok read
  cases done
  exact ⟨body, rfl, found⟩

theorem header_run (named : header.name.Printable) {words : List String} {tokens : List Token}
    (spelled : kinds tokens = .keyword .function :: headedKinds header words) (number : Nat) :
    ∃ found, found.map Prod.fst = words ∧ (statement nestingLimit).run ⟨number, .ok tokens⟩ =
      onThisLine (flagsOfWords found) >>= fun flags => flagsAfter flags >>= declared header number := by
  obtain ⟨ts, tail, keyed⟩ :=
    statement_from_keyword (some (statement (nestingLimit - 1))) none .function _ number spelled
  obtain ⟨found, rest, same, read⟩ := function_header_words named (lastPlace tokens) words tail
  refine ⟨found, same, ?_⟩
  rw [show (statement nestingLimit).run = _ from statement_run_succ (nestingLimit - 1), keyed]
  show functionStatement (some (statement (nestingLimit - 1))) number (lastPlace tokens) ts = _
  rw [functionStatement, read]
  cases flagsOfWords found <;> rfl

theorem header_declares (named : header.name.Printable) {words : List String} {tokens : List Token}
    (spelled : kinds tokens = .keyword .function :: headedKinds header words) (number : Nat) :
    ∃ found, found.map Prod.fst = words ∧ ∀ lines,
      (∀ fault, flagsOfWords found = .error fault →
        (statement nestingLimit).run ⟨number, .ok tokens⟩ lines = .error fault lines) ∧
      ∀ flags, flagsOfWords found = .ok flags → flags ≠ .empty →
        (statement nestingLimit).run ⟨number, .ok tokens⟩ lines = declared header number flags lines := by
  obtain ⟨found, same, run⟩ := header_run named spelled number
  refine ⟨found, same, fun lines => ⟨fun fault failed => ?_, fun flags read flagged => ?_⟩⟩
  · rw [run, failed]
    rfl
  · rw [run, read, reader_bind _ (show onThisLine (.ok flags) lines = .ok flags lines from rfl), flagsAfter,
      if_neg flagged]
    rfl

theorem listing_declares (named : header.name.Printable) {tokens list : List Token}
    (spelled : kinds tokens = .keyword .function :: headedKinds header []) {found : List (String × Position)}
    (listed : flagLine? list = some found) (number n : Nat) (lines : List LexedLine) :
    (statement nestingLimit).run ⟨number, .ok tokens⟩ (⟨n, .ok list⟩ :: lines) =
      (onThisLine (flagsOfWords found) >>= declared header number) lines := by
  obtain ⟨none, same, run⟩ := header_run named spelled number
  cases List.map_eq_nil_iff.mp same
  rw [run, reader_bind _ (show onThisLine (flagsOfWords []) _ = .ok .empty _ from rfl), flagsAfter, if_pos rfl,
    reader_bind_eq, reader_bind_eq, flagLine, listed]

end

section

variable {id : String} {source : List Char} {line : LexedLine} {lines : List LexedLine} {s : Statement}

theorem parse_statement (cut : lexLines source = line :: lines)
    (read : (statement nestingLimit).run line lines = .ok s []) :
    Script.parse id source = .ok ⟨id, [s], [line.number]⟩ := by
  rw [Script.parse, cut, read_strict_cons read, readStrict]
  rfl

theorem parse_fault {fault : ParseError} {stopped : List LexedLine} (cut : lexLines source = line :: lines)
    (read : (statement nestingLimit).run line lines = .error fault stopped) :
    Script.parse id source = .error fault := by
  rw [Script.parse, cut, read_strict_cons_error read]

theorem read_strict_eq_nil (none : readStrict lines = ([], none)) : lines = [] := by
  cases lines with
  | nil => rfl
  | cons line lines =>
      cases read : (statement nestingLimit).run line lines with
      | ok s rest =>
          rw [read_strict_cons read] at none
          cases none
      | error fault stopped =>
          rw [read_strict_cons_error read] at none
          cases none

theorem statement_parsed {numbers : List Nat} (cut : lexLines source = line :: lines)
    (parsed : Script.parse id source = .ok ⟨id, [s], numbers⟩) :
    (statement nestingLimit).run line lines = .ok s [] ∧ numbers = [line.number] := by
  cases read : (statement nestingLimit).run line lines with
  | error fault stopped => cases (parse_fault cut read).symm.trans parsed
  | ok s' rest =>
      unfold Script.parse at parsed
      rw [cut, read_strict_cons read] at parsed
      split at parsed
      · rename_i statements found
        obtain ⟨rfl, clean⟩ := Prod.mk.inj found
        obtain ⟨-, statements, numbers'⟩ := Script.mk.inj (Except.ok.inj parsed)
        obtain ⟨rfl, none⟩ := List.cons.inj statements
        have ended := List.map_eq_nil_iff.mp none
        rw [ended] at numbers'
        cases read_strict_eq_nil (Prod.ext ended clean)
        exact ⟨rfl, numbers'.symm⟩
      · cases parsed

end

theorem body_moved {header : FunctionHeader} {number : Nat} {body : List Statement} {lines : List (List Char)}
    (n n' : Nat)
    (read : functionBody (statement (nestingLimit - 1)) header.name.text number (lexedOf (joinLines none n lines)) =
      .ok body []) :
    functionBody (statement (nestingLimit - 1)) header.name.text number (lexedOf (joinLines none n' lines)) =
      .ok body [] := by
  have joined := join_lines_alike lines (fun i line => verbatim_start line (n + i) (n' + i))
    (fun i column tail _ _ same => verbatim_extend same (n + i) (n' + i) column tail) .none
  have alike : respelling.Lines (lexedOf (joinLines none n lines)) (lexedOf (joinLines none n' lines)) :=
    lines_scanned (joined.imp fun _ _ same => says_same_scanned (.inl same))
  have reads := function_body_reads (statement_reads_alike (nestingLimit - 1)) header.name.text
    (show respelling.line number number from trivial) _ _ alike
  rw [read] at reads
  generalize functionBody (statement (nestingLimit - 1)) header.name.text number _ = found at reads
  cases reads with
  | ok same left =>
      cases same
      cases left
      rfl

-- The lines of a header, and those of a body that starts a line of its own. Behind the header and some flag the body is
-- read as such, up to its end.
structure FunctionText (id : String) (header : FunctionHeader) (body : List Statement) (numbers : List Nat)
    (before : List (List Char)) (last : List Char) (after : List (List Char)) : Prop where
  header : HeaderText header before last
  apart : continues after = false
  body : ∃ flag sample flagged, physicalLines sample = before ++ (last ++ ' ' :: (Flag.word flag).toList) :: after ∧
    Script.parse id sample = .ok ⟨id, [.function flagged body], numbers⟩

theorem contains_filled {flags : Flags} {flag : Flag} (contains : flags.contains flag = true) : flags ≠ .empty := by
  rintro rfl
  cases flag <;> cases contains

theorem lex_lines_of_physical {source : List Char} {lines : List (List Char)} (cut : physicalLines source = lines) :
    lexLines source = lexedOf (joinLines none 1 lines) := by
  rw [lexLines, logicalLines, cut, lexedOf]

theorem listed_flag (flag : Flag) : Listed [flag.word] (' ' :: flag.word.toList) := by
  have listed := @Listed.word [' '] [] flag.word [] rfl (by cases flag <;> decide) (.blanks rfl) rfl
  rwa [List.append_nil] at listed

theorem function_text_body {id : String} {header : FunctionHeader} {body : List Statement} {numbers : List Nat}
    {before : List (List Char)} {last : List Char} {after : List (List Char)}
    (text : FunctionText id header body numbers before last after) {number : Nat}
    (lexed : LexedHeader header before last number) :
    numbers = [number] ∧ functionBody (statement (nestingLimit - 1)) header.name.text number
      (lexedOf (joinLines none (before.length + 2) after)) = .ok body [] := by
  obtain ⟨flag, sample, flagged, sampled, parsed⟩ := text.body
  obtain ⟨tokens, spelled, cut⟩ := lexed _ _ after (listed_flag flag) text.apart
  rw [← lex_lines_of_physical sampled] at cut
  obtain ⟨run, numbered⟩ := statement_parsed cut parsed
  refine ⟨numbered, ?_⟩
  obtain ⟨found, same, declares⟩ := header_declares text.header.named spelled number
  rcases flags_of_words_cases found with ⟨flags, read, contains, -⟩ | ⟨place, word, -, blamed⟩
  · have flagged := contains_filled ((contains flag).mpr (by simp [same]))
    rw [(declares _).2 flags read flagged] at run
    obtain ⟨body', same, bodyRead⟩ := declared_body run
    cases same
    exact bodyRead
  · rw [same] at blamed
    simp [of_word?_word] at blamed

theorem flag_layouts_agree (id : String) (header : FunctionHeader) (body : List Statement) (numbers : List Nat)
    (before : List (List Char)) (last : List Char) (after : List (List Char))
    (text : FunctionText id header body numbers before last after)
    (word : String) (words : List String) (known : (Flag.ofWord? word).isSome = true) (list tail list' : List Char)
    (listed : Listed (word :: words) list) (bare : Listed [] tail) (listed' : Listed (word :: words) list')
    (source source' : List Char) (here : physicalLines source = before ++ (last ++ list) :: after)
    (there : physicalLines source' = before ++ (last ++ tail) :: list' :: after) :
    (∃ flags, (∀ f, flags.contains f = true ↔ f.word ∈ word :: words) ∧
      (∀ other ∈ word :: words, (Flag.ofWord? other).isSome = true) ∧
      Script.parse id source = .ok ⟨id, [.function { header with flags } body], numbers⟩ ∧
      Script.parse id source' = .ok ⟨id, [.function { header with flags } body], numbers⟩) ∨
    ∃ other place place', (word :: words).find? (fun other => (Flag.ofWord? other).isNone) = some other ∧
      Script.parse id source = .error (.unknownFlag place other) ∧
      Script.parse id source' = .error (.unknownFlag place' other) := by
  have named := text.header.named
  obtain ⟨number, lexed⟩ := header_lexed text.header
  obtain ⟨rfl, bodyRead⟩ := function_text_body text lexed
  obtain ⟨tokens, spelled, cut⟩ := lexed _ list after listed text.apart
  obtain ⟨apart, listTokens, found', cutList, same', taken⟩ :=
    flag_line_lexed known listed' (before.length + 2) text.apart
  obtain ⟨tokens', spelled', cut'⟩ := lexed [] tail (list' :: after) bare apart
  rw [← lex_lines_of_physical here] at cut
  rw [← lex_lines_of_physical there, cutList] at cut'
  obtain ⟨found, same, declares⟩ := header_declares named spelled number
  have listing := listing_declares named spelled' taken number (before.length + 2)
  rcases flags_of_words_alike same same' with
    ⟨flags, read, read', contains, all⟩ | ⟨other, place, place', failed, failed', blamed⟩
  · obtain ⟨flag, named⟩ := Option.isSome_iff_exists.mp known
    have flagged := contains_filled ((contains flag).mpr (by simp [of_word?_iff.mp named]))
    refine .inl ⟨flags, contains, all, parse_statement cut ?_, parse_statement cut' ?_⟩
    · rw [(declares _).2 flags read flagged]
      exact declared_reads bodyRead flags
    · rw [listing, read']
      exact declared_reads (body_moved _ _ bodyRead) flags
  · have fault := listing (lexedOf (joinLines none (before.length + 3) after))
    rw [failed'] at fault
    exact .inr ⟨other, place, place', blamed, parse_fault cut ((declares _).1 _ failed), parse_fault cut' fault⟩

-- A header on two lines, with its flags behind it or on the third line; and two lists with a word that is no flag.
def wrappedHeader : FunctionHeader := ⟨⟨none, "F"⟩, ["a"], .empty, true⟩

theorem wrapped_header_text : HeaderText wrappedHeader ["fu! F(".toList] "\\a)".toList where
  named := ⟨rfl, "F", [], rfl, by simp, rfl⟩
  spelled := ⟨⟨1, "fu! F(a)".toList, [⟨6, 2, 2⟩]⟩, "fu".toList, 0,
    [⟨.bang, ['!'], 2⟩, ⟨.name none "F", ['F'], 4⟩, ⟨.leftParen, ['('], 5⟩, ⟨.name none "a", ['a'], 6⟩], 7,
    by decide, by with_unfolding_all rfl, by decide⟩
  ends := ⟨'\\', by decide, by decide⟩

def wrappedBody : List Statement := [.return (.literal (.num 1))]

theorem wrapped_text : FunctionText "s" wrappedHeader wrappedBody [1] ["fu! F(".toList] "\\a)".toList
    ["retu 1".toList, "endf".toList] where
  header := wrapped_header_text
  apart := by decide
  body := ⟨.dict, "fu! F(\n\\a) dict\nretu 1\nendf".toList, { wrappedHeader with flags := Flags.ofList [.dict] },
    by decide, by with_unfolding_all rfl⟩

def flagsBehind : List Char := "fu! F(\n\\a) dict\tabort  dict \"x\r\nretu 1\nendf".toList

def flagsBelow : List Char := "fu! F(\n\\a)\"x\n\tdict abort dict\nretu 1\nendf".toList

def strangerBehind : List Char := "fu! F(\n\\a)dict x#y z\nretu 1\nendf".toList

def strangerBelow : List Char := "fu! F(\n\\a) \ndict  x#y z \"x\nretu 1\nendf".toList

theorem wrapped_text_layouts :
    (∃ flags, flags = Flags.ofList [.abort, .dict] ∧
      Script.parse "s" flagsBehind = .ok ⟨"s", [.function { wrappedHeader with flags } wrappedBody], [1]⟩ ∧
      Script.parse "s" flagsBelow = .ok ⟨"s", [.function { wrappedHeader with flags } wrappedBody], [1]⟩) ∧
    ∃ place place', Script.parse "s" strangerBehind = .error (.unknownFlag place "x#y") ∧
      Script.parse "s" strangerBelow = .error (.unknownFlag place' "x#y") := by
  have behind := @Listed.word [' '] _ "dict" _ rfl (by decide) (@Listed.word ['\t'] _ "abort" _ rfl (by decide)
    (@Listed.word [' ', ' '] _ "dict" _ rfl (by decide) (@Listed.comment [' '] ['x'] rfl) rfl) rfl) rfl
  have below := @Listed.word ['\t'] _ "dict" _ rfl (by decide) (@Listed.word [' '] _ "abort" _ rfl (by decide)
    (@Listed.word [' '] [] "dict" _ rfl (by decide) (.blanks rfl) rfl) rfl) rfl
  have stranger := @Listed.word [] _ "dict" _ rfl (by decide) (@Listed.word [' '] _ "x#y" _ rfl (by decide)
    (@Listed.word [' '] [] "z" _ rfl (by decide) (.blanks rfl) rfl) rfl) rfl
  have noted := @Listed.word [] _ "dict" _ rfl (by decide) (@Listed.word [' ', ' '] _ "x#y" _ rfl (by decide)
    (@Listed.word [' '] _ "z" _ rfl (by decide) (@Listed.comment [' '] ['x'] rfl) rfl) rfl) rfl
  constructor
  · rcases flag_layouts_agree "s" _ _ _ _ _ _ wrapped_text "dict" _ rfl _ ['"', 'x'] _ behind
      (@Listed.comment [] ['x'] rfl) below flagsBehind flagsBelow (by decide +kernel) (by decide +kernel) with
      ⟨flags, contains, -, parsed⟩ | ⟨other, -, -, blamed, -⟩
    · refine ⟨flags, Flags.eq_of_contains fun f => ?_, parsed⟩
      rw [Bool.eq_iff_iff, contains]
      cases f <;> decide
    · cases blamed
  · rcases flag_layouts_agree "s" _ _ _ _ _ _ wrapped_text "dict" _ rfl _ [' '] _ stranger (.blanks rfl) noted
      strangerBehind strangerBelow (by decide +kernel) (by decide +kernel) with
      ⟨flags, -, all, -⟩ | ⟨other, place, place', blamed, failed⟩
    · exact absurd (all "x#y" (by simp)) (by decide)
    · cases blamed
      exact ⟨place, place', failed⟩

end ExScript
