import ExScript.Proofs.Line.Printed
import ExScript.Proofs.Script.Modes
import ExScript.Proofs.Statement.Reading

set_option autoImplicit false

namespace ExScript

theorem physical_lines_line (line rest : List Char) (noBreak : '\n' ∉ line) (noReturn : line.getLast? ≠ some '\r') :
    physicalLines (line ++ '\n' :: rest) = line :: physicalLines rest := by
  induction line with
  | nil => rfl
  | cons c line ih =>
      obtain ⟨notFeed, othersNoBreak⟩ := by simpa using noBreak
      have othersNoReturn : line.getLast? ≠ some '\r' := by
        intro last
        rw [List.getLast?_cons, last] at noReturn
        exact noReturn rfl
      rw [List.cons_append, physicalLines, ih othersNoBreak othersNoReturn]
      -- A carriage return would have to be the last character for the line feed to follow it.
      · rintro tail rfl starts
        cases line with
        | nil => exact noReturn rfl
        | cons d line =>
            cases starts
            exact othersNoBreak (by simp)
      · exact fun same => notFeed same.symm

theorem physical_lines_text (lines : List (List Char))
    (plain : ∀ line ∈ lines, '\n' ∉ line ∧ line.getLast? ≠ some '\r') :
    physicalLines (lines.flatMap fun line => line ++ ['\n']) = lines := by
  induction lines with
  | nil => rfl
  | cons line lines ih =>
      obtain ⟨noBreak, noReturn⟩ := plain line (by simp)
      rw [List.flatMap_cons, List.append_assoc, List.singleton_append, physical_lines_line line _ noBreak noReturn,
        ih fun other member => plain other (by simp [member])]

def startsAt (number : Nat) : List (List Char) → List LogicalLine
  | [] => []
  | line :: lines => .start number line :: startsAt (number + 1) lines

theorem leads_starts {line : List Char} (lead : Leads line) :
    isContinuationComment line = false ∧ continuation? line = none := by
  obtain ⟨c, rest, rfl, starts⟩ := lead
  simp only [leads, isLineLead, Bool.and_eq_true, Bool.not_eq_true', Bool.or_eq_false_iff, bne_iff_ne] at starts
  obtain ⟨⟨⟨noBlank, -⟩, noQuote⟩, noSlash⟩ := starts
  have same : dropBlanks (c :: rest) = c :: rest := List.dropWhile_cons_of_neg (by simp [noBlank])
  rw [isContinuationComment, continuation?, same]
  constructor
  · split
    · rename_i found
      cases found
      exact absurd rfl noQuote
    · rfl
  · split
    · rename_i found
      cases found
      exact absurd rfl noSlash
    · rfl

theorem join_lines_leads (current : Option LogicalLine) (number : Nat) (lines : List (List Char))
    (lead : ∀ line ∈ lines, Leads line) : joinLines current number lines = current.toList ++ startsAt number lines := by
  induction lines generalizing current number with
  | nil => simp [joinLines, startsAt]
  | cons line lines ih =>
      obtain ⟨noComment, starts⟩ := leads_starts (lead line (by simp))
      have others := ih (some (.start number line)) (number + 1) fun other member => lead other (by simp [member])
      rw [joinLines, noComment, startsAt, others]
      · simp
      · intro l column tail _ continues
        rw [starts] at continues
        cases continues

theorem lexed?_prints {line : List Char} {ks : List TokenKind} (prints : Prints line ks) (number : Nat) :
    ∃ tokens, (LogicalLine.start number line).lexed? = some ⟨number, .ok tokens⟩ ∧ kinds tokens = ks := by
  obtain ⟨xs, scanned, same⟩ := prints.scans
  have filled := prints.filled
  refine ⟨xs.map (LogicalLine.start number line).token, ?_, by rw [kinds, List.map_map, ← same]; rfl⟩
  have tokens : (LogicalLine.start number line).tokens = .ok (xs.map (LogicalLine.start number line).token) := by
    simp only [LogicalLine.tokens, LogicalLine.start, scanned]
  cases xs with
  | nil => exact absurd same.symm filled
  | cons x xs =>
      rw [LogicalLine.lexed?, tokens]
      rfl

theorem lexed_prints {lines : List (List Char)} {kss : List (List TokenKind)} (prints : List.Forall₂ Prints lines kss)
    (number : Nat) :
    SpelledBy ((startsAt number lines).filterMap (·.lexed?)) kss ∧
      ((startsAt number lines).filterMap (·.lexed?)).map LexedLine.number = List.range' number lines.length := by
  induction prints generalizing number with
  | nil => exact ⟨rfl, rfl⟩
  | cons first _ ih =>
      obtain ⟨tokens, found, spelled⟩ := lexed?_prints first number
      obtain ⟨others, numbers⟩ := ih (number + 1)
      rw [startsAt, List.filterMap_cons, found]
      refine ⟨?_, ?_⟩
      · rw [SpelledBy, List.map_cons, List.map_cons, others]
        simp [LexedLine.kinds?, spelled]
      · rw [List.map_cons, numbers]
        rfl

theorem prints_of_mem {lines : List (List Char)} {kss : List (List TokenKind)}
    (prints : List.Forall₂ Prints lines kss) : ∀ line ∈ lines, ∃ ks, Prints line ks := by
  induction prints with
  | nil => simp
  | cons first _ ih =>
      intro line member
      rcases List.mem_cons.mp member with rfl | member
      · exact ⟨_, first⟩
      · exact ih line member

theorem lex_lines_print_text (statements : List Statement) (printable : AllPrintable statements) :
    SpelledBy (lexLines (printText statements)) (statementsKinds statements) ∧
      (lexLines (printText statements)).map LexedLine.number =
        List.range' 1 (lexLines (printText statements)).length := by
  have prints := prints_statements statements printable
  have each := prints_of_mem prints
  have lines : physicalLines (printText statements) = printStatements statements := by
    apply physical_lines_text
    intro line member
    obtain ⟨ks, line⟩ := each line member
    exact ⟨line.noBreak, line.noReturn⟩
  have starts : logicalLines (printText statements) = startsAt 1 (printStatements statements) := by
    rw [logicalLines, lines, join_lines_leads]
    · rfl
    · intro line member
      obtain ⟨ks, line⟩ := each line member
      exact line.lead
  rw [lexLines, starts]
  obtain ⟨spelled, numbers⟩ := lexed_prints prints 1
  refine ⟨spelled, ?_⟩
  have same := congrArg List.length spelled
  rw [List.length_map, List.length_map, ← prints.length_eq] at same
  rw [numbers, same]

theorem length_statement_kinds (s : Statement) (printable : s.Printable) :
    (statementKinds s).length = (printStatement s).length :=
  (prints_statement s printable).length_eq.symm

theorem read_strict_spelled (statements : List Statement) (printable : AllPrintable statements)
    (shallow : nestingOf statements ≤ nestingLimit) (number : Nat) {lines : List LexedLine}
    (spelled : SpelledBy lines (statementsKinds statements))
    (numbers : lines.map LexedLine.number = List.range' number lines.length) :
    readStrict lines = ((startLines number statements).zip statements, none) := by
  induction statements generalizing number lines with
  | nil =>
      cases List.map_eq_nil_iff.mp spelled
      rw [readStrict]
      rfl
  | cons s statements ih =>
      obtain ⟨firstShallow, othersShallow⟩ := Nat.max_le.mp shallow
      obtain ⟨front, back, rfl, firstSpelled, othersSpelled⟩ := spelled_by_append spelled
      have size : front.length = (printStatement s).length := by
        rw [← length_statement_kinds s printable.1]
        simpa using congrArg List.length firstSpelled
      rw [List.map_append, List.length_append, ← List.range'_append_1] at numbers
      obtain ⟨firstNumbers, othersNumbers⟩ := List.append_inj numbers (by simp)
      obtain ⟨ks, kss, split, -⟩ := statement_kinds_lines s
      obtain ⟨first, tokens, more, rfl, -, -⟩ := spelled_by_cons (split ▸ firstSpelled)
      have read := statement_reads s printable.1 firstShallow back firstSpelled
      have others := ih printable.2 othersShallow _ othersSpelled othersNumbers
      rw [List.cons_append, read_strict_cons read, others, startLines, ← size]
      cases (List.cons.inj firstNumbers).1
      rfl

theorem start_lines_length (number : Nat) (statements : List Statement) :
    (startLines number statements).length = statements.length := by
  induction statements generalizing number with
  | nil => rfl
  | cons s statements ih => rw [startLines, List.length_cons, ih, List.length_cons]

theorem parse_print_text (id : String) (statements : List Statement) (printable : AllPrintable statements)
    (shallow : nestingOf statements ≤ 200) :
    Script.parse id (printText statements) = .ok ⟨id, statements, startLines 1 statements⟩ := by
  obtain ⟨spelled, numbers⟩ := lex_lines_print_text statements printable
  have same := start_lines_length 1 statements
  rw [Script.parse, read_strict_spelled statements printable shallow 1 spelled numbers]
  dsimp only
  rw [Script.ofNumbered, List.map_snd_zip (by omega), List.map_fst_zip (by omega)]

example : printText [.call (some "'<,'>") (.ofPath (some .script) "jobs" ["run"])
    [.concat (.variable ⟨none, "x"⟩) (.concat (.literal (.num 7)) (.literal (.str "\"\n")))]] =
    "'<,'>call s:jobs.run(x . (7 . \"\\\"\\n\"))\n".toList := by decide +kernel

def sampleStatements : List Statement :=
  [.function ⟨.ofPath (some .script) "jobs" ["run"], ["cmd", "n"], { abort := true }, true⟩
      [.assign ⟨some .function, "out"⟩ .append
          (.concat (.concat (.literal (.str "a\"b\\\n")) (.variable ⟨some .argument, "cmd"⟩))
            (.concat (.literal (.num 7)) (.call ⟨none, "Trim"⟩ [.variable ⟨none, "x#y"⟩, .literal (.str "")]))),
        .function ⟨.ofPath none "Inner" [], [], .empty, false⟩ [.command ⟨none, "normal", true, "dd"⟩],
        .return (.variable ⟨some .function, "out"⟩)],
    .unlet true [⟨none, "a"⟩, ⟨some .global, "1st"⟩],
    .call (some "'<,'>") (.ofPath (some .script) "jobs" ["run"]) [.literal (.num 1), .literal (.num 2)],
    .echo [.literal (.str "x"), .variable ⟨none, "y"⟩],
    .command ⟨some "10", "", false, ""⟩,
    .command ⟨none, "!", false, "ls -l | wc"⟩,
    .delfunction false (.ofPath none "Inner" [])]

theorem printable_range {text : String} (filled : text ≠ "") (ranged : isRangeText text.toList = true) :
    RangePrintable (some text) := by
  rintro other ⟨⟩
  exact ⟨filled, ranged⟩

theorem sample_printable : AllPrintable sampleStatements := by
  have path : (FunctionName.ofPath (some .script) "jobs" ["run"]).Printable :=
    ⟨by decide, "jobs", ["run"], by decide, by decide, by decide⟩
  have inner : (FunctionName.ofPath none "Inner" []).Printable :=
    ⟨by decide, "Inner", [], by decide, by decide, by decide⟩
  have normal : HostCommand.Printable ⟨none, "normal", true, "dd"⟩ :=
    ⟨by simp [RangePrintable], .word _ (by decide) (by decide) (by decide), by decide, by simp; decide, by simp; decide⟩
  have jump : HostCommand.Printable ⟨some "10", "", false, ""⟩ :=
    ⟨printable_range (by decide) (by decide), .jump _ "10" rfl rfl rfl rfl (by decide), by decide, by simp, by simp⟩
  have shell : HostCommand.Printable ⟨none, "!", false, "ls -l | wc"⟩ :=
    ⟨by simp [RangePrintable], .symbol _ '!' (by decide) rfl rfl, by decide, by simp; decide, by simp; decide⟩
  exact ⟨⟨path, by decide, by simp [ListsFlags], ⟨by decide, by decide⟩,
      ⟨inner, by decide, by simp [ListsFlags], normal, trivial⟩, ⟨by decide, by decide⟩, trivial⟩,
    ⟨by decide, by decide⟩,
    ⟨printable_range (by decide) (by decide), path, by decide⟩, ⟨by decide, by decide⟩, jump, shell, inner, trivial⟩

theorem parse_print_text_sample : AllPrintable sampleStatements ∧ nestingOf sampleStatements ≤ 200 ∧
    Script.parse "jobs.vim" (printText sampleStatements) =
      .ok ⟨"jobs.vim", sampleStatements, [1, 8, 9, 10, 11, 12, 13]⟩ :=
  ⟨sample_printable, by decide, parse_print_text "jobs.vim" sampleStatements sample_printable (by decide)⟩

end ExScript
