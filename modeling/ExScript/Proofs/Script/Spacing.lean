import ExScript.Proofs.Line.Joining
import ExScript.Proofs.Line.Spacing
import ExScript.Proofs.Script.Recovery
import ExScript.Proofs.Script.Relocation

set_option autoImplicit false

namespace ExScript

-- The line as a keyword line may be written: any lead, and the tokens with other blanks between them.
structure Respaced (l : LogicalLine) (line : List Char) : Prop where
  keyed : l.commandKeyword?.isSome = true
  spread : ∃ xs lead body, scanLine l.text = .ok (xs ++ [⟨.endOfLine, [], byteLength l.text⟩]) ∧
    line = lead ++ body ∧ lead.all isLineLead = true ∧ Spread xs body

def respelling : Relocation where
  token t t' := t'.kind = t.kind
  place _ _ := True
  line _ _ := True
  flag _ _ _ := True
  extra _ _ := True
  kind_eq same := same
  place_of _ := trivial
  flag_of _ _ := trivial
  flag_within _ _ _ := trivial
  extra_of _ := trivial

section

variable {l : LogicalLine} {line : List Char}

theorem command_keyword?_word {k : Keyword} (keyed : l.commandKeyword? = some k) :
    Keyword.ofWord? ((dropBlanks (spanRange (l.text.dropWhile isLineLead)).2).takeWhile isLetter) = some k := by
  unfold LogicalLine.commandKeyword? at keyed
  split at keyed
  · cases keyed
  · exact keyed

theorem respaced_scans (respaced : Respaced l line) :
    ∃ xs ys, scanLine l.text = .ok xs ∧ scanLine line = .ok ys ∧ ys.map Lexeme.kind = xs.map Lexeme.kind := by
  obtain ⟨keyed, xs, lead, body, scanned, rfl, skipped, spread⟩ := respaced
  obtain ⟨k, keyword⟩ := Option.isSome_iff_exists.mp keyed
  obtain ⟨-, ys, again, same⟩ := line_spread scanned (command_keyword?_word keyword) skipped spread
  exact ⟨_, ys, scanned, again, by rw [same, List.map_append]; rfl⟩

-- A line whose first character after blanks and colons leads it starts a logical line.
theorem skipped_starts {lead body : List Char} (skipped : lead.all isLineLead = true) (starts : Leads body) :
    isContinuationComment (lead ++ body) = false ∧ continuation? (lead ++ body) = none := by
  obtain ⟨c, tail, rfl, starts⟩ := starts
  simp only [leads, Bool.and_eq_true, Bool.not_eq_true', bne_iff_ne] at starts
  have ends : ∀ d, (c :: tail).head? = some d → isLineLead d = false := by
    rintro d ⟨⟩
    exact starts.1.1
  have left := (take_while_piece skipped ends).2
  constructor
  · unfold isContinuationComment
    split
    · rename_i comment
      cases left.symm.trans (drop_lead_of_drop_blanks comment rfl)
      exact absurd rfl starts.1.2
    · rfl
  · unfold continuation?
    split
    · rename_i slash
      cases left.symm.trans (drop_lead_of_drop_blanks slash rfl)
      exact absurd rfl starts.2
    · rfl

-- The first character after blanks and colons belongs to the range or to the keyword.
theorem respaced_starts (respaced : Respaced l line) :
    isContinuationComment line = false ∧ continuation? line = none := by
  obtain ⟨keyed, xs, lead, body, scanned, rfl, skipped, spread⟩ := respaced
  obtain ⟨k, keyword⟩ := Option.isSome_iff_exists.mp keyed
  obtain ⟨starts, -⟩ := line_spread scanned (command_keyword?_word keyword) skipped spread
  exact skipped_starts skipped starts

end

-- The physical lines of a text, with some of the keyword lines in it written anew, each as one physical line. A
-- block of lines is a logical line of the text if neither it nor what follows it continues what stands before.
inductive Rewritten : List (List Char) → List (List Char) → Prop
  | nil : Rewritten [] []
  | keep (line : List Char) {lines lines' : List (List Char)} (more : Rewritten lines lines') :
      Rewritten (line :: lines) (line :: lines')
  | respace {block lines lines' : List (List Char)} {l : LogicalLine} {line : List Char}
      (whole : joinLines none 1 block = [l]) (first : continues block = false) (last : continues lines = false)
      (respaced : Respaced l line) (more : Rewritten lines lines') : Rewritten (block ++ lines) (line :: lines')

theorem rewritten_apart {lines lines' : List (List Char)} (rewritten : Rewritten lines lines')
    (apart : continues lines = false) : continues lines' = false := by
  induction rewritten with
  | nil => rfl
  | keep line more ih =>
      by_cases comment : isContinuationComment line = true
      · rw [continues_comment comment] at apart ⊢
        exact ih apart
      · rw [continues_plain (Bool.eq_false_iff.mpr comment)] at apart ⊢
        exact apart
  | respace whole first last respaced more ih =>
      obtain ⟨plain, starts⟩ := respaced_starts respaced
      rw [continues_plain plain, starts]
      rfl

def Verbatim (l l' : LogicalLine) : Prop := l'.text = l.text

def SaysSame (l l' : LogicalLine) : Prop := Verbatim l l' ∨ ∃ l₀, Verbatim l₀ l ∧ Respaced l₀ l'.text

theorem verbatim_start (line : List Char) (number number' : Nat) :
    Verbatim (.start number line) (.start number' line) := rfl

theorem verbatim_extend {l l' : LogicalLine} (same : Verbatim l l') (number number' column : Nat) (tail : List Char) :
    Verbatim (l.extend number column tail) (l'.extend number' column tail) := congrArg (· ++ tail) same

theorem rewritten_joined {lines lines' : List (List Char)} (rewritten : Rewritten lines lines')
    {current current' : Option LogicalLine} (open' : Option.Rel Verbatim current current') (number number' : Nat) :
    List.Forall₂ SaysSame (joinLines current number lines) (joinLines current' number' lines') := by
  have kept : ∀ {ls ls' : List LogicalLine}, List.Forall₂ Verbatim ls ls' → List.Forall₂ SaysSame ls ls' :=
    fun same => same.imp fun _ _ => .inl
  induction rewritten generalizing current current' number number' with
  | nil =>
      cases open' with
      | none => exact .nil
      | some same => exact .cons (.inl same) .nil
  | keep line more ih =>
      obtain ⟨done, done', next, next', closed, opened, step, step'⟩ :=
        join_lines_step_alike line (verbatim_start line number number')
          (fun column tail _ _ same => verbatim_extend same number number' column tail) open'
      rw [step, step']
      exact List.rel_append (kept closed) (ih opened _ _)
  | @respace block lines lines' l line whole first last respaced more ih =>
      obtain ⟨plain, starts⟩ := respaced_starts respaced
      have blockSame := join_lines_alike block (fun i line => verbatim_start line (1 + i) (number + i))
        (fun i column tail _ _ same => verbatim_extend same (1 + i) (number + i) column tail) .none
      rw [whole] at blockSame
      rw [join_lines_append block current number last, join_lines_apart current number first,
        join_lines_start plain (.inr starts), join_lines_apart (some _) _ (rewritten_apart more last), List.append_assoc]
      refine List.rel_append (kept ?_) (List.rel_append ?_ (ih .none _ _))
      · cases open' with
        | none => exact .nil
        | some same => exact .cons same .nil
      · obtain ⟨l', rest, same, ended, block'⟩ := List.forall₂_cons_left_iff.mp blockSame
        cases ended
        rw [block']
        exact .cons (.inr ⟨l, same, respaced⟩) .nil

theorem says_same_scanned {l l' : LogicalLine} (same : SaysSame l l') : respelling.Scanned l l' := by
  rcases same with verbatim | ⟨l₀, verbatim, respaced⟩
  · exact scanned_same trivial verbatim (fun _ _ _ _ => rfl) fun _ _ => trivial
  · obtain ⟨xs, ys, scanned, scanned', kinds⟩ := respaced_scans respaced
    rw [← verbatim] at scanned
    refine scanned_ok trivial scanned scanned' ?_
    have pairs : List.Forall₂ (· = ·) (xs.map Lexeme.kind) (ys.map Lexeme.kind) := by
      rw [kinds]
      exact List.forall₂_refl _
    exact (List.forall₂_map_left_iff.mp (List.forall₂_map_right_iff.mp pairs)).imp fun _ _ same => same.symm

theorem spacing_does_not_matter :
    (∀ l l' : LogicalLine, Respaced l l'.text → ∃ tokens tokens', l.tokens = .ok tokens ∧ l'.tokens = .ok tokens' ∧
      tokens'.map Token.kind = tokens.map Token.kind) ∧
    ∀ (name : String) (source source' : List Char), Rewritten (physicalLines source) (physicalLines source') →
      (Script.parse name source').toOption.map Script.statements =
        (Script.parse name source).toOption.map Script.statements := by
  constructor
  · intro l l' respaced
    obtain ⟨xs, ys, scanned, scanned', kinds⟩ := respaced_scans respaced
    refine ⟨_, _, tokens_of_scan scanned, tokens_of_scan scanned', ?_⟩
    rw [token_kinds, token_kinds, kinds]
  · intro name source source' rewritten
    have joined := rewritten_joined rewritten .none 1 1
    have alike : respelling.Follows respelling.Scripts (Script.parse name source) (Script.parse name source') :=
      parse_alike name (lines_scanned (joined.imp fun _ _ => says_same_scanned))
    generalize Script.parse name source = found at alike ⊢
    generalize Script.parse name source' = found' at alike ⊢
    cases alike with
    | ok scripts => exact congrArg some scripts.statements
    | error moves => rfl

-- A call with a range, over two physical lines; written anew on one, with another abbreviation of its keyword.
def tightCall : List Char := "1,2cal s:F(\n\\'a'.b)\nbye".toList

def tightLine : LogicalLine := ⟨1, "1,2cal s:F('a'.b)".toList, [⟨11, 2, 2⟩]⟩

def tightLexemes : List Lexeme :=
  [⟨.range "1,2", "1,2".toList, 0⟩, ⟨.keyword .call, "cal".toList, 3⟩, ⟨.name (some .script) "F", "s:F".toList, 7⟩,
    ⟨.leftParen, ['('], 10⟩, ⟨.string "a", "'a'".toList, 11⟩, ⟨.dot, ['.'], 14⟩, ⟨.name none "b", ['b'], 15⟩,
    ⟨.rightParen, [')'], 16⟩]

def looseCall : List Char := " :\t1,2 call  s:F(  'a' .b )\nbye".toList

def looseLine : LogicalLine := .start 1 " :\t1,2 call  s:F(  'a' .b )".toList

theorem call_respaced :
    (Respaced tightLine looseLine.text ∧ ∃ tokens tokens', tightLine.tokens = .ok tokens ∧
      looseLine.tokens = .ok tokens' ∧ tokens'.map Token.kind = tokens.map Token.kind) ∧
    (Rewritten (physicalLines tightCall) (physicalLines looseCall) ∧
      (Script.parse "s" looseCall).toOption.map Script.statements =
        (Script.parse "s" tightCall).toOption.map Script.statements) ∧
    (Script.parse "s" tightCall).toOption.map (·.statements.length) = some 2 := by
  have spread : Spread tightLexemes "1,2 call  s:F(  'a' .b )".toList :=
    ⟨"1,2".toList, [' '], _, rfl, rfl, rfl, by decide,
      "call".toList, [' ', ' '], _, rfl, rfl, rfl, by decide,
      "s:F".toList, [], _, rfl, rfl, rfl, by decide,
      ['('], [' ', ' '], _, rfl, rfl, rfl, by decide,
      "'a'".toList, [' '], _, rfl, rfl, rfl, by decide,
      ['.'], [], _, rfl, rfl, rfl, by decide,
      ['b'], [' '], _, rfl, rfl, rfl, by decide,
      [')'], [], _, rfl, rfl, rfl, by decide, rfl⟩
  have respaced : Respaced tightLine looseLine.text :=
    ⟨by decide +kernel, tightLexemes, " :\t".toList, _, by with_unfolding_all rfl, rfl, rfl, spread⟩
  have here : physicalLines tightCall = ["1,2cal s:F(".toList, "\\'a'.b)".toList] ++ ["bye".toList] := by
    decide +kernel
  have there : physicalLines looseCall = [looseLine.text, "bye".toList] := by decide +kernel
  have rewritten : Rewritten (physicalLines tightCall) (physicalLines looseCall) := by
    rw [here, there]
    exact .respace (by decide +kernel) (by decide) (by decide) respaced (.keep "bye".toList .nil)
  exact ⟨⟨respaced, spacing_does_not_matter.1 tightLine looseLine respaced⟩,
    ⟨rewritten, spacing_does_not_matter.2 "s" tightCall looseCall rewritten⟩, by decide +kernel⟩

end ExScript
