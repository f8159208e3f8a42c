import Mathlib.Data.List.TakeWhile
import ExScript.Proofs.Line.Joining
import ExScript.Proofs.Line.Places
import ExScript.Proofs.Script.Relocation

set_option autoImplicit false

namespace ExScript

-- The number of a line after `added` lines were put in behind line `last`.
def shiftAfter (last added number : Nat) : Nat := if number ≤ last then number else number + added

theorem shift_after_upto {last number : Nat} (upto : number ≤ last) (added : Nat) :
    shiftAfter last added number = number := if_pos upto

theorem shift_after_beyond {last number : Nat} (beyond : last < number) (added : Nat) :
    shiftAfter last added number = number + added := if_neg (Nat.not_le.mpr beyond)

section

variable (f : Nat → Nat)

def Position.renumber (p : Position) : Position := ⟨f p.line, p.column⟩

def Token.renumber (t : Token) : Token := ⟨t.kind, t.text, t.position.renumber f⟩

def Join.renumber (j : Join) : Join := ⟨j.offset, f j.line, j.column⟩

def LogicalLine.renumber (l : LogicalLine) : LogicalLine := ⟨f l.number, l.text, l.joins.map (Join.renumber f)⟩

def Renumbered (l l' : LogicalLine) : Prop := l' = l.renumber f

def Script.renumber (s : Script) : Script := ⟨s.id, s.statements, s.lines.map f⟩

-- The fault with other places, and with other line numbers where it has no place.
def ParseError.relocate (place : Position → Position) : ParseError → ParseError
  | .lex error => .lex ⟨error.cause, place error.position⟩
  | .expression p cause => .expression (place p) cause
  | .unknownFlag p word => .unknownFlag (place p) word
  | .unterminatedFunction line name => .unterminatedFunction (f line) name
  | .invalidFunctionName p cause => .invalidFunctionName (place p) cause
  | .expected p wanted found => .expected (place p) wanted found
  | .unexpectedEndfunction line => .unexpectedEndfunction (f line)
  | .returnWithoutExpression line => .returnWithoutExpression (f line)
  | .trailing p text => .trailing (place p) text
  | .missingArgument line command => .missingArgument (f line) command
  | .rangeNotAllowed line command => .rangeNotAllowed (f line) command
  | .nestingTooDeep p => .nestingTooDeep (place p)

def ParseError.renumber : ParseError → ParseError := ParseError.relocate f (Position.renumber f)

def ParseError.unplaced : ParseError → ParseError := ParseError.relocate f fun _ => ⟨0, 0⟩

end

section

variable (f : Nat → Nat)

theorem position_renumber (l : LogicalLine) (offset : Nat) :
    (l.renumber f).position offset = (l.position offset).renumber f := by
  have found : (l.joins.map (Join.renumber f)).find? (fun j => decide (j.offset ≤ offset)) =
      (l.joins.find? fun j => decide (j.offset ≤ offset)).map (Join.renumber f) := List.find?_map
  rw [LogicalLine.position, LogicalLine.position, LogicalLine.renumber, found]
  cases l.joins.find? fun j => decide (j.offset ≤ offset) <;> rfl

theorem token_renumber (l : LogicalLine) (x : Lexeme) : (l.renumber f).token x = (l.token x).renumber f := by
  rw [LogicalLine.token, position_renumber]
  rfl

theorem forall₂_map_eq {α β γ : Type} {same : α → β → Prop} {g : β → γ} {h : α → γ} {as : List α} {bs : List β}
    (moved : ∀ a b, same a b → g b = h a) (alike : List.Forall₂ same as bs) : bs.map g = as.map h := by
  induction alike with
  | nil => rfl
  | cons head _ ih => rw [List.map_cons, List.map_cons, moved _ _ head, ih]

theorem tokens_text_alike {ts ts' : List Token} (alike : List.Forall₂ (fun t t' => t'.text = t.text) ts ts') :
    tokensText ts' = tokensText ts := by
  have texts : ts'.map Token.text = ts.map Token.text := forall₂_map_eq (fun _ _ same => same) alike
  rw [tokensText, tokensText, texts]

def renumbering : Relocation where
  token t t' := t' = t.renumber f
  place p p' := p' = p.renumber f
  line n n' := n' = f n
  flag _ p p' := p' = p.renumber f
  extra text text' := text' = text
  kind_eq same := by rw [same]; rfl
  place_of same := by rw [same]; rfl
  flag_of same _ := by rw [same]; rfl
  flag_within same _ _ := by rw [same]; rfl
  extra_of tokens := tokens_text_alike (tokens.imp fun _ _ same => by rw [same]; rfl)

-- The same tokens at places of which nothing is known.
def unplacing : Relocation where
  token t t' := t'.kind = t.kind ∧ t'.text = t.text
  place _ _ := True
  line n n' := n' = f n
  flag _ _ _ := True
  extra text text' := text' = text
  kind_eq same := same.1
  place_of _ := trivial
  flag_of _ _ := trivial
  flag_within _ _ _ := trivial
  extra_of tokens := tokens_text_alike (tokens.imp fun _ _ same => same.2)

variable {f}

theorem moves_renumbering {fault fault' : ParseError} (moves : (renumbering f).Moves fault fault') :
    fault' = fault.renumber f := by
  cases moves with
  | @lex error error' same moved =>
      obtain ⟨cause, place⟩ := error'
      cases same
      cases moved
      rfl
  | trailing moved written =>
      cases moved
      cases written
      rfl
  | _ =>
      rename_i moved
      cases moved
      rfl

theorem moves_unplacing {fault fault' : ParseError} (moves : (unplacing f).Moves fault fault') :
    fault'.unplaced id = fault.unplaced f := by
  cases moves with
  | lex same moved => exact congrArg (fun cause => ParseError.lex ⟨cause, ⟨0, 0⟩⟩) same
  | trailing moved written =>
      cases written
      rfl
  | unterminatedFunction name moved | unexpectedEndfunction moved | returnWithoutExpression moved
  | missingArgument command moved | rangeNotAllowed command moved =>
      cases moved
      rfl
  | _ => rfl

theorem scripts_renumbered {r : Relocation} (numbers : ∀ n n', r.line n n' → n' = f n) {s s' : Script}
    (alike : r.Scripts s s') : s' = s.renumber f := by
  have lines := forall₂_map_eq (g := id) numbers alike.lines
  rw [List.map_id] at lines
  obtain ⟨name, statements, numbers'⟩ := s'
  rw [Script.renumber, ← lines, ← alike.id, ← alike.statements]

-- What is read of two texts under a relocation, when faults can be compared after `g` and `h`.
theorem parse_moved {r : Relocation} (numbers : ∀ n n', r.line n n' → n' = f n) {g h : ParseError → ParseError}
    (moved : ∀ fault fault', r.Moves fault fault' → g fault' = h fault) (name : String) {source source' : List Char}
    (left : r.Lines (lexLines source) (lexLines source')) :
    (Script.parse name source').mapError g = ((Script.parse name source).map (Script.renumber f)).mapError h ∧
      (Script.parseLenient name source').1 = (Script.parseLenient name source).1.renumber f ∧
      (Script.parseLenient name source').2.map g = (Script.parseLenient name source).2.map h := by
  have strict := parse_alike name left
  obtain ⟨script, faults⟩ := parse_lenient_alike name left
  refine ⟨?_, scripts_renumbered numbers script, forall₂_map_eq moved faults⟩
  generalize Script.parse name source = found at strict
  generalize Script.parse name source' = found' at strict
  cases strict with
  | ok alike => rw [scripts_renumbered numbers alike]; rfl
  | error moves => exact congrArg Except.error (moved _ _ moves)

end

-- Whether a line holds no command: after blanks and colons comes nothing, or a comment.
def saysNothing (line : List Char) : Bool :=
  match line.dropWhile isLineLead with
  | [] => true
  | '"' :: _ => true
  | _ => false

theorem says_nothing_cases {line : List Char} (nothing : saysNothing line = true) :
    line.dropWhile isLineLead = [] ∨ ∃ note, line.dropWhile isLineLead = '"' :: note := by
  unfold saysNothing at nothing
  split at nothing
  · rename_i empty
    exact .inl empty
  · rename_i comment
    exact .inr ⟨_, comment⟩
  · cases nothing

theorem lexed?_nothing {line : List Char} (nothing : saysNothing line = true) (number : Nat) :
    (LogicalLine.start number line).lexed? = none := by
  have scanned : scanLine line = .ok [] := by
    unfold scanLine
    rcases says_nothing_cases nothing with empty | ⟨note, comment⟩
    · rw [empty]
    · rw [comment]
      rfl
  rw [LogicalLine.lexed?, tokens_of_scan scanned]
  rfl

-- A continuation has something left after blanks and colons, namely its backslash.
theorem continuation?_nothing {line : List Char} (nothing : saysNothing line = true) : continuation? line = none := by
  unfold continuation?
  split
  · rename_i start
    have left := drop_lead_of_drop_blanks start rfl
    rcases says_nothing_cases nothing with empty | ⟨note, comment⟩
    · cases left.symm.trans empty
    · cases left.symm.trans comment
  · rfl

section

variable {last added : Nat}

theorem renumber_before {l : LogicalLine} (upto : l.Before (1 + last)) : l.renumber (shiftAfter last added) = l := by
  have joins : l.joins.map (Join.renumber (shiftAfter last added)) = l.joins := by
    refine (List.map_congr_left fun j member => ?_).trans (List.map_id _)
    have line := upto.joins j member
    rw [Join.renumber, shift_after_upto (by omega)]
    rfl
  have number := upto.number
  rw [LogicalLine.renumber, joins, shift_after_upto (by omega)]

theorem shift_after_next (i : Nat) : shiftAfter last added (1 + last + i) = 1 + last + added + i := by
  rw [shift_after_beyond (by omega)]
  omega

theorem renumber_behind (lines : List (List Char)) {current : Option LogicalLine}
    (upto : ∀ l ∈ current, l.Before (1 + last)) :
    List.Forall₂ (Renumbered (shiftAfter last added)) (joinLines current (1 + last) lines)
      (joinLines current (1 + last + added) lines) := by
  apply join_lines_alike
  · intro i line
    rw [← shift_after_next]
    rfl
  · rintro i column tail l _ rfl
    rw [← shift_after_next]
    rfl
  · cases current with
    | none => exact .none
    | some l => exact .some (renumber_before (upto l rfl)).symm

theorem lines_renumbered {f : Nat → Nat} {ls ls' : List LogicalLine} (same : List.Forall₂ (Renumbered f) ls ls') :
    (renumbering f).Lines (ls.filterMap (·.lexed?)) (ls'.filterMap (·.lexed?)) := by
  refine lines_scanned (same.imp ?_)
  rintro l _ rfl
  exact scanned_same rfl rfl (fun _ _ x _ => token_renumber f l x) fun fault _ => position_renumber f l fault.offset

end

-- Up to the place of insertion nothing changes; behind it all is joined as before, to the line still open there
-- if it continues that, and to none otherwise.
theorem lex_lines_inserted {source source' : List Char} {before after : List (List Char)} {line : List Char}
    (here : physicalLines source = before ++ after) (there : physicalLines source' = before ++ line :: after)
    (skipped : isContinuationComment line = true ∨ saysNothing line = true ∧ continues after = false) :
    (renumbering (shiftAfter before.length 1)).Lines (lexLines source) (lexLines source') := by
  obtain ⟨done, left, bounds, joined⟩ := join_lines_front before none 1
  obtain ⟨doneUpto, leftUpto⟩ := bounds (by simp)
  have kept : ∀ ls : List LogicalLine, (∀ l ∈ ls, l.Before (1 + before.length)) →
      List.Forall₂ (Renumbered (shiftAfter before.length 1)) ls ls :=
    fun ls upto => List.forall₂_same.mpr fun l member => (renumber_before (upto l member)).symm
  rw [lexLines, lexLines, logicalLines, logicalLines, here, there, joined, joined]
  by_cases comment : isContinuationComment line = true
  · rw [join_lines_comment comment]
    exact lines_renumbered (List.rel_append (kept done doneUpto) (renumber_behind after leftUpto))
  · obtain ⟨nothing, apart⟩ := skipped.resolve_left comment
    rw [join_lines_start (Bool.eq_false_iff.mpr comment) (.inr (continuation?_nothing nothing)),
      join_lines_apart left _ apart, join_lines_apart (some _) _ apart]
    have closed := kept (done ++ left.toList) (by simpa [or_imp, forall_and] using ⟨doneUpto, leftUpto⟩)
    have all := lines_renumbered (List.rel_append closed (@renumber_behind before.length 1 after none (by simp)))
    simpa [lexed?_nothing nothing] using all

theorem comments_are_transparent (name : String) (source source' : List Char) (before after : List (List Char))
    (line : List Char) (here : physicalLines source = before ++ after)
    (there : physicalLines source' = before ++ line :: after)
    (skipped : isContinuationComment line = true ∨ saysNothing line = true ∧ continues after = false) :
    Script.parse name source' =
        ((Script.parse name source).map (Script.renumber (shiftAfter before.length 1))).mapError
          (ParseError.renumber (shiftAfter before.length 1)) ∧
      (Script.parseLenient name source').1 =
        (Script.parseLenient name source).1.renumber (shiftAfter before.length 1) ∧
      (Script.parseLenient name source').2 =
        (Script.parseLenient name source).2.map (ParseError.renumber (shiftAfter before.length 1)) := by
  have moved := parse_moved (g := id) (fun _ _ same => same) (fun _ _ => moves_renumbering) name
    (lex_lines_inserted here there skipped)
  rw [List.map_id] at moved
  generalize Script.parse name source' = found at moved ⊢
  cases found <;> exact moved

-- A note between a header and its flag line, or a comment behind it; the last line is at fault.
def flagged : List Char := "function F()\nabort\nendfunction\n1,2echo".toList

def notedFlags : List Char := "function F()\n \"\\ note\nabort\nendfunction\n1,2echo".toList

def commentedBody : List Char := "function F()\nabort\n :: \" note\nendfunction\n1,2echo".toList

theorem flagged_transparent :
    (isContinuationComment " \"\\ note".toList = true ∧
      Script.parseLenient "s" notedFlags =
        ((Script.parseLenient "s" flagged).1.renumber (shiftAfter 1 1),
          (Script.parseLenient "s" flagged).2.map (ParseError.renumber (shiftAfter 1 1)))) ∧
    (saysNothing " :: \" note".toList = true ∧
      Script.parse "s" commentedBody =
        ((Script.parse "s" flagged).map (Script.renumber (shiftAfter 2 1))).mapError
          (ParseError.renumber (shiftAfter 2 1))) ∧
    (Script.parseLenient "s" flagged).2 = [.rangeNotAllowed 4 .echo] := by
  refine ⟨⟨by decide, ?_⟩, ⟨by decide, ?_⟩, by decide +kernel⟩
  · obtain ⟨-, script, faults⟩ := comments_are_transparent "s" flagged notedFlags ["function F()".toList]
      (["abort", "endfunction", "1,2echo"].map String.toList) " \"\\ note".toList (by decide +kernel)
      (by decide +kernel) (.inl (by decide))
    exact Prod.ext script faults
  · exact (comments_are_transparent "s" flagged commentedBody (["function F()", "abort"].map String.toList)
      (["endfunction", "1,2echo"].map String.toList) " :: \" note".toList (by decide +kernel) (by decide +kernel)
      (.inr ⟨by decide, by decide⟩)).1

-- The same text, starting on the physical line that its number has become.
structure SameText (f : Nat → Nat) (l l' : LogicalLine) : Prop where
  text : l'.text = l.text
  number : l'.number = f l.number

theorem lines_same_text {f : Nat → Nat} {ls ls' : List LogicalLine} (same : List.Forall₂ (SameText f) ls ls') :
    (unplacing f).Lines (ls.filterMap (·.lexed?)) (ls'.filterMap (·.lexed?)) := by
  refine lines_scanned (same.imp fun l l' alike => ?_)
  exact scanned_same alike.number alike.text (fun _ _ _ _ => ⟨rfl, rfl⟩) fun _ _ => trivial

theorem drop_blanks_append {u : List Char} (filled : dropBlanks u ≠ []) (v : List Char) :
    dropBlanks (u ++ v) = dropBlanks u ++ v := by
  unfold dropBlanks at filled ⊢
  rw [List.dropWhile_append, if_neg (by simpa using filled)]

section

variable {u v : List Char}

theorem is_continuation_comment_front (filled : dropBlanks u ≠ [])
    (plain : isContinuationComment (u ++ v) = false) : isContinuationComment u = false := by
  rw [isContinuationComment, drop_blanks_append filled] at plain
  unfold isContinuationComment
  split
  · rename_i start
    rw [start] at plain
    cases plain
  · rfl

-- The backslash of a continuation is its first character that is no blank, so it stands before the break.
theorem continuation?_front (filled : dropBlanks u ≠ []) :
    continuation? (u ++ v) = (continuation? u).map fun found => (found.1, found.2 ++ v) := by
  cases found : continuation? u with
  | some continued =>
      obtain ⟨indent, blank, whole, column⟩ := continuation?_iff.mp found
      exact continuation?_iff.mpr ⟨indent, blank, by rw [whole, List.append_assoc]; rfl, column⟩
  | none =>
      refine Option.eq_none_iff_forall_ne_some.mpr ?_
      rintro ⟨column, tail⟩ continued
      obtain ⟨indent, blank, whole, -⟩ := continuation?_iff.mp continued
      rcases append_cut whole with ⟨more, rfl, -⟩ | ⟨more, rfl⟩
      · apply filled
        rw [List.all_append, Bool.and_eq_true] at blank
        exact List.dropWhile_eq_nil_iff.mpr (List.all_eq_true.mp blank.1)
      · cases (continuation?_iff.mpr ⟨indent, blank, rfl, rfl⟩).symm.trans found

theorem is_continuation_comment_continuation {line : List Char} {column : Nat}
    (continued : continuation? line = some (column, v)) : isContinuationComment line = false := by
  unfold continuation? at continued
  split at continued
  · rename_i start
    rw [isContinuationComment, start]
    rfl
  · cases continued

-- The two parts are joined to the text that the whole line had; all lines behind them move together.
theorem logical_lines_broken {source source' : List Char} {before after notes : List (List Char)} {indent : List Char}
    (here : physicalLines source = before ++ (u ++ v) :: after)
    (there : physicalLines source' = before ++ u :: (notes ++ (indent ++ '\\' :: v) :: after))
    (filled : dropBlanks u ≠ []) (plain : isContinuationComment (u ++ v) = false)
    (comments : ∀ note ∈ notes, isContinuationComment note = true) (blank : indent.all isBlank = true) :
    List.Forall₂ (SameText (shiftAfter (before.length + 1) (notes.length + 1))) (logicalLines source)
      (logicalLines source') := by
  have plainFront := is_continuation_comment_front filled plain
  have continued : continuation? (indent ++ '\\' :: v) = some (byteLength indent + 2, v) :=
    continuation?_iff.mpr ⟨indent, blank, rfl, rfl⟩
  have second := is_continuation_comment_continuation continued
  obtain ⟨done, left, bounds, joined⟩ := join_lines_front before none 1
  obtain ⟨doneUpto, leftUpto⟩ := bounds (by simp)
  have moved : ∀ i, 1 + before.length + 1 + notes.length + 1 + i =
      shiftAfter (before.length + 1) (notes.length + 1) (1 + before.length + 1 + i) := by
    intro i
    rw [shift_after_beyond (by omega)]
    omega
  have behind : ∀ {l l' : LogicalLine}, SameText (shiftAfter (before.length + 1) (notes.length + 1)) l
        (l'.extend (1 + before.length + 1 + notes.length) (byteLength indent + 2) v) →
      List.Forall₂ (SameText (shiftAfter (before.length + 1) (notes.length + 1)))
        (joinLines (some l) (1 + before.length + 1) after)
        (joinLines (some l') (1 + before.length + 1) (notes ++ (indent ++ '\\' :: v) :: after)) := by
    intro l l' same
    rw [join_lines_comments comments, join_lines_extend second continued]
    apply join_lines_alike
    · exact fun i line => ⟨rfl, moved i⟩
    · rintro i column tail l l' ⟨text, number⟩
      exact ⟨congrArg (· ++ tail) text, number⟩
    · exact .some same
  have kept : ∀ l : LogicalLine, l.Before (1 + before.length) →
      l.number = shiftAfter (before.length + 1) (notes.length + 1) l.number := by
    intro l upto
    have bound := upto.number
    rw [shift_after_upto (by omega)]
  have here' : 1 + before.length = shiftAfter (before.length + 1) (notes.length + 1) (1 + before.length) := by
    rw [shift_after_upto (by omega)]
  rw [logicalLines, logicalLines, here, there, joined, joined]
  refine List.rel_append (List.forall₂_same.mpr fun l member => ⟨rfl, kept l (doneUpto l member)⟩) ?_
  by_cases fresh : left = none ∨ continuation? u = none
  · have fresh' : left = none ∨ continuation? (u ++ v) = none := by
      rw [continuation?_front filled]
      exact fresh.imp_right fun none => by rw [none]; rfl
    rw [join_lines_start plain fresh', join_lines_start plainFront fresh]
    refine List.rel_append (List.forall₂_same.mpr fun l member => ⟨rfl, kept l (leftUpto l ?_)⟩) (behind ⟨rfl, here'⟩)
    exact Option.mem_toList.mp member
  · obtain ⟨goesOn, continues⟩ := not_or.mp fresh
    obtain ⟨l, rfl⟩ := Option.ne_none_iff_exists'.mp goesOn
    obtain ⟨⟨column, tail⟩, found⟩ := Option.ne_none_iff_exists'.mp continues
    have whole : continuation? (u ++ v) = some (column, tail ++ v) := by
      rw [continuation?_front filled, found]
      rfl
    rw [join_lines_extend plain whole, join_lines_extend plainFront found]
    exact behind ⟨List.append_assoc l.text tail v, kept l (leftUpto l rfl)⟩

end

theorem continuation_is_exact (name : String) (source source' : List Char) (before after notes : List (List Char))
    (u v indent : List Char) (here : physicalLines source = before ++ (u ++ v) :: after)
    (there : physicalLines source' = before ++ u :: (notes ++ (indent ++ '\\' :: v) :: after))
    (filled : dropBlanks u ≠ []) (plain : isContinuationComment (u ++ v) = false)
    (comments : ∀ note ∈ notes, isContinuationComment note = true) (blank : indent.all isBlank = true) :
    (Script.parse name source').mapError (ParseError.unplaced id) =
        ((Script.parse name source).map (Script.renumber (shiftAfter (before.length + 1) (notes.length + 1)))).mapError
          (ParseError.unplaced (shiftAfter (before.length + 1) (notes.length + 1))) ∧
      (Script.parseLenient name source').1 =
        (Script.parseLenient name source).1.renumber (shiftAfter (before.length + 1) (notes.length + 1)) ∧
      (Script.parseLenient name source').2.map (ParseError.unplaced id) =
        (Script.parseLenient name source).2.map
          (ParseError.unplaced (shiftAfter (before.length + 1) (notes.length + 1))) :=
  parse_moved (fun _ _ same => same) (fun _ _ => moves_unplacing) name
    (lines_same_text (logical_lines_broken here there filled plain comments blank))

-- The break falls into a string, on a line that is a continuation itself.
def joinedString : List Char := "echo 'a\n  \\ b' . x\nlet y = 2".toList

def brokenString : List Char := "echo 'a\n  \\ \n\"\\ note\n\t\\b' . x\nlet y = 2".toList

theorem string_broken :
    dropBlanks "  \\ ".toList ≠ [] ∧
      (Script.parse "s" brokenString).mapError (ParseError.unplaced id) =
        ((Script.parse "s" joinedString).map (Script.renumber (shiftAfter 2 2))).mapError
          (ParseError.unplaced (shiftAfter 2 2)) ∧
      (Script.parse "s" joinedString).toOption.map Script.lines = some [1, 3] := by
  refine ⟨by decide, ?_, by decide +kernel⟩
  exact (continuation_is_exact "s" joinedString brokenString ["echo 'a".toList] ["let y = 2".toList]
    ["\"\\ note".toList] "  \\ ".toList "b' . x".toList "\t".toList (by decide +kernel) (by decide +kernel)
    (by decide) (by decide)
    (List.all_eq_true.mp (by decide)) (by decide)).1

end ExScript
