import Mathlib.Data.List.Forall2
import ExScript.Proofs.Token.Scanning
import ExScript.Proofs.Token.Tiling

set_option autoImplicit false

namespace ExScript

-- Whether the lines go on with what stands before them: comments between continuations are no obstacle.
def continues : List (List Char) → Bool
  | [] => false
  | line :: lines => if isContinuationComment line then continues lines else (continuation? line).isSome

theorem continuation?_iff {line tail : List Char} {column : Nat} : continuation? line = some (column, tail) ↔
    ∃ indent, indent.all isBlank = true ∧ line = indent ++ '\\' :: tail ∧ column = byteLength indent + 2 := by
  constructor
  · intro found
    unfold continuation? at found
    split at found
    · rename_i rest
      cases found
      exact ⟨line.takeWhile isBlank, List.all_takeWhile, by rw [← rest, take_while_append_drop_blanks], rfl⟩
    · cases found
  · rintro ⟨indent, blank, rfl, rfl⟩
    have ends : ∀ c, ('\\' :: tail).head? = some c → isBlank c = false := by
      rintro c ⟨⟩
      rfl
    obtain ⟨taken, left⟩ := take_while_piece blank ends
    rw [continuation?, dropBlanks, left, taken]
    rfl

-- A character that is no blank and no colon ends both the blanks and the lead that a line starts with.
theorem drop_lead_of_drop_blanks {line rest : List Char} {c : Char} (start : dropBlanks line = c :: rest)
    (stays : isLineLead c = false) : line.dropWhile isLineLead = c :: rest := by
  have ends : ∀ d, (c :: rest).head? = some d → isLineLead d = false := by
    rintro d ⟨⟩
    exact stays
  have whole := take_while_append_drop_blanks line
  rw [start] at whole
  have left := (take_while_piece (s := line.takeWhile isBlank) (lead_of_blanks List.all_takeWhile) ends).2
  rw [whole] at left
  exact left

section

variable {current : Option LogicalLine} {l : LogicalLine} {number column : Nat} {line tail : List Char}
  {lines : List (List Char)}

theorem join_lines_comment (comment : isContinuationComment line = true) :
    joinLines current number (line :: lines) = joinLines current (number + 1) lines := by
  conv_lhs => unfold joinLines
  rw [if_pos comment]

theorem join_lines_extend (plain : isContinuationComment line = false)
    (goesOn : continuation? line = some (column, tail)) :
    joinLines (some l) number (line :: lines) = joinLines (some (l.extend number column tail)) (number + 1) lines := by
  conv_lhs => unfold joinLines
  rw [if_neg (Bool.eq_false_iff.mp plain), goesOn]

theorem join_lines_start (plain : isContinuationComment line = false)
    (fresh : current = none ∨ continuation? line = none) :
    joinLines current number (line :: lines) =
      current.toList ++ joinLines (some (.start number line)) (number + 1) lines := by
  conv_lhs => unfold joinLines
  rw [if_neg (Bool.eq_false_iff.mp plain)]
  rcases fresh with rfl | starts
  · rfl
  · rw [starts]
    cases current <;> rfl

end

theorem continues_comment {line : List Char} (comment : isContinuationComment line = true) (lines : List (List Char)) :
    continues (line :: lines) = continues lines := by
  rw [continues, if_pos comment]

theorem continues_plain {line : List Char} (plain : isContinuationComment line = false) (lines : List (List Char)) :
    continues (line :: lines) = (continuation? line).isSome := by
  rw [continues, if_neg (Bool.eq_false_iff.mp plain)]

-- Lines that continue nothing close the line still open, and are then joined as if it had not been there.
theorem join_lines_apart (current : Option LogicalLine) (number : Nat) {lines : List (List Char)}
    (apart : continues lines = false) :
    joinLines current number lines = current.toList ++ joinLines none number lines := by
  induction lines generalizing number with
  | nil => exact (List.append_nil _).symm
  | cons line lines ih =>
      by_cases comment : isContinuationComment line = true
      · rw [continues_comment comment] at apart
        rw [join_lines_comment comment, join_lines_comment comment]
        exact ih (number + 1) apart
      · have plain := Bool.eq_false_iff.mpr comment
        rw [continues_plain plain, Option.isSome_eq_false_iff, Option.isNone_iff_eq_none] at apart
        rw [join_lines_start plain (.inr apart), join_lines_start plain (.inl rfl)]
        rfl

theorem join_lines_comments {notes : List (List Char)} (comments : ∀ note ∈ notes, isContinuationComment note = true)
    (current : Option LogicalLine) (number : Nat) (lines : List (List Char)) :
    joinLines current number (notes ++ lines) = joinLines current (number + notes.length) lines := by
  induction notes generalizing number with
  | nil => rfl
  | cons note notes ih =>
      rw [List.cons_append, join_lines_comment (comments note (by simp)),
        ih (fun other member => comments other (by simp [member])), List.length_cons, Nat.add_assoc,
        Nat.add_comm 1]

-- All physical lines that the logical line consists of stand before the given number.
structure LogicalLine.Before (bound : Nat) (l : LogicalLine) : Prop where
  number : l.number < bound
  joins : ∀ j ∈ l.joins, j.line < bound

theorem before_mono {l : LogicalLine} {bound bound' : Nat} (upto : l.Before bound) (less : bound ≤ bound') :
    l.Before bound' :=
  ⟨Nat.lt_of_lt_of_le upto.number less, fun j member => Nat.lt_of_lt_of_le (upto.joins j member) less⟩

theorem before_start (number : Nat) (line : List Char) : (LogicalLine.start number line).Before (number + 1) :=
  ⟨Nat.lt_succ_self number, fun _ member => absurd member List.not_mem_nil⟩

theorem before_extend {l : LogicalLine} {number : Nat} (upto : l.Before number) (column : Nat) (tail : List Char) :
    (l.extend number column tail).Before (number + 1) := by
  refine ⟨Nat.lt_succ_of_lt upto.number, fun j member => ?_⟩
  rcases List.mem_cons.mp member with rfl | member
  · exact Nat.lt_succ_self number
  · exact Nat.lt_succ_of_lt (upto.joins j member)

-- A physical line closes some logical lines, and leaves one open for those to come.
theorem join_lines_step (line : List Char) (current : Option LogicalLine) (number : Nat) :
    ∃ done next, ((∀ l ∈ current, l.Before number) →
        (∀ l ∈ done, l.Before (number + 1)) ∧ ∀ l ∈ next, l.Before (number + 1)) ∧
      ∀ lines, joinLines current number (line :: lines) = done ++ joinLines next (number + 1) lines := by
  have later : (∀ l ∈ current, l.Before number) → ∀ l ∈ current, l.Before (number + 1) :=
    fun upto l member => before_mono (upto l member) (Nat.le_succ _)
  by_cases comment : isContinuationComment line = true
  · exact ⟨[], current, fun upto => ⟨by simp, later upto⟩, fun _ => join_lines_comment comment⟩
  · have plain := Bool.eq_false_iff.mpr comment
    by_cases fresh : current = none ∨ continuation? line = none
    · refine ⟨current.toList, some (.start number line), fun upto => ⟨by simpa using later upto, ?_⟩,
        fun _ => join_lines_start plain fresh⟩
      rintro l ⟨⟩
      exact before_start number line
    · obtain ⟨goesOn, continued⟩ := not_or.mp fresh
      obtain ⟨l, rfl⟩ := Option.ne_none_iff_exists'.mp goesOn
      obtain ⟨⟨column, tail⟩, found⟩ := Option.ne_none_iff_exists'.mp continued
      refine ⟨[], some (l.extend number column tail), fun upto => ⟨by simp, ?_⟩, fun _ => join_lines_extend plain found⟩
      rintro l' ⟨⟩
      exact before_extend (upto l rfl) column tail

theorem join_lines_front (front : List (List Char)) (current : Option LogicalLine) (number : Nat) :
    ∃ done left, ((∀ l ∈ current, l.Before number) →
        (∀ l ∈ done, l.Before (number + front.length)) ∧ ∀ l ∈ left, l.Before (number + front.length)) ∧
      ∀ lines, joinLines current number (front ++ lines) = done ++ joinLines left (number + front.length) lines := by
  induction front generalizing current number with
  | nil => exact ⟨[], current, fun upto => ⟨by simp, upto⟩, fun _ => rfl⟩
  | cons line front ih =>
      obtain ⟨first, next, bounds, step⟩ := join_lines_step line current number
      obtain ⟨done, left, boundsLater, joined⟩ := ih next (number + 1)
      have moved : number + 1 + front.length = number + (line :: front).length := by
        rw [List.length_cons]
        omega
      refine ⟨first ++ done, left, fun upto => ?_, fun lines => ?_⟩
      · obtain ⟨firstUpto, nextUpto⟩ := bounds upto
        obtain ⟨doneUpto, leftUpto⟩ := boundsLater nextUpto
        rw [← moved]
        refine ⟨fun l member => ?_, leftUpto⟩
        rcases List.mem_append.mp member with before | after
        · exact before_mono (firstUpto l before) (Nat.le_add_right _ _)
        · exact doneUpto l after
      · rw [List.cons_append, step, joined, List.append_assoc, moved]

-- Lines that do not continue what stands before them can be joined on their own.
theorem join_lines_append (front : List (List Char)) (current : Option LogicalLine) (number : Nat)
    {lines : List (List Char)} (apart : continues lines = false) :
    joinLines current number (front ++ lines) =
      joinLines current number front ++ joinLines none (number + front.length) lines := by
  obtain ⟨done, left, -, joined⟩ := join_lines_front front current number
  have alone := joined []
  rw [List.append_nil] at alone
  rw [joined, join_lines_apart left _ apart, alone, List.append_assoc]
  rfl

theorem join_lines_step_alike {same : LogicalLine → LogicalLine → Prop} {number number' : Nat} (line : List Char)
    (starts : same (.start number line) (.start number' line))
    (grows : ∀ column tail l l', same l l' → same (l.extend number column tail) (l'.extend number' column tail))
    {current current' : Option LogicalLine} (open' : Option.Rel same current current') :
    ∃ done done' next next', List.Forall₂ same done done' ∧ Option.Rel same next next' ∧
      (∀ lines, joinLines current number (line :: lines) = done ++ joinLines next (number + 1) lines) ∧
      ∀ lines, joinLines current' number' (line :: lines) = done' ++ joinLines next' (number' + 1) lines := by
  by_cases comment : isContinuationComment line = true
  · exact ⟨[], [], current, current', .nil, open', fun _ => join_lines_comment comment,
      fun _ => join_lines_comment comment⟩
  · have plain := Bool.eq_false_iff.mpr comment
    cases open' with
    | none =>
        exact ⟨_, _, _, _, .nil, .some starts, fun _ => join_lines_start plain (.inl rfl),
          fun _ => join_lines_start plain (.inl rfl)⟩
    | some alike =>
        cases found : continuation? line with
        | none =>
            exact ⟨_, _, _, _, .cons alike .nil, .some starts, fun _ => join_lines_start plain (.inr found),
              fun _ => join_lines_start plain (.inr found)⟩
        | some continued =>
            exact ⟨[], [], _, _, .nil, .some (grows _ _ _ _ alike), fun _ => join_lines_extend plain found,
              fun _ => join_lines_extend plain found⟩

-- The same physical lines under other numbers, and behind other open lines. If `same` survives what a physical
-- line does to a logical one, then it holds of all that comes out.
theorem join_lines_alike {same : LogicalLine → LogicalLine → Prop} {number number' : Nat} (lines : List (List Char))
    (starts : ∀ i line, same (.start (number + i) line) (.start (number' + i) line))
    (grows : ∀ i column tail l l', same l l' →
      same (l.extend (number + i) column tail) (l'.extend (number' + i) column tail))
    {current current' : Option LogicalLine} (open' : Option.Rel same current current') :
    List.Forall₂ same (joinLines current number lines) (joinLines current' number' lines) := by
  induction lines generalizing number number' current current' with
  | nil =>
      cases open' with
      | none => exact .nil
      | some alike => exact .cons alike .nil
  | cons line lines ih =>
      obtain ⟨done, done', next, next', closed, opened, step, step'⟩ :=
        @join_lines_step_alike same number number' line (starts 0 line) (grows 0) _ _ open'
      rw [step, step']
      refine List.rel_append closed (ih (fun i line => ?_) (fun i column tail l l' alike => ?_) opened)
      · rw [Nat.add_assoc, Nat.add_assoc]
        exact starts (1 + i) line
      · rw [Nat.add_assoc, Nat.add_assoc]
        exact grows (1 + i) column tail l l' alike

end ExScript
