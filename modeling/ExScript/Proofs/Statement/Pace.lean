import ExScript.Proofs.Statement.Extent
import ExScript.Proofs.Statement.Relocation

set_option autoImplicit false

namespace ExScript

-- Skipping counts the lines that open and close functions; reading takes lines for its own reasons: flags, faults,
-- nested declarations.
def skipTo : Nat → List LexedLine → List LexedLine
  | 0, lines => lines
  | depth + 1, lines => skipFunctions (depth + 1) lines

section

variable {depth : Nat} {line : LexedLine}

theorem skip_to_function (opens : line.keyword? = some .function) (lines : List LexedLine) :
    skipTo (depth + 1) (line :: lines) = skipTo (depth + 2) lines := by
  simp only [skipTo, skipFunctions, opens]

theorem skip_to_endfunction (ends : line.keyword? = some .endfunction) (lines : List LexedLine) :
    skipTo (depth + 1) (line :: lines) = skipTo depth lines := by
  cases depth <;> simp [skipTo, skipFunctions, ends]

theorem skip_to_other (noFunction : line.keyword? ≠ some .function) (noEnd : line.keyword? ≠ some .endfunction)
    (lines : List LexedLine) : skipTo (depth + 1) (line :: lines) = skipTo (depth + 1) lines := by
  rw [skipTo, skipFunctions]
  split
  · rename_i opens
    exact absurd opens noFunction
  · rename_i ends
    exact absurd ends noEnd
  · rfl

theorem skip_to_nil (depth : Nat) : skipTo depth [] = [] := by
  cases depth <;> simp [skipTo, skipFunctions]

theorem skip_to_suffix (depth : Nat) (lines : List LexedLine) : skipTo depth lines <:+ lines := by
  induction lines generalizing depth with
  | nil => simp [skip_to_nil]
  | cons line lines ih =>
      have further : ∀ depth, skipTo depth lines <:+ line :: lines :=
        fun depth => (ih depth).trans (List.suffix_cons line lines)
      cases depth with
      | zero => exact List.suffix_rfl
      | succ depth =>
          by_cases opens : line.keyword? = some .function
          · rw [skip_to_function opens]
            exact further _
          · by_cases ends : line.keyword? = some .endfunction
            · rw [skip_to_endfunction ends]
              exact further _
            · rw [skip_to_other opens ends]
              exact further _

end

-- Where a reading ends that began with `goal` as the lines behind all open functions: a success leaves
-- `depth` of them open, and a fault has not passed the goal.
def Paced {α : Type} (goal : List LexedLine) (depth : Nat) : EStateM.Result ParseError (List LexedLine) α → Prop
  | .ok _ left => skipTo depth left = goal
  | .error _ stopped => goal <:+ stopped

section

variable {α β : Type} {goal : List LexedLine} {depth depth' : Nat} {lines : List LexedLine}

theorem paced_bind {first : LineReader α} {next : α → LineReader β} (firstPaced : Paced goal depth (first lines))
    (nextPaced : ∀ a left, first lines = .ok a left → Paced (skipTo depth left) depth' (next a left)) :
    Paced goal depth' ((first >>= next) lines) := by
  rw [reader_bind_eq]
  cases read : first lines with
  | error fault stopped =>
      rw [read] at firstPaced
      exact firstPaced
  | ok a left =>
      have there := nextPaced a left read
      rw [read] at firstPaced
      rw [show skipTo depth left = goal from firstPaced] at there
      exact there

theorem paced_throw (fault : ParseError) : Paced (skipTo depth lines) depth' ((throw fault : LineReader α) lines) :=
  skip_to_suffix depth lines

theorem paced_on_this_line (found : Except ParseError α) : Paced (skipTo depth lines) depth (onThisLine found lines) := by
  cases found with
  | error fault => exact paced_throw fault
  | ok a => exact Eq.refl (skipTo depth lines)

end

theorem flag_line_paced (depth : Nat) (lines : List LexedLine) :
    Paced (skipTo (depth + 1) lines) (depth + 1) (flagLine lines) := by
  unfold flagLine
  split
  · rename_i number tokens rest
    split
    · rename_i words listed
      have unkeyed := flag_line?_unkeyed number listed
      rw [skip_to_other (by simp [unkeyed]) (by simp [unkeyed])]
      exact paced_on_this_line _
    · exact paced_on_this_line (.ok Flags.empty)
  · exact paced_on_this_line (.ok Flags.empty)

theorem flags_after_paced (flags : Flags) (depth : Nat) (lines : List LexedLine) :
    Paced (skipTo (depth + 1) lines) (depth + 1) (flagsAfter flags lines) := by
  unfold flagsAfter
  split
  · exact flag_line_paced depth lines
  · exact paced_on_this_line (.ok flags)

-- The reader of a body's statements closes as many functions as skipping does.
def KeepsPace (reader : StatementReader) : Prop :=
  ∀ (depth : Nat) (line : LexedLine) (lines : List LexedLine), line.keyword? = some .function →
    Paced (skipTo (depth + 1) lines) depth (reader.run line lines)

theorem body_line_paced {inner : StatementReader} (contained : Contained inner) (keeps : KeepsPace inner) (depth : Nat)
    (line : LexedLine) (lines : List LexedLine) :
    Paced (skipTo (depth + 1) (line :: lines)) (depth + 1) (inner.run line lines) := by
  by_cases opens : line.keyword? = some .function
  · rw [skip_to_function opens]
    exact keeps (depth + 1) line lines opens
  · by_cases ends : line.keyword? = some .endfunction
    · obtain ⟨fault, fails⟩ := contained.closing ends
      rw [skip_to_endfunction ends, fails]
      exact paced_throw fault
    · obtain ⟨found, read⟩ := contained.single opens
      rw [skip_to_other opens ends, read]
      exact paced_on_this_line found

theorem function_body_paced {inner : StatementReader} (contained : Contained inner) (keeps : KeepsPace inner)
    (name : String) (header depth : Nat) (lines : List LexedLine) :
    Paced (skipTo (depth + 1) lines) depth (functionBody inner name header lines) := by
  cases lines with
  | nil =>
      rw [functionBody, skip_to_nil]
      exact List.suffix_rfl
  | cons line lines =>
      cases ended : endfunction? line with
      | some rest =>
          rw [functionBody, ended, skip_to_endfunction (endfunction?_keyword ended)]
          exact paced_on_this_line _
      | none =>
          rw [function_body_cons inner name header ended]
          refine paced_bind (body_line_paced contained keeps depth line lines) fun s left read => ?_
          have fewer : left.length ≤ lines.length := by simpa only [read, linesLeft] using inner.shrinks line lines
          refine paced_bind (function_body_paced contained keeps name header depth left) fun body left _ => ?_
          exact paced_on_this_line (.ok (s :: body))
termination_by lines.length
decreasing_by
  subst_vars
  exact Nat.lt_succ_of_le fewer

section

variable {inner : Option StatementReader}

theorem function_statement_paced (contained : ∀ reader, inner = some reader → Contained reader)
    (keeps : ∀ reader, inner = some reader → KeepsPace reader) (number : Nat) (last : Position) (ts : List Token)
    (depth : Nat) (lines : List LexedLine) :
    Paced (skipTo (depth + 1) lines) depth (functionStatement inner number last ts lines) := by
  refine paced_bind (paced_on_this_line (functionHeader last ts)) fun (header, rest) left _ => ?_
  refine paced_bind (flags_after_paced header.flags depth left) fun flags left _ => ?_
  cases inner with
  | none => exact paced_throw _
  | some reader =>
      have bodyPaced := function_body_paced (contained reader rfl) (keeps reader rfl) header.name.text number depth left
      exact paced_bind bodyPaced fun body left _ => paced_on_this_line (.ok _)

theorem statement_from_paced (contained : ∀ reader, inner = some reader → Contained reader)
    (keeps : ∀ reader, inner = some reader → KeepsPace reader) (depth : Nat) (line : LexedLine)
    (lines : List LexedLine) (opens : line.keyword? = some .function) :
    Paced (skipTo (depth + 1) lines) depth (statementFrom inner line lines) := by
  obtain ⟨number, tokens⟩ := line
  cases tokens with
  | error error => cases opens
  | ok tokens =>
      dsimp only [statementFrom]
      rcases leading_keyword?_cases number tokens with ⟨k, ts, leads, keyed⟩ | ⟨unled, unkeyed | ranged⟩
      · rw [leads]
        cases keyed.symm.trans opens
        dsimp only [keywordStatement]
        split
        · exact paced_throw _
        · exact function_statement_paced contained keeps number _ ts depth lines
      · cases unkeyed.symm.trans opens
      · obtain ⟨text, start, place, ts, same⟩ := ranged
        obtain ⟨fault, fails⟩ := command_statement_range (takeRange tokens).1 text start place ts
        rw [unled, same, fails]
        exact paced_throw fault

end

theorem statement_keeps_pace (room : Nat) : KeepsPace (statement room) := by
  induction room with
  | zero => exact statement_from_paced (by simp) (by simp)
  | succ room ih =>
      refine statement_from_paced ?_ ?_
      · intro reader same
        cases same
        exact statement_contained room
      · intro reader same
        cases same
        exact ih

end ExScript
