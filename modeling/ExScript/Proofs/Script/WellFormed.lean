import ExScript.Proofs.Script.Progress
import ExScript.Proofs.Statement.WellFormed

set_option autoImplicit false

namespace ExScript

theorem read_lenient_well_formed {lines : List LexedLine} (shaped : ∀ l ∈ lines, l.Shaped) {number : Nat} {s : Statement}
    (found : .ok (number, s) ∈ readLenient lines) : s.WellFormed := by
  fun_induction readLenient lines with
  | case1 => cases found
  | case2 line lines fault stopped failed ih =>
      rw [List.mem_cons] at found
      rcases found with here | later
      · cases here
      · apply ih _ later
        rw [(statement_stops failed).1]
        exact fun l member => (List.forall_mem_cons.mp shaped).2 l ((skip_statement_suffix line lines).mem member)
  | case3 line lines s' left read ih =>
      have formed := statement_forms nestingLimit line lines s' left shaped read
      rcases List.mem_cons.mp found with here | later
      · cases here
        exact formed.wellFormed
      · exact ih formed.shaped later

theorem lex_lines_shaped (text : List Char) : ∀ l ∈ lexLines text, l.Shaped := by
  intro line listed ks same
  unfold LexedLine.kinds? at same
  split at same
  · rename_i tokens lexed
    cases same
    exact lex_lines_shape listed lexed
  · cases same

theorem parse_recorded {id : String} {text : List Char} {script : Script} (read : Script.parse id text = .ok script)
    {s : Statement} (member : s ∈ script.statements) : ∃ number, .ok (number, s) ∈ readLenient (lexLines text) := by
  obtain ⟨more, lenient, -⟩ := read_lenient_continues (lexLines text)
  unfold Script.parse at read
  split at read
  · rename_i statements strict
    cases read
    obtain ⟨⟨number, _⟩, listed, rfl⟩ := List.mem_map.mp member
    refine ⟨number, ?_⟩
    rw [lenient, strict]
    exact List.mem_append_left more (List.mem_map_of_mem listed)
  · cases read

theorem parse_lenient_recorded {id : String} {text : List Char} {s : Statement}
    (member : s ∈ (Script.parseLenient id text).1.statements) :
    ∃ number, .ok (number, s) ∈ readLenient (lexLines text) := by
  rw [parse_lenient_eq] at member
  obtain ⟨⟨number, _⟩, listed, rfl⟩ := List.mem_map.mp member
  obtain ⟨found, recorded, kept⟩ := List.mem_filterMap.mp listed
  cases found with
  | error fault => cases kept
  | ok numbered =>
      cases kept
      exact ⟨number, recorded⟩

theorem all_well_formed_of_mem {body : List Statement} (each : ∀ s ∈ body, s.WellFormed) : AllWellFormed body := by
  induction body with
  | nil => exact trivial
  | cons s rest ih =>
      obtain ⟨first, others⟩ := List.forall_mem_cons.mp each
      exact ⟨first, ih others⟩

theorem parsed_well_formed (id : String) (text : List Char) (script : Script)
    (found : Script.parse id text = .ok script ∨ (Script.parseLenient id text).1 = script) :
    AllWellFormed script.statements := by
  apply all_well_formed_of_mem
  intro s member
  have recorded : ∃ number, .ok (number, s) ∈ readLenient (lexLines text) := by
    rcases found with read | read
    · exact parse_recorded read member
    · rw [← read] at member
      exact parse_lenient_recorded member
  obtain ⟨number, listed⟩ := recorded
  exact read_lenient_well_formed (lex_lines_shaped text) listed

-- The function has no flags, and its body starts with a command. The line behind it is at fault.
def mixedText : List Char := "function! s:a.b(c)\n:normal!  gg\t\necho a:c . 7\nendfunction\n1echo\n'<,'>".toList

def mixedStatements : List Statement :=
  [.function ⟨.ofPath (some .script) "a" ["b"], ["c"], .empty, true⟩
      [.command ⟨none, "normal", true, "gg"⟩,
        .echo [.concat (.variable ⟨some .argument, "c"⟩) (.literal (.num 7))]],
    .command ⟨some "'<,'>", "", false, ""⟩]

theorem mixed_text_well_formed :
    Script.parseLenient "s" mixedText = (⟨"s", mixedStatements, [1, 6]⟩, [.rangeNotAllowed 5 .echo]) ∧
      AllWellFormed mixedStatements := by
  have read : Script.parseLenient "s" mixedText =
      (⟨"s", mixedStatements, [1, 6]⟩, [.rangeNotAllowed 5 .echo]) := by with_unfolding_all rfl
  exact ⟨read, parsed_well_formed "s" mixedText _ (.inr (congrArg Prod.fst read))⟩

end ExScript
