import ExScript.Line.Lexed
import ExScript.Proofs.Token.Tiling

set_option autoImplicit false

namespace ExScript

def IsLine (lines : List (List Char)) (number : Nat) (line : List Char) : Prop :=
  0 < number ∧ lines[number - 1]? = some line

def StandsAt (lines : List (List Char)) (p : Position) (c : Char) : Prop :=
  ∃ before after, IsLine lines p.line (before ++ c :: after) ∧ p.column = byteLength before + 1

def EndsAt (lines : List (List Char)) (p : Position) : Prop :=
  ∃ line, IsLine lines p.line line ∧ p.column = byteLength line + 1

def Position.Before (p q : Position) : Prop := p.line < q.line ∨ p.line = q.line ∧ p.column < q.column

-- The logical line consists of physical lines, the last of which has the given number.
inductive Joined (lines : List (List Char)) : LogicalLine → Nat → Prop
  | start {number : Nat} {line : List Char} (here : IsLine lines number line) :
      Joined lines (.start number line) number
  | extend {l : LogicalLine} {last number column : Nat} {line tail : List Char} (joined : Joined lines l last)
      (later : last < number) (here : IsLine lines number line)
      (continues : continuation? line = some (column, tail)) : Joined lines (l.extend number column tail) number

theorem byte_length_backslash (s : List Char) : byteLength ('\\' :: s) = 1 + byteLength s := rfl

theorem byte_length_pos {s : List Char} (filled : s ≠ []) : 0 < byteLength s := by
  cases s with
  | nil => exact absurd rfl filled
  | cons c s => exact Nat.add_pos_left c.utf8Size_pos _

theorem append_cut {a b before after : List Char} {c : Char} (same : a ++ b = before ++ c :: after) :
    (∃ more, before = a ++ more ∧ b = more ++ c :: after) ∨ ∃ more, a = before ++ c :: more := by
  rcases List.append_eq_append_iff.mp same with ⟨more, front, back⟩ | ⟨more, front, back⟩
  · exact .inl ⟨more, front, back⟩
  · cases more with
    | nil => exact .inl ⟨[], by simpa using front.symm, by simpa using back.symm⟩
    | cons d more =>
        cases back
        exact .inr ⟨more, front⟩

theorem continuation?_eq {line tail : List Char} {column : Nat} (continues : continuation? line = some (column, tail)) :
    ∃ indent, line = indent ++ '\\' :: tail ∧ column = byteLength indent + 2 := by
  unfold continuation? at continues
  split at continues
  · rename_i found
    cases continues
    refine ⟨line.takeWhile isBlank, ?_, rfl⟩
    rw [← found, take_while_append_drop_blanks]
  · cases continues

section

variable (l : LogicalLine) (number column : Nat) (tail : List Char) {offset : Nat}

theorem position_inside (inside : offset < byteLength l.text) :
    (l.extend number column tail).position offset = l.position offset := by
  have before : decide (byteLength l.text ≤ offset) = false := decide_eq_false (Nat.not_le.mpr inside)
  simp only [LogicalLine.position, LogicalLine.extend, List.find?_cons, before]

theorem position_past (past : byteLength l.text ≤ offset) :
    (l.extend number column tail).position offset = ⟨number, column + (offset - byteLength l.text)⟩ := by
  simp only [LogicalLine.position, LogicalLine.extend, List.find?_cons, decide_eq_true past]

end

section

variable {lines : List (List Char)} {l : LogicalLine} {last : Nat}

theorem joined_line (joined : Joined lines l last) (offset : Nat) :
    l.number ≤ (l.position offset).line ∧ (l.position offset).line ≤ last := by
  induction joined with
  | start here => exact ⟨Nat.le_refl _, Nat.le_refl _⟩
  | @extend l last number column line tail joined later here continues ih =>
      by_cases inside : offset < byteLength l.text
      · rw [position_inside l number column tail inside]
        exact ⟨ih.1, Nat.le_trans ih.2 (Nat.le_of_lt later)⟩
      · rw [position_past l number column tail (Nat.not_lt.mp inside)]
        have first := Nat.le_trans ih.1 ih.2
        exact ⟨Nat.le_of_lt (Nat.lt_of_le_of_lt first later), Nat.le_refl _⟩

-- Only the step from one physical line to the next changes the line, and it goes forward.
theorem joined_increases (joined : Joined lines l last) {offset offset' : Nat} (less : offset < offset') :
    (l.position offset).Before (l.position offset') := by
  induction joined with
  | start here => exact .inr ⟨rfl, Nat.add_lt_add_left less 1⟩
  | @extend l last number column line tail joined later here continues ih =>
      by_cases inside' : offset' < byteLength l.text
      · rw [position_inside l number column tail (Nat.lt_trans less inside'),
          position_inside l number column tail inside']
        exact ih
      · rw [position_past l number column tail (Nat.not_lt.mp inside')]
        by_cases inside : offset < byteLength l.text
        · rw [position_inside l number column tail inside]
          exact .inl (Nat.lt_of_le_of_lt (joined_line joined offset).2 later)
        · rw [position_past l number column tail (Nat.not_lt.mp inside)]
          refine .inr ⟨rfl, ?_⟩
          dsimp only
          omega

theorem joined_stands (joined : Joined lines l last) {before after : List Char} {c : Char}
    (text : l.text = before ++ c :: after) : StandsAt lines (l.position (byteLength before)) c := by
  induction joined generalizing before after with
  | @start number line here =>
      rw [show line = before ++ c :: after from text] at here
      exact ⟨before, after, here, Nat.add_comm 1 _⟩
  | @extend l last number column line tail joined later here continues ih =>
      obtain ⟨indent, rfl, rfl⟩ := continuation?_eq continues
      rcases append_cut text with ⟨more, rfl, rfl⟩ | ⟨more, whole⟩
      · -- the character comes from this physical line, behind the backslash
        have past : byteLength l.text ≤ byteLength (l.text ++ more) := by
          rw [byte_length_append]
          exact Nat.le_add_right _ _
        rw [position_past l number _ _ past, byte_length_append, Nat.add_sub_cancel_left]
        refine ⟨indent ++ '\\' :: more, after, by simpa using here, ?_⟩
        rw [byte_length_append, byte_length_backslash]
        dsimp only
        omega
      · have inside : byteLength before < byteLength l.text := by
          have filled := byte_length_pos (List.cons_ne_nil c more)
          rw [whole, byte_length_append]
          omega
        rw [position_inside l number _ tail inside]
        exact ih whole

theorem joined_ends (joined : Joined lines l last) : EndsAt lines (l.position (byteLength l.text)) := by
  cases joined with
  | start here => exact ⟨_, here, Nat.add_comm 1 _⟩
  | @extend l last' _ column line tail joined later here continues =>
      obtain ⟨indent, rfl, rfl⟩ := continuation?_eq continues
      have text : (l.extend last (byteLength indent + 2) tail).text = l.text ++ tail := rfl
      rw [text, byte_length_append, position_past l _ _ tail (Nat.le_add_right _ _), Nat.add_sub_cancel_left]
      refine ⟨_, here, ?_⟩
      rw [byte_length_append, byte_length_backslash]
      dsimp only
      omega

end

-- Each logical line is joined from physical lines that come after those of the lines before it.
def JoinedFrom (lines : List (List Char)) : Nat → List LogicalLine → Prop
  | _, [] => True
  | before, l :: ls => before < l.number ∧ ∃ last, Joined lines l last ∧ JoinedFrom lines last ls

-- The line still open ends before the physical lines to come.
def OpenFrom (lines : List (List Char)) (before read : Nat) (l : LogicalLine) : Prop :=
  before < l.number ∧ ∃ last, Joined lines l last ∧ last ≤ read

theorem is_line_next (read : List (List Char)) (line : List Char) (rest : List (List Char)) :
    IsLine (read ++ line :: rest) (read.length + 1) line :=
  ⟨Nat.succ_pos _, by simp⟩

-- The induction is on the physical lines to come; `read` are those that came before.
theorem join_lines_joined (read rest : List (List Char)) {before : Nat} {current : Option LogicalLine}
    (bound : before ≤ read.length) (open' : ∀ l ∈ current, OpenFrom (read ++ rest) before read.length l) :
    JoinedFrom (read ++ rest) before (joinLines current (read.length + 1) rest) := by
  induction rest generalizing read before current with
  | nil =>
      cases current with
      | none => trivial
      | some l =>
          obtain ⟨later, last, joined, -⟩ := open' l rfl
          exact ⟨later, last, joined, trivial⟩
  | cons line rest ih =>
      have here := is_line_next read line rest
      have step : ∀ {before : Nat} {current : Option LogicalLine}, before ≤ read.length + 1 →
          (∀ l ∈ current, OpenFrom (read ++ line :: rest) before (read.length + 1) l) →
          JoinedFrom (read ++ line :: rest) before (joinLines current (read.length + 1 + 1) rest) := by
        intro before current bound open'
        have next := @ih (read ++ [line]) before current
        simp only [List.append_assoc, List.singleton_append, List.length_append, List.length_singleton] at next
        exact next bound open'
      have startsHere : ∀ {before : Nat}, before ≤ read.length → JoinedFrom (read ++ line :: rest) before
          (joinLines (some (.start (read.length + 1) line)) (read.length + 1 + 1) rest) := by
        intro before bound
        apply step (Nat.le_succ_of_le bound)
        rintro l ⟨⟩
        exact ⟨Nat.lt_succ_of_le bound, _, .start here, Nat.le_refl _⟩
      unfold joinLines
      by_cases comment : isContinuationComment line = true
      · rw [if_pos comment]
        apply step (Nat.le_succ_of_le bound)
        intro l member
        obtain ⟨later, last, joined, ended⟩ := open' l member
        exact ⟨later, last, joined, Nat.le_succ_of_le ended⟩
      · rw [if_neg comment]
        cases current with
        | none => exact startsHere bound
        | some l =>
            obtain ⟨later, last, joined, ended⟩ := open' l rfl
            cases continues : continuation? line with
            | none => exact ⟨later, last, joined, startsHere ended⟩
            | some found =>
                apply step (Nat.le_succ_of_le bound)
                rintro l' ⟨⟩
                exact ⟨later, _, .extend joined (Nat.lt_succ_of_le ended) here continues, Nat.le_refl _⟩

theorem logical_lines_joined (source : List Char) : JoinedFrom (physicalLines source) 0 (logicalLines source) :=
  join_lines_joined [] (physicalLines source) (Nat.le_refl 0) fun _ none => nomatch none

section

variable {last : List Char → Prop} {offset : Nat} {s : List Char} {xs : List Lexeme}

theorem tiles_stand (tiles : Tiles last offset s xs) : ∀ x ∈ xs, x.kind ≠ .endOfLine ∧
    ∃ before c text after, x.text = c :: text ∧ s = before ++ c :: after ∧ x.offset = offset + byteLength before := by
  induction xs generalizing offset s with
  | nil => exact fun _ member => nomatch member
  | cons x xs ih =>
      obtain ⟨gap, rest, rfl, -, placed, filled, spells, more⟩ := tiles
      intro x' member
      rcases List.mem_cons.mp member with rfl | member
      · refine ⟨fun same => by rwa [same] at spells, ?_⟩
        cases first : x'.text with
        | nil => exact absurd first filled
        | cons c text => exact ⟨gap, c, text, text ++ rest, rfl, rfl, placed⟩
      · obtain ⟨kind, before, c, text, after, first, rfl, later⟩ := ih more x' member
        refine ⟨kind, gap ++ (x.text ++ before), c, text, after, first, by simp, ?_⟩
        rw [later, placed, byte_length_append, byte_length_append]
        omega

theorem tiles_increase (tiles : Tiles last offset s xs) : xs.Pairwise fun x x' => x.offset < x'.offset := by
  induction xs generalizing offset s with
  | nil => exact .nil
  | cons x xs ih =>
      obtain ⟨gap, rest, rfl, -, placed, filled, spells, more⟩ := tiles
      refine .cons (fun x' member => ?_) (ih more)
      obtain ⟨-, before, c, text, after, -, -, later⟩ := tiles_stand more x' member
      have positive := byte_length_pos filled
      omega

end

theorem scan_line_stand {s : List Char} {xs : List Lexeme} (scanned : scanLine s = .ok xs) :
    ∀ x ∈ xs, x = ⟨.endOfLine, [], byteLength s⟩ ∨ x.kind ≠ .endOfLine ∧
      ∃ before c text after, x.text = c :: text ∧ s = before ++ c :: after ∧ x.offset = byteLength before := by
  intro x member
  obtain ⟨ys, rfl, -, tiles⟩ := scan_line_tiles scanned (List.ne_nil_of_mem member)
  rcases List.mem_append.mp member with inside | ending
  · obtain ⟨kind, before, c, text, after, first, body, placed⟩ := tiles_stand tiles x inside
    refine .inr ⟨kind, s.takeWhile isLineLead ++ before, c, text, after, first, ?_, ?_⟩
    · rw [List.append_assoc, ← body, List.takeWhile_append_dropWhile]
    · rw [placed, byte_length_append]
  · exact .inl (List.mem_singleton.mp ending)

theorem scan_line_increases {s : List Char} {xs : List Lexeme} (scanned : scanLine s = .ok xs) :
    xs.Pairwise fun x x' => x.offset < x'.offset := by
  by_cases filled : xs = []
  · rw [filled]
    exact .nil
  · obtain ⟨ys, rfl, -, tiles⟩ := scan_line_tiles scanned filled
    refine List.pairwise_append.mpr ⟨tiles_increase tiles, List.pairwise_singleton _ _, fun x inside x' ending => ?_⟩
    obtain ⟨-, before, c, text, after, -, body, offset⟩ := tiles_stand tiles x inside
    cases List.mem_singleton.mp ending
    have whole : s.takeWhile isLineLead ++ s.dropWhile isLineLead = s := List.takeWhile_append_dropWhile
    have length := congrArg byteLength whole
    have positive := byte_length_pos (List.cons_ne_nil c after)
    rw [body, byte_length_append, byte_length_append] at length
    dsimp only
    omega

-- The place of a token is where its text begins, and the end of a logical line is at the end of a physical one.
structure Placed (lines : List (List Char)) (t : Token) : Prop where
  stands : t.kind ≠ .endOfLine → ∃ c rest, t.text = c :: rest ∧ StandsAt lines t.position c
  ends : t.kind = .endOfLine → EndsAt lines t.position

def Increasing (tokens : List Token) : Prop := tokens.Pairwise fun t t' => t.position.Before t'.position

section

variable {lines : List (List Char)} {l : LogicalLine} {last : Nat} {tokens : List Token}

theorem line_placed (joined : Joined lines l last) (cut : l.tokens = .ok tokens) :
    (∀ t ∈ tokens, Placed lines t) ∧ Increasing tokens := by
  obtain ⟨xs, scanned, rfl⟩ := tokens_scanned cut
  constructor
  · intro t member
    obtain ⟨x, listed, rfl⟩ := List.mem_map.mp member
    rcases scan_line_stand scanned x listed with rfl | ⟨kind, before, c, text, after, first, whole, offset⟩
    · exact ⟨fun other => absurd rfl other, fun _ => joined_ends joined⟩
    · refine ⟨fun _ => ⟨c, text, first, ?_⟩, fun same => absurd same kind⟩
      rw [LogicalLine.token, offset]
      exact joined_stands joined whole
  · exact List.pairwise_map.mpr ((scan_line_increases scanned).imp fun less => joined_increases joined less)

theorem line_within (joined : Joined lines l last) (cut : l.tokens = .ok tokens) :
    ∀ t ∈ tokens, l.number ≤ t.position.line ∧ t.position.line ≤ last := by
  obtain ⟨xs, -, rfl⟩ := tokens_scanned cut
  intro t member
  obtain ⟨x, -, rfl⟩ := List.mem_map.mp member
  exact joined_line joined x.offset

theorem tokens_of_cons {ls : List LogicalLine} (read : tokensOf ((l :: ls).filterMap (·.lexed?)) = .ok tokens) :
    ∃ first others, l.tokens = .ok first ∧ tokensOf (ls.filterMap (·.lexed?)) = .ok others ∧
      tokens = first ++ others := by
  cases cut : l.tokens with
  | error error =>
      have lexed : l.lexed? = some ⟨l.number, .error error⟩ := by rw [LogicalLine.lexed?, cut]
      rw [List.filterMap_cons_some lexed] at read
      cases read
  | ok first =>
      cases first with
      | nil =>
          have lexed : l.lexed? = none := by rw [LogicalLine.lexed?, cut]
          rw [List.filterMap_cons_none lexed] at read
          exact ⟨[], tokens, rfl, read, rfl⟩
      | cons t ts =>
          have lexed : l.lexed? = some ⟨l.number, .ok (t :: ts)⟩ := by rw [LogicalLine.lexed?, cut]
          rw [List.filterMap_cons_some lexed] at read
          obtain ⟨front, found, more⟩ := bind_eq_ok read
          cases found
          obtain ⟨others, later, done⟩ := bind_eq_ok more
          cases done
          exact ⟨t :: ts, others, rfl, later, rfl⟩

theorem tokens_of_placed {ls : List LogicalLine} {before : Nat} (joined : JoinedFrom lines before ls)
    (read : tokensOf (ls.filterMap (·.lexed?)) = .ok tokens) :
    (∀ t ∈ tokens, Placed lines t ∧ before < t.position.line) ∧ Increasing tokens := by
  induction ls generalizing before tokens with
  | nil =>
      cases read
      exact ⟨fun _ member => (nomatch member), .nil⟩
  | cons l ls ih =>
      obtain ⟨later, last, joined, rest⟩ := joined
      obtain ⟨first, others, cut, readLater, rfl⟩ := tokens_of_cons read
      obtain ⟨placed, increasing⟩ := line_placed joined cut
      obtain ⟨placedLater, increasingLater⟩ := ih rest readLater
      have within := line_within joined cut
      have order := joined_line joined 0
      constructor
      · intro t member
        rcases List.mem_append.mp member with here | after
        · exact ⟨placed t here, Nat.lt_of_lt_of_le later (within t here).1⟩
        · have beyond := (placedLater t after).2
          exact ⟨(placedLater t after).1, by omega⟩
      · refine List.pairwise_append.mpr ⟨increasing, increasingLater, fun t here t' after => ?_⟩
        exact .inl (Nat.lt_of_le_of_lt (within t here).2 (placedLater t' after).2)

end

theorem positions_point_into_source (source : List Char) (tokens : List Token) (read : tokenize source = .ok tokens) :
    (∀ t ∈ tokens, Placed (physicalLines source) t) ∧ Increasing tokens := by
  obtain ⟨placed, increasing⟩ := tokens_of_placed (logical_lines_joined source) read
  exact ⟨fun t member => (placed t member).1, increasing⟩

-- A string goes on in the next line; then come a comment between continuations and an empty continuation.
def continued : List Char := "echo 'é\n   \\b'\n\"\\ note\n\\\n \\ . x\nquit".toList

theorem continued_positions :
    ∃ tokens, tokenize continued = .ok tokens ∧ (∀ t ∈ tokens, Placed (physicalLines continued) t) ∧
      Increasing tokens ∧
      tokens.map Token.position = [⟨1, 1⟩, ⟨1, 6⟩, ⟨5, 4⟩, ⟨5, 6⟩, ⟨5, 7⟩, ⟨6, 1⟩, ⟨6, 5⟩] := by
  obtain ⟨tokens, read, places⟩ : ∃ tokens, tokenize continued = .ok tokens ∧
      tokens.map Token.position = [⟨1, 1⟩, ⟨1, 6⟩, ⟨5, 4⟩, ⟨5, 6⟩, ⟨5, 7⟩, ⟨6, 1⟩, ⟨6, 5⟩] :=
    ⟨_, by with_unfolding_all rfl, by decide +kernel⟩
  obtain ⟨placed, increasing⟩ := positions_point_into_source continued tokens read
  exact ⟨tokens, read, placed, increasing, places⟩

end ExScript
