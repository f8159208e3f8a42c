import Mathlib.Data.List.Find
import ExScript.Proofs.Line.Places
import ExScript.Proofs.Script.Relocation

set_option autoImplicit false

namespace ExScript

def PointsInto (lines : List (List Char)) (p : Position) : Prop :=
  ∃ line, IsLine lines p.line line ∧ 1 ≤ p.column ∧ p.column ≤ byteLength line + 1

def ParseError.place? : ParseError → Option Position
  | .lex error => some error.position
  | .expression p _ | .unknownFlag p _ | .invalidFunctionName p _ | .expected p _ _ | .trailing p _
  | .nestingTooDeep p => some p
  | .unterminatedFunction _ _ | .unexpectedEndfunction _ | .returnWithoutExpression _ | .missingArgument _ _
  | .rangeNotAllowed _ _ => none

-- Offsets between two characters, at which scanning can stop.
section

def Reaches (s : List Char) (offset : Nat) : Prop := ∃ before after, s = before ++ after ∧ offset = byteLength before

variable {s : List Char} {offset : Nat}

theorem reaches_zero (s : List Char) : Reaches s 0 := ⟨[], s, rfl, rfl⟩

theorem reaches_behind {front whole : List Char} (covers : front ++ s = whole) (reaches : Reaches s offset) :
    Reaches whole (byteLength front + offset) := by
  obtain ⟨before, after, rfl, rfl⟩ := reaches
  refine ⟨front ++ before, after, ?_, (byte_length_append front before).symm⟩
  rw [← covers, List.append_assoc]

theorem bind_eq_error {ε α β : Type} {first : Except ε α} {form : α → β} {error : ε}
    (failed : (first >>= fun a => pure (form a)) = .error error) : first = .error error := by
  cases first with
  | error _ => exact congrArg _ (Except.error.inj failed)
  | ok _ => cases failed

variable {fault : LexFault}

theorem scan_token_fault {c : Char} {rest : List Char} (scanned : scanToken c rest = .error fault) :
    Reaches (c :: rest) fault.offset := by
  unfold scanToken at scanned
  split at scanned
  · cases read : literalBody rest <;> rw [read] at scanned <;> cases scanned
    exact reaches_zero _
  · cases read : escapedBody rest <;> rw [read] at scanned <;> cases scanned
    exact reaches_zero _
  case h_8 tail =>
    cases scanned
    exact ⟨['.', '.'], '.' :: tail, rfl, rfl⟩
  case h_12 =>
    split at scanned
    · cases scanned
    · split at scanned
      · cases scanned
      · cases scanned
        exact reaches_zero _
  all_goals cases scanned

theorem scan_expression_fault {k : Keyword} {closed : Bool} (scanned : scanExpression k closed offset s = .error fault) :
    ∃ n, fault.offset = offset + n ∧ Reaches s n := by
  fun_induction scanExpression k closed offset s with
  | case1 => cases scanned
  | case2 closed offset c rest blank ih =>
      obtain ⟨n, stopped, reaches⟩ := ih scanned
      refine ⟨_, stopped.trans (Nat.add_assoc _ _ _), ?_⟩
      exact @reaches_behind _ _ [c] _ rfl reaches
  | case3 => cases scanned
  | case4 closed offset c rest _ _ inner found =>
      cases scanned
      exact ⟨inner.offset, rfl, scan_token_fault found⟩
  | case5 closed offset c rest _ _ t found closed' =>
      rename_i ih
      obtain ⟨n, stopped, reaches⟩ := ih (bind_eq_error scanned)
      exact ⟨_, stopped.trans (Nat.add_assoc _ _ _), reaches_behind t.covers reaches⟩

theorem scan_command_fault (scanned : scanCommand offset s = .error fault) :
    ∃ n, fault.offset = offset + n ∧ Reaches s n := by
  unfold scanCommand at scanned
  dsimp only at scanned
  split at scanned
  · obtain ⟨n, stopped, reaches⟩ := scan_expression_fault (bind_eq_error scanned)
    exact ⟨_, stopped.trans (Nat.add_assoc _ _ _), reaches_behind List.takeWhile_append_dropWhile reaches⟩
  · split at scanned
    · cases s with
      | nil => cases scanned
      | cons c rest =>
          rw [scanSymbol] at scanned
          split at scanned <;> cases scanned
          exact ⟨0, rfl, reaches_zero _⟩
    · cases scanned

theorem scan_line_fault (scanned : scanLine s = .error fault) : Reaches s fault.offset := by
  unfold scanLine at scanned
  split at scanned
  · cases scanned
  · cases scanned
  · obtain ⟨n, stopped, reaches⟩ := scan_command_fault (bind_eq_error scanned)
    have afterRange := reaches_behind (span_range_covers _) (reaches_behind (take_while_append_drop_blanks _) reaches)
    rw [stopped, Nat.add_assoc, Nat.add_assoc]
    exact reaches_behind List.takeWhile_append_dropWhile afterRange

end

theorem split_words_stand {offset start : Nat} {s word : List Char} (member : (start, word) ∈ splitWords offset s) :
    word ≠ [] ∧ ∃ before after, s = before ++ (word ++ after) ∧ start = offset + byteLength before := by
  induction s generalizing offset start word with
  | nil => cases member
  | cons c rest ih =>
      have later : ∀ {start : Nat} {word : List Char}, (start, word) ∈ splitWords (offset + c.utf8Size) rest →
          word ≠ [] ∧ ∃ before after, c :: rest = before ++ (word ++ after) ∧ start = offset + byteLength before := by
        intro start word member
        obtain ⟨filled, before, after, whole, placed⟩ := ih member
        refine ⟨filled, c :: before, after, by rw [whole]; rfl, ?_⟩
        rw [placed, byteLength, Nat.add_assoc]
      have single : [c] ≠ [] ∧
          ∃ before after, c :: rest = before ++ ([c] ++ after) ∧ offset = offset + byteLength before :=
        ⟨List.cons_ne_nil c [], [], rest, rfl, rfl⟩
      rw [splitWords] at member
      by_cases blank : isBlank c = true
      · rw [if_pos blank] at member
        exact later member
      · rw [if_neg blank] at member
        cases words : splitWords (offset + c.utf8Size) rest with
        | nil =>
            rw [words] at member
            cases List.mem_singleton.mp member
            exact single
        | cons first more =>
            obtain ⟨next, rest'⟩ := first
            have follows := @ih (offset + c.utf8Size) next rest' (by rw [words]; exact List.mem_cons_self)
            rw [words] at member later
            dsimp only at member
            by_cases joined : next = offset + c.utf8Size
            · rw [if_pos joined] at member
              rcases List.mem_cons.mp member with same | member
              · -- the word goes on right behind the character, so nothing stands between them
                obtain ⟨-, before, after, whole, placed⟩ := follows
                have close : before = [] := by
                  by_contra between
                  have positive := byte_length_pos between
                  omega
                cases same
                exact ⟨List.cons_ne_nil _ _, [], after, by rw [whole, close]; rfl, rfl⟩
              · exact later (List.mem_cons_of_mem _ member)
            · rw [if_neg joined] at member
              rcases List.mem_cons.mp member with same | member
              · cases same
                exact single
              · exact later member

section

variable {lines : List (List Char)} {l : LogicalLine} {last : Nat}

theorem stands_points {p : Position} {c : Char} (stands : StandsAt lines p c) : PointsInto lines p := by
  obtain ⟨before, after, here, column⟩ := stands
  refine ⟨_, here, ?_, ?_⟩
  · rw [column]
    exact Nat.le_add_left 1 _
  · rw [column, byte_length_append]
    omega

theorem ends_points {p : Position} (ends : EndsAt lines p) : PointsInto lines p := by
  obtain ⟨line, here, column⟩ := ends
  refine ⟨line, here, ?_, Nat.le_of_eq column⟩
  rw [column]
  exact Nat.le_add_left 1 _

theorem reaches_points (joined : Joined lines l last) {offset : Nat} (reaches : Reaches l.text offset) :
    PointsInto lines (l.position offset) := by
  obtain ⟨before, after, whole, rfl⟩ := reaches
  cases after with
  | nil =>
      rw [List.append_nil] at whole
      rw [← whole]
      exact ends_points (joined_ends joined)
  | cons c after => exact stands_points (joined_stands joined whole)

theorem placed_points {t : Token} (placed : Placed lines t) : PointsInto lines t.position := by
  by_cases ended : t.kind = .endOfLine
  · exact ends_points (placed.ends ended)
  · obtain ⟨c, rest, -, stands⟩ := placed.stands ended
    exact stands_points stands

theorem joined_from_mem {before : Nat} {ls : List LogicalLine} (joined : JoinedFrom lines before ls) (member : l ∈ ls) :
    ∃ last, Joined lines l last := by
  induction ls generalizing before with
  | nil => cases member
  | cons first ls ih =>
      obtain ⟨-, last, here, others⟩ := joined
      rcases List.mem_cons.mp member with rfl | member
      · exact ⟨last, here⟩
      · exact ih others member

-- Columns are counted on as long as no continuation begins.
theorem position_unbroken {start offset : Nat}
    (unbroken : ∀ j ∈ l.joins, ¬(start < j.offset ∧ j.offset ≤ start + offset)) :
    l.position (start + offset) = ⟨(l.position start).line, (l.position start).column + offset⟩ := by
  have sameJoin : l.joins.find? (fun j => decide (j.offset ≤ start + offset)) =
      l.joins.find? fun j => decide (j.offset ≤ start) := by
    refine List.find?_congr fun j member => ?_
    have apart := unbroken j member
    rw [decide_eq_decide]
    omega
  rw [LogicalLine.position, LogicalLine.position, sameJoin]
  cases found : l.joins.find? fun j => decide (j.offset ≤ start) with
  | none => rw [Nat.add_assoc]
  | some j =>
      have begun : j.offset ≤ start := by simpa using List.find?_some found
      rw [Position.mk.injEq]
      refine ⟨rfl, ?_⟩
      dsimp only
      omega

end

section

variable {last : List Char → Prop} {offset : Nat} {s : List Char} {xs : List Lexeme}

theorem tiles_cover (tiles : Tiles last offset s xs) : ∀ x ∈ xs, x.kind.Spells x.text ∧
    ∃ before after, s = before ++ (x.text ++ after) ∧ x.offset = offset + byteLength before := by
  induction xs generalizing offset s with
  | nil => exact fun _ member => absurd member List.not_mem_nil
  | cons x xs ih =>
      obtain ⟨gap, rest, rfl, -, placed, -, spells, more⟩ := tiles
      intro x' member
      rcases List.mem_cons.mp member with rfl | member
      · exact ⟨spells, gap, rest, rfl, placed⟩
      · obtain ⟨spelled, before, after, rfl, later⟩ := ih more x' member
        refine ⟨spelled, gap ++ (x.text ++ before), after, by simp, ?_⟩
        rw [later, placed, byte_length_append, byte_length_append]
        omega

theorem scan_line_cover (scanned : scanLine s = .ok xs) : ∀ x ∈ xs, x.kind ≠ .endOfLine → x.kind.Spells x.text ∧
    ∃ before after, s = before ++ (x.text ++ after) ∧ x.offset = byteLength before := by
  intro x member inside
  obtain ⟨ys, rfl, -, tiles⟩ := scan_line_tiles scanned (List.ne_nil_of_mem member)
  rcases List.mem_append.mp member with listed | ending
  · obtain ⟨spells, before, after, body, placed⟩ := tiles_cover tiles x listed
    refine ⟨spells, s.takeWhile isLineLead ++ before, after, ?_, ?_⟩
    · rw [List.append_assoc, ← body, List.takeWhile_append_dropWhile]
    · rw [placed, byte_length_append]
  · rw [List.mem_singleton.mp ending] at inside
    exact absurd rfl inside

end

section

variable {source : List Char}

def WordAt (lines : List (List Char)) (word : String) (p : Position) : Prop :=
  ∃ c rest, word.toList = c :: rest ∧ StandsAt lines p c

-- The word is one of the raw arguments `x` of the line `l`, and the line was continued between their start and
-- the word. The place is what it would be if it had not been.
def Displaced (source : List Char) (word : String) (p : Position) : Prop :=
  ∃ l ∈ logicalLines source, ∃ xs x text offset,
    scanLine l.text = .ok xs ∧ x ∈ xs ∧ x.kind = .raw text ∧ (offset, word.toList) ∈ splitWords 0 text.toList ∧
      p = ⟨(l.position x.offset).line, (l.position x.offset).column + offset⟩ ∧
      WordAt (physicalLines source) word (l.position (x.offset + offset)) ∧
      ∃ j ∈ l.joins, x.offset < j.offset ∧ j.offset ≤ x.offset + offset

def CutFrom (source : List Char) (t : Token) : Prop :=
  ∃ l ∈ logicalLines source, ∃ xs x, scanLine l.text = .ok xs ∧ x ∈ xs ∧ t = l.token x

theorem cut_from_placed {t : Token} (cut : CutFrom source t) : Placed (physicalLines source) t := by
  obtain ⟨l, member, xs, x, scanned, listed, rfl⟩ := cut
  obtain ⟨last, joined⟩ := joined_from_mem (logical_lines_joined source) member
  exact (line_placed joined (tokens_of_scan scanned)).1 _ (List.mem_map_of_mem listed)

theorem cut_from_word {t : Token} {word : String} (cut : CutFrom source t) (named : t.kind = .name none word) :
    WordAt (physicalLines source) word t.position := by
  have inside : t.kind ≠ .endOfLine := by
    rw [named]
    simp
  obtain ⟨c, rest, first, stands⟩ := (cut_from_placed cut).stands inside
  obtain ⟨l, member, xs, x, scanned, listed, rfl⟩ := cut
  obtain ⟨spells, -⟩ := scan_line_cover scanned x listed inside
  rw [show x.kind = .name none word from named, spells_name] at spells
  refine ⟨c, rest, ?_, stands⟩
  rw [← first]
  exact spells.symm

theorem cut_from_flag {t : Token} {text : String} {offset : Nat} {word : List Char} (cut : CutFrom source t)
    (raw : t.kind = .raw text) (member : (offset, word) ∈ splitWords 0 text.toList) :
    WordAt (physicalLines source) (String.ofList word) ⟨t.position.line, t.position.column + offset⟩ ∨
      Displaced source (String.ofList word) ⟨t.position.line, t.position.column + offset⟩ := by
  obtain ⟨l, found, xs, x, scanned, listed, rfl⟩ := cut
  obtain ⟨last, joined⟩ := joined_from_mem (logical_lines_joined source) found
  have kind : x.kind = .raw text := raw
  obtain ⟨spells, before, after, whole, placed⟩ := scan_line_cover scanned x listed (by rw [kind]; simp)
  rw [kind, spells_raw] at spells
  obtain ⟨filled, front, back, split, start⟩ := split_words_stand member
  obtain ⟨c, rest, rfl⟩ := List.exists_cons_of_ne_nil filled
  have reached : byteLength (before ++ front) = x.offset + offset := by
    rw [byte_length_append, placed, start, Nat.zero_add]
  have text' : l.text = (before ++ front) ++ c :: (rest ++ (back ++ after)) := by
    rw [whole, spells, split]
    simp
  have stands := joined_stands joined text'
  rw [reached] at stands
  have standing : WordAt (physicalLines source) (String.ofList (c :: rest)) (l.position (x.offset + offset)) :=
    ⟨c, rest, String.toList_ofList, stands⟩
  by_cases broken : ∃ j ∈ l.joins, x.offset < j.offset ∧ j.offset ≤ x.offset + offset
  · rw [← String.toList_ofList (l := c :: rest)] at member
    exact .inr ⟨l, found, xs, x, text, offset, scanned, listed, kind, member, rfl, standing, broken⟩
  · rw [position_unbroken fun j member between => broken ⟨j, member, between⟩] at standing
    exact .inl standing

-- The text beside itself, with what is known of its tokens.
def inPlace (source : List Char) : Relocation where
  token t t' := t' = t ∧ CutFrom source t
  place p p' := p' = p ∧ PointsInto (physicalLines source) p
  line _ _ := True
  flag word p p' := p' = p ∧ (WordAt (physicalLines source) word p ∨ Displaced source word p)
  extra _ _ := True
  kind_eq same := congrArg Token.kind same.1
  place_of same := ⟨congrArg Token.position same.1, placed_points (cut_from_placed same.2)⟩
  flag_of same named := ⟨congrArg Token.position same.1, .inl (cut_from_word same.2 named)⟩
  flag_within same raw member := ⟨by rw [same.1], cut_from_flag same.2 raw member⟩
  extra_of _ := trivial

theorem lex_lines_in_place (source : List Char) : (inPlace source).Lines (lexLines source) (lexLines source) := by
  refine lines_scanned (List.forall₂_same.mpr fun l member => ?_)
  obtain ⟨last, joined⟩ := joined_from_mem (logical_lines_joined source) member
  refine scanned_same trivial rfl (fun xs scanned x listed => ⟨rfl, l, member, xs, x, scanned, listed, rfl⟩) ?_
  exact fun fault scanned => ⟨rfl, reaches_points joined (scan_line_fault scanned)⟩

theorem points_bounds {p : Position} (points : PointsInto (physicalLines source) p) :
    0 < p.line ∧ p.line ≤ (physicalLines source).length ∧ 0 < p.column := by
  obtain ⟨line, ⟨positive, here⟩, column, -⟩ := points
  obtain ⟨bound, -⟩ := List.getElem?_eq_some_iff.mp here
  exact ⟨positive, by omega, column⟩

theorem displaced_bounds {word : String} {p : Position} (displaced : Displaced source word p) :
    0 < p.line ∧ p.line ≤ (physicalLines source).length ∧ 0 < p.column := by
  obtain ⟨l, member, xs, x, text, offset, scanned, listed, -, -, rfl, -⟩ := displaced
  obtain ⟨positive, bound, column⟩ :=
    points_bounds (placed_points (cut_from_placed ⟨l, member, xs, x, scanned, listed, rfl⟩))
  exact ⟨positive, bound, Nat.add_pos_left column offset⟩

-- What is known of the place of a fault: it is in the text, and a flag stands there, unless it is displaced.
def Located (source : List Char) (fault : ParseError) (p : Position) : Prop :=
  (0 < p.line ∧ p.line ≤ (physicalLines source).length ∧ 0 < p.column) ∧
    (PointsInto (physicalLines source) p ∧
        (∀ word, fault = .unknownFlag p word → WordAt (physicalLines source) word p) ∨
      ∃ word, fault = .unknownFlag p word ∧ Displaced source word p)

theorem located_plain {fault : ParseError} {p : Position} (points : PointsInto (physicalLines source) p)
    (noFlag : ∀ word, fault ≠ .unknownFlag p word) : Located source fault p :=
  ⟨points_bounds points, .inl ⟨points, fun word same => absurd same (noFlag word)⟩⟩

theorem moves_located {fault fault' : ParseError} (moves : (inPlace source).Moves fault fault') {p : Position}
    (placed : fault.place? = some p) : Located source fault p := by
  cases moves with
  | unknownFlag moved =>
      cases placed
      rcases moved.2 with standing | displaced
      · obtain ⟨c, rest, first, stands⟩ := standing
        have points := stands_points stands
        refine ⟨points_bounds points, .inl ⟨points, ?_⟩⟩
        rintro word ⟨⟩
        exact ⟨c, rest, first, stands⟩
      · exact ⟨displaced_bounds displaced, .inr ⟨_, rfl, displaced⟩⟩
  | unterminatedFunction name moved | unexpectedEndfunction moved | returnWithoutExpression moved
  | missingArgument command moved | rangeNotAllowed command moved => cases placed
  | lex same moved | expression cause moved | invalidFunctionName cause moved | expected wanted found moved
  | trailing moved written | nestingTooDeep moved =>
      cases placed
      exact located_plain moved.2 (by simp)

theorem errors_point_into_source (name : String) (source : List Char) (fault : ParseError) (p : Position)
    (found : Script.parse name source = .error fault ∨ fault ∈ (Script.parseLenient name source).2)
    (placed : fault.place? = some p) : Located source fault p := by
  rcases found with strict | lenient
  · have alike := parse_alike name (lex_lines_in_place source)
    rw [strict] at alike
    obtain ⟨fault', -, moves⟩ := follows_error alike
    exact moves_located moves placed
  · have alike := (parse_lenient_alike name (lex_lines_in_place source)).2
    exact moves_located (List.forall₂_same.mp alike fault lenient) placed

end

-- A header over two physical lines: its flags are tokens, and have the places of tokens.
def continuedHeader : List Char := "function F() dict\n \\ badflag\nendfunction".toList

theorem continued_header_located :
    Script.parse "s" continuedHeader = .error (.unknownFlag ⟨2, 4⟩ "badflag") ∧
      Located continuedHeader (.unknownFlag ⟨2, 4⟩ "badflag") ⟨2, 4⟩ := by
  have found : Script.parse "s" continuedHeader = .error (.unknownFlag ⟨2, 4⟩ "badflag") := by with_unfolding_all rfl
  exact ⟨found, errors_point_into_source "s" continuedHeader _ _ (.inl found) rfl⟩

-- A flag line over three physical lines. The place of the last word is behind the end of its line, and so is none
-- in the text; the word stands in the line after it.
def continuedFlags : List Char := "function F()\nabort\n\\ dict\n\\ badflag\nendfunction".toList

theorem continued_flag_displaced :
    Script.parse "s" continuedFlags = .error (.unknownFlag ⟨3, 8⟩ "badflag") ∧
      ¬PointsInto (physicalLines continuedFlags) ⟨3, 8⟩ ∧ WordAt (physicalLines continuedFlags) "badflag" ⟨4, 3⟩ := by
  refine ⟨by with_unfolding_all rfl, ?_, ?_⟩
  · rintro ⟨line, ⟨-, here⟩, -, column⟩
    have third : (physicalLines continuedFlags)[2]? = some "\\ dict".toList := by decide +kernel
    cases here.symm.trans third
    revert column
    decide
  · exact ⟨'b', "adflag".toList, rfl, "\\ ".toList, "adflag".toList, ⟨by decide, by decide +kernel⟩, rfl⟩

end ExScript
