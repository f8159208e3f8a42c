import ExScript.Proofs.Line.Shapes
import ExScript.Proofs.Statement.Reading
import ExScript.Proofs.Statement.Relocation

set_option autoImplicit false

namespace ExScript

-- `Printable` asks more: what a range holds, how deep an expression is, and that no argument breaks its line.
mutual

def Statement.WellFormed : Statement → Prop
  | .function header body =>
      header.name.Printable ∧ (∀ param ∈ header.params, isName param = true) ∧
        (header.flags = .empty → ¬ ListsFlags body) ∧ AllWellFormed body
  | .echo exprs => exprs ≠ [] ∧ areSpellable exprs = true
  | .return value => value.isSpellable = true
  | .assign target _ value => isScopedName target.scope target.name = true ∧ value.isSpellable = true
  | .unlet _ targets => targets ≠ [] ∧ ∀ v ∈ targets, isScopedName v.scope v.name = true
  | .call range name args => range ≠ some "" ∧ name.Printable ∧ areSpellable args = true
  | .delfunction _ name => name.Printable
  | .command c => c.WellFormed

def AllWellFormed : List Statement → Prop
  | [] => True
  | s :: rest => s.WellFormed ∧ AllWellFormed rest

end

def Statement.isCommand : Statement → Bool
  | .command _ => true
  | _ => false

theorem spelled_cons {k : TokenKind} {ks : List TokenKind} :
    Spelled (k :: ks) ↔ k.isSpellable = true ∧ Spelled ks :=
  List.forall_mem_cons

theorem spelled_append {ks ks' : List TokenKind} : Spelled (ks ++ ks') ↔ Spelled ks ∧ Spelled ks' :=
  List.forall_mem_append

theorem spelled_behind {p rest : List Token} (spelled : Spelled (kinds (p ++ rest))) :
    Spelled (kinds p) ∧ Spelled (kinds rest) := by
  rw [kinds, List.map_append] at spelled
  exact spelled_append.mp spelled

theorem are_spellable_cons {e : Expr} {es : List Expr} (first : e.isSpellable = true) (others : areSpellable es = true) :
    areSpellable (e :: es) = true := by
  rw [areSpellable, first, others]
  rfl

theorem call_is_spellable {scope : Option Scope} {name : String} {es : List Expr}
    (allowed : FunctionName.allowsScope scope = true) (named : isScopedName scope name = true)
    (args : areSpellable es = true) : (Expr.call ⟨scope, name⟩ es).isSpellable = true := by
  rw [Expr.isSpellable, allowed, named, args]
  rfl

theorem chain_of_spellable {ks : List TokenKind} {e : Expr} {count need : Nat} (derived : ChainOf ks e count need) :
    Spelled ks → e.isSpellable = true := by
  refine @ChainOf.rec (fun ks e _ _ => Spelled ks → e.isSpellable = true)
    (fun ks e _ _ _ => Spelled ks → e.isSpellable = true) (fun ks es _ _ => Spelled ks → areSpellable es = true)
    -- A case for each rule; a part of a spelled derivation is spelled.
    ?string ?number ?name ?parens ?emptyCall ?call ?single ?link ?last ?more ks e count need derived
  case string =>
    intro s spelled
    rw [Expr.isSpellable]
  case number =>
    intro n spelled
    rw [Expr.isSpellable]
    exact (spelled_cons.mp spelled).1
  case name =>
    intro scope name spelled
    rw [Expr.isSpellable]
    exact (spelled_cons.mp spelled).1
  case parens =>
    intro ks e count need _ inside spelled
    exact inside (spelled_append.mp (spelled_cons.mp spelled).2).1
  case emptyCall =>
    intro scope name allowed spelled
    exact call_is_spellable allowed (spelled_cons.mp spelled).1 (by rw [areSpellable])
  case call =>
    intro scope name allowed ks es need _ args spelled
    obtain ⟨named, others⟩ := spelled_cons.mp spelled
    exact call_is_spellable allowed named (args (spelled_append.mp (spelled_cons.mp others).2).1)
  case single =>
    intro ks e need _ only spelled
    exact only spelled
  case link =>
    intro ks ks' k e e' count need need' _ joins _ left right spelled
    obtain ⟨front, back⟩ := spelled_append.mp spelled
    rw [Expr.isSpellable, left front, right (spelled_cons.mp back).2]
    rfl
  case last =>
    intro ks e count need _ arg spelled
    exact are_spellable_cons (arg spelled) (by rw [areSpellable])
  case more =>
    intro ks ks' e es count need need' _ _ arg others spelled
    obtain ⟨front, back⟩ := spelled_append.mp spelled
    exact are_spellable_cons (arg front) (others (spelled_cons.mp back).2)

theorem arguments_of_spellable {ks : List TokenKind} {es : List Expr} {need : Nat} (derived : ArgumentsOf ks es need)
    (spelled : Spelled ks) : areSpellable es = true := by
  cases derived with
  | last arg => exact are_spellable_cons (chain_of_spellable arg spelled) (by rw [areSpellable])
  | more arg others =>
      obtain ⟨front, back⟩ := spelled_append.mp spelled
      exact are_spellable_cons (chain_of_spellable arg front) (arguments_of_spellable others (spelled_cons.mp back).2)

section

variable {last : Position} {ts rest : List Token}

theorem expression_spelled {e : Expr} (spelled : Spelled (kinds ts)) (read : (expression last).run ts = .ok (e, rest)) :
    e.isSpellable = true ∧ Spelled (kinds rest) := by
  obtain ⟨p, count, need, rfl, derived, -, -⟩ := (expression_run_iff last ts e rest).mp read
  obtain ⟨front, behind⟩ := spelled_behind spelled
  exact ⟨chain_of_spellable derived front, behind⟩

theorem arguments_spellable {es : List Expr} (spelled : Spelled (kinds ts))
    (read : arguments last (expression last) ts = .ok (es, rest)) : areSpellable es = true := by
  have sound : SoundWithin 200 (expression last) := fun ts e rest taken => (expression_run_iff last ts e rest).mp taken
  obtain ⟨p, t, need, rfl, -, -, ⟨-, rfl, -⟩ | derived⟩ := arguments_derives sound read
  · rw [areSpellable]
  · exact arguments_of_spellable derived (spelled_behind spelled).1

theorem expressions_spellable {es : List Expr} (spelled : Spelled (kinds ts)) (read : expressions last ts = .ok es) :
    areSpellable es = true ∧ (es = [] → atEnd ts = true) := by
  fun_induction expressions last ts generalizing es with
  | case1 ts ended =>
      cases read
      exact ⟨by rw [areSpellable], fun _ => ended⟩
  | case2 => cases read
  | case3 ts more e rest taken ih =>
      obtain ⟨others, next, done⟩ := bind_eq_ok read
      cases done
      obtain ⟨first, behind⟩ := expression_spelled spelled taken
      refine ⟨are_spellable_cons first (ih behind next).1, ?_⟩
      intro empty
      cases empty

theorem take_bang_spelled (spelled : Spelled (kinds ts)) : Spelled (kinds (takeBang ts).2) := by
  unfold takeBang
  split
  · exact (spelled_cons.mp spelled).2
  · exact spelled

theorem path_keys_spelled {keys : List String} (spelled : Spelled (kinds ts))
    (read : pathKeys last ts = .ok (keys, rest)) :
    (∀ key ∈ keys, isName key = true) ∧ Spelled (kinds rest) := by
  fun_induction pathKeys last ts generalizing keys rest with
  | case1 _ _ key _ _ ts ih =>
      obtain ⟨⟨keys', rest'⟩, next, done⟩ := bind_eq_ok read
      cases done
      obtain ⟨named, behind⟩ := spelled_cons.mp (spelled_cons.mp spelled).2
      obtain ⟨others, left⟩ := ih behind next
      exact ⟨List.forall_mem_cons.mpr ⟨named, others⟩, left⟩
  | case2 => cases read
  | case3 =>
      cases read
      exact ⟨by simp, spelled⟩

theorem function_name_spelled {f : FunctionName} (spelled : Spelled (kinds ts))
    (read : functionName last ts = .ok (f, rest)) : f.Printable ∧ Spelled (kinds rest) := by
  unfold functionName at read
  split at read
  · cases read
  · rename_i t ts
    obtain ⟨named, behind⟩ := spelled_cons.mp spelled
    split at read
    · rename_i scope first kind
      rw [kind] at named
      split at read
      · rename_i allowed
        obtain ⟨⟨keys, rest'⟩, next, done⟩ := bind_eq_ok read
        cases done
        obtain ⟨others, left⟩ := path_keys_spelled behind next
        refine ⟨⟨?_, first, keys, ?_, others, ?_⟩, left⟩ <;> rw [of_path_scope]
        · exact allowed
        · exact named
      · cases read
    · cases read

theorem parameter_list_spelled {params : List String} (spelled : Spelled (kinds ts))
    (read : parameterList last ts = .ok (params, rest)) : ∀ param ∈ params, isName param = true := by
  fun_induction parameterList last ts generalizing params rest with
  | case1 => cases read
  | case2 => cases read
  | case3 param _ _ t ts comma ih =>
      obtain ⟨⟨params', rest'⟩, next, done⟩ := bind_eq_ok read
      cases done
      obtain ⟨named, behind⟩ := spelled_cons.mp spelled
      exact List.forall_mem_cons.mpr ⟨named, ih (spelled_cons.mp behind).2 next⟩
  | case4 param _ _ t ts _ closes =>
      cases read
      exact List.forall_mem_singleton.mpr (spelled_cons.mp spelled).1
  | case5 => cases read
  | case6 => cases read

theorem parameters_spelled {params : List String} (spelled : Spelled (kinds ts))
    (read : parameters last ts = .ok (params, rest)) : ∀ param ∈ params, isName param = true := by
  obtain ⟨inside, opened, next⟩ := bind_eq_ok read
  obtain ⟨t, rfl, -⟩ := expect_eq_ok opened
  split at next
  · cases next
    simp
  · exact parameter_list_spelled (spelled_cons.mp spelled).2 next

theorem variable_names_spelled {targets : List Variable} (spelled : Spelled (kinds ts))
    (read : variableNames ts = .ok targets) : ∀ v ∈ targets, isScopedName v.scope v.name = true := by
  fun_induction variableNames ts generalizing targets with
  | case1 =>
      cases read
      simp
  | case2 =>
      cases read
      simp
  | case3 t ts scope name kind ih =>
      obtain ⟨others, next, done⟩ := bind_eq_ok read
      cases done
      obtain ⟨named, behind⟩ := spelled_cons.mp spelled
      rw [kind] at named
      exact List.forall_mem_cons.mpr ⟨named, ih behind next⟩
  | case4 => cases read

theorem assign_op_spelled {op : AssignOp} (spelled : Spelled (kinds ts)) (read : assignOp last ts = .ok (op, rest)) :
    Spelled (kinds rest) := by
  unfold assignOp at read
  split at read
  · cases read
    exact (spelled_cons.mp spelled).2
  · cases read
    exact (spelled_cons.mp spelled).2
  · cases read
  · cases read

end

section

variable {number : Nat} {last : Position} {ts : List Token} {s : Statement}

theorem echo_statement_well_formed (spelled : Spelled (kinds ts)) (read : echoStatement number last ts = .ok s) :
    s.WellFormed ∧ s.isCommand = false := by
  unfold echoStatement at read
  split at read
  · cases read
  · rename_i goesOn
    obtain ⟨exprs, found, done⟩ := bind_eq_ok read
    cases done
    obtain ⟨spellable, ends⟩ := expressions_spellable spelled found
    exact ⟨⟨fun empty => goesOn (ends empty), spellable⟩, rfl⟩

theorem return_statement_well_formed (spelled : Spelled (kinds ts)) (read : returnStatement number last ts = .ok s) :
    s.WellFormed ∧ s.isCommand = false := by
  unfold returnStatement at read
  split at read
  · cases read
  · obtain ⟨⟨value, rest⟩, found, next⟩ := bind_eq_ok read
    obtain ⟨-, -, done⟩ := bind_eq_ok next
    cases done
    exact ⟨(expression_spelled spelled found).1, rfl⟩

theorem let_statement_well_formed (spelled : Spelled (kinds ts)) (read : letStatement number last ts = .ok s) :
    s.WellFormed ∧ s.isCommand = false := by
  unfold letStatement at read
  split at read
  · cases read
  · obtain ⟨named, behind⟩ := spelled_cons.mp spelled
    split at read
    · cases read
    · rename_i scope name kind
      rw [kind] at named
      obtain ⟨⟨op, afterOp⟩, signed, next⟩ := bind_eq_ok read
      obtain ⟨⟨value, rest⟩, found, next⟩ := bind_eq_ok next
      obtain ⟨-, -, done⟩ := bind_eq_ok next
      cases done
      exact ⟨⟨named, (expression_spelled (assign_op_spelled behind signed) found).1⟩, rfl⟩
    · cases read

theorem unlet_statement_well_formed (spelled : Spelled (kinds ts)) (read : unletStatement number ts = .ok s) :
    s.WellFormed ∧ s.isCommand = false := by
  obtain ⟨targets, found, next⟩ := bind_eq_ok read
  have named := variable_names_spelled (take_bang_spelled spelled) found
  split at next
  · cases next
  · rename_i filled
    cases next
    exact ⟨⟨filled, named⟩, rfl⟩

theorem call_statement_well_formed {range : Option String} (ranged : range ≠ some "") (spelled : Spelled (kinds ts))
    (read : callStatement range last ts = .ok s) : s.WellFormed ∧ s.isCommand = false := by
  obtain ⟨⟨name, afterName⟩, named, next⟩ := bind_eq_ok read
  obtain ⟨inside, opened, next⟩ := bind_eq_ok next
  obtain ⟨⟨args, rest⟩, found, next⟩ := bind_eq_ok next
  obtain ⟨-, -, done⟩ := bind_eq_ok next
  cases done
  obtain ⟨printable, behind⟩ := function_name_spelled spelled named
  obtain ⟨t, rfl, -⟩ := expect_eq_ok opened
  exact ⟨⟨ranged, printable, arguments_spellable (spelled_cons.mp behind).2 found⟩, rfl⟩

theorem delfunction_statement_well_formed (spelled : Spelled (kinds ts))
    (read : delfunctionStatement last ts = .ok s) : s.WellFormed ∧ s.isCommand = false := by
  obtain ⟨⟨name, rest⟩, named, next⟩ := bind_eq_ok read
  obtain ⟨-, -, done⟩ := bind_eq_ok next
  cases done
  exact ⟨(function_name_spelled (take_bang_spelled spelled) named).1, rfl⟩

theorem function_header_well_formed {header : FunctionHeader} {rest : List Token} (spelled : Spelled (kinds ts))
    (read : functionHeader last ts = .ok (header, rest)) :
    header.name.Printable ∧ ∀ param ∈ header.params, isName param = true := by
  obtain ⟨⟨name, afterName⟩, named, next⟩ := bind_eq_ok read
  obtain ⟨⟨params, afterParams⟩, listed, next⟩ := bind_eq_ok next
  obtain ⟨flags, -, next⟩ := bind_eq_ok next
  obtain ⟨-, -, done⟩ := bind_eq_ok next
  cases done
  obtain ⟨printable, behind⟩ := function_name_spelled (take_bang_spelled spelled) named
  exact ⟨printable, parameters_spelled behind listed⟩

end

theorem on_this_line_eq_ok {α : Type} {found : Except ParseError α} {a : α} {lines left : List LexedLine}
    (read : onThisLine found lines = .ok a left) : found = .ok a ∧ left = lines := by
  cases found with
  | error fault => cases read
  | ok b =>
      cases read
      exact ⟨rfl, rfl⟩

theorem reader_bind_eq_ok {α β : Type} {first : LineReader α} {next : α → LineReader β} {b : β}
    {lines left : List LexedLine} (read : (first >>= next) lines = .ok b left) :
    ∃ a rest, first lines = .ok a rest ∧ next a rest = .ok b left := by
  rw [reader_bind_eq] at read
  split at read
  · rename_i a rest taken
    exact ⟨a, rest, taken, read⟩
  · cases read

theorem insert_ne_empty (flags : Flags) (flag : Flag) : flags.insert flag ≠ .empty := by
  cases flag <;> simp [Flags.insert, Flags.empty]

theorem flags_of_words_filled {words : List (String × Position)} {flags : Flags} (filled : words ≠ [])
    (read : flagsOfWords words = .ok flags) : flags ≠ .empty := by
  cases words with
  | nil => exact absurd rfl filled
  | cons first words =>
      unfold flagsOfWords at read
      split at read
      · cases read
      · obtain ⟨others, -, done⟩ := bind_eq_ok read
        cases done
        exact insert_ne_empty _ _

theorem kept_words_eq {first : String} {words kept : List (String × Position)}
    (listed : (if (Flag.ofWord? first).isSome then some words
      else if !isKnownCommand first.toList && words.all (isBareWord ·.1) then some words else none) = some kept) :
    words = kept := by
  split at listed
  · exact Option.some.inj listed
  · split at listed
    · exact Option.some.inj listed
    · cases listed

theorem flag_line?_filled {tokens : List Token} {words : List (String × Position)}
    (listed : flagLine? tokens = some words) : words ≠ [] := by
  unfold flagLine? at listed
  split at listed
  · simp [← kept_words_eq listed]
  · simp [← kept_words_eq listed]
  · cases listed

def ListNoFlags (lines : List LexedLine) : Prop :=
  ∀ number tokens rest, lines = ⟨number, .ok tokens⟩ :: rest → flagLine? tokens = none

theorem flag_line_cases {lines left : List LexedLine} {flags : Flags} (read : flagLine lines = .ok flags left) :
    left <:+ lines ∧ (flags = .empty → left = lines ∧ ListNoFlags lines) := by
  unfold flagLine at read
  split at read
  · rename_i number tokens rest
    split at read
    · rename_i words listed
      obtain ⟨found, rfl⟩ := on_this_line_eq_ok read
      refine ⟨List.suffix_cons _ _, fun empty => ?_⟩
      exact absurd empty (flags_of_words_filled (flag_line?_filled listed) found)
    · rename_i unlisted
      cases read
      refine ⟨List.suffix_rfl, fun _ => ⟨rfl, ?_⟩⟩
      intro number' tokens' rest' same
      cases same
      exact unlisted
  · rename_i noTokens
    cases read
    exact ⟨List.suffix_rfl, fun _ => ⟨rfl, fun number tokens rest same => absurd same (noTokens _ _ _)⟩⟩

-- Where no flags were found, no line was taken, and the next line lists none.
theorem flags_after_cases {flags found : Flags} {lines left : List LexedLine}
    (read : flagsAfter flags lines = .ok found left) :
    left <:+ lines ∧ (found = .empty → left = lines ∧ ListNoFlags lines) := by
  unfold flagsAfter at read
  split at read
  · exact flag_line_cases read
  · rename_i flagged
    cases read
    exact ⟨List.suffix_rfl, fun empty => absurd empty flagged⟩

theorem lists_flags_cases {body : List Statement} (lists : ListsFlags body) :
    ∃ name args more, body = .command ⟨none, name, false, args⟩ :: more ∧
      ((Flag.ofWord? name).isSome = true ∨
        isKnownCommand name.toList = false ∧ ∀ word ∈ name :: wordsOf args, isBareWord word = true) := by
  unfold ListsFlags at lists
  split at lists
  · exact ⟨_, _, _, rfl, lists⟩
  · exact False.elim lists

theorem flag_line?_lists {name args : String} {tokens : List Token} (filled : name ≠ "")
    (spelled : kinds tokens = commandKinds ⟨none, name, false, args⟩)
    (lists : (Flag.ofWord? name).isSome = true ∨
      isKnownCommand name.toList = false ∧ ∀ word ∈ name :: wordsOf args, isBareWord word = true) :
    flagLine? tokens ≠ none := by
  obtain ⟨words, same, found⟩ := flag_line?_unranged filled spelled
  rw [← same] at lists
  rw [found]
  by_cases flag : (Flag.ofWord? name).isSome = true
  · simp [flag]
  · simpa [flag] using lists.resolve_left flag

def LexedLine.Shaped (line : LexedLine) : Prop := ∀ ks, line.kinds? = some ks → LineShape ks

-- What a reader gives for a line. That a command has a line of its own is what lets a body be compared with the
-- line after the header.
structure Formed (line : LexedLine) (s : Statement) (left : List LexedLine) : Prop where
  wellFormed : s.WellFormed
  shaped : ∀ l ∈ left, l.Shaped
  spelled : ∀ c, s = .command c → line.kinds? = some (commandKinds c)

def Forms (reader : StatementReader) : Prop :=
  ∀ line lines s left, (∀ l ∈ line :: lines, l.Shaped) → reader.run line lines = .ok s left → Formed line s left

-- Only the first statement of a body can be mistaken for flags, so only its line matters.
def SpellsFirst (lines : List LexedLine) (body : List Statement) : Prop :=
  ∀ c more, body = .command c :: more → ∃ first others, lines = first :: others ∧ first.kinds? = some (commandKinds c)

section

variable {inner : StatementReader} {number : Nat} {last : Position} {line : LexedLine} {lines left : List LexedLine}
  {s : Statement}

theorem function_body_forms (forms : Forms inner) (name : String) (header : Nat) {body : List Statement}
    (shaped : ∀ l ∈ lines, l.Shaped) (read : functionBody inner name header lines = .ok body left) :
    AllWellFormed body ∧ (∀ l ∈ left, l.Shaped) ∧ SpellsFirst lines body := by
  fun_induction functionBody inner name header lines generalizing body left with
  | case1 => cases read
  | case2 line lines rest ended =>
      obtain ⟨closed, rfl⟩ := on_this_line_eq_ok read
      have empty : body = [] := by
        cases checked : expectEnd rest with
        | error fault =>
            rw [checked] at closed
            cases closed
        | ok _ =>
            rw [checked] at closed
            exact (Except.ok.inj closed).symm
      subst empty
      exact ⟨trivial, (List.forall_mem_cons.mp shaped).2, fun c more same => by cases same⟩
  | case3 => cases read
  | case4 => cases read
  | case5 line lines _ s rest taken body' left' next ih =>
      cases read
      have first := forms line lines s rest shaped taken
      obtain ⟨others, behind, -⟩ := ih first.shaped next
      refine ⟨⟨first.wellFormed, others⟩, behind, fun c more same => ⟨line, lines, rfl, ?_⟩⟩
      exact first.spelled c (List.cons.inj same).1

theorem function_body_unlisted {body : List Statement} (unlisted : ListNoFlags lines) (formed : AllWellFormed body)
    (spelled : SpellsFirst lines body) : ¬ ListsFlags body := by
  intro lists
  obtain ⟨name, args, more, rfl, words⟩ := lists_flags_cases lists
  obtain ⟨⟨number, found⟩, others, rfl, same⟩ := spelled _ more rfl
  cases found with
  | error fault => cases same
  | ok tokens =>
      have filled : name ≠ "" := by
        intro nameless
        have ranged := (formed.1.nameless nameless).1
        cases ranged
      exact flag_line?_lists filled (Option.some.inj same) words (unlisted number tokens others rfl)

theorem function_statement_formed {inner : Option StatementReader} (forms : ∀ reader, inner = some reader → Forms reader)
    {ts : List Token} (spelled : Spelled (kinds ts)) (shaped : ∀ l ∈ lines, l.Shaped)
    (read : functionStatement inner number last ts lines = .ok s left) :
    (s.WellFormed ∧ s.isCommand = false) ∧ ∀ l ∈ left, l.Shaped := by
  obtain ⟨⟨header, rest⟩, lines', taken, next⟩ := reader_bind_eq_ok read
  obtain ⟨headed, rfl⟩ := on_this_line_eq_ok taken
  obtain ⟨flags, bodyLines, flagged, next⟩ := reader_bind_eq_ok next
  obtain ⟨behind, unflagged⟩ := flags_after_cases flagged
  cases inner with
  | none => cases next
  | some reader =>
      obtain ⟨body, left', bodyRead, done⟩ := reader_bind_eq_ok next
      cases done
      obtain ⟨named, params⟩ := function_header_well_formed spelled headed
      obtain ⟨formed, shaped', first⟩ := function_body_forms (forms reader rfl) _ _
        (fun l member => shaped l (behind.mem member)) bodyRead
      refine ⟨⟨⟨named, params, fun empty => ?_, formed⟩, rfl⟩, shaped'⟩
      obtain ⟨rfl, unlisted⟩ := unflagged empty
      exact function_body_unlisted unlisted formed first

theorem on_this_line_formed {found : Except ParseError Statement} (shaped : ∀ l ∈ lines, l.Shaped)
    (formed : ∀ s, found = .ok s → s.WellFormed ∧ s.isCommand = false) (read : onThisLine found lines = .ok s left) :
    (s.WellFormed ∧ s.isCommand = false) ∧ ∀ l ∈ left, l.Shaped := by
  obtain ⟨taken, rfl⟩ := on_this_line_eq_ok read
  exact ⟨formed s taken, shaped⟩

theorem keyword_statement_formed {inner : Option StatementReader} (forms : ∀ reader, inner = some reader → Forms reader)
    {k : Keyword} {range : Option String} {ts : List Token} (ranged : range ≠ some "") (spelled : Spelled (kinds ts))
    (shaped : ∀ l ∈ lines, l.Shaped) (read : keywordStatement inner k range number last ts lines = .ok s left) :
    (s.WellFormed ∧ s.isCommand = false) ∧ ∀ l ∈ left, l.Shaped := by
  unfold keywordStatement at read
  split at read
  · cases read
  · cases k with
    | function => exact function_statement_formed forms spelled shaped read
    | endfunction => cases read
    | echo => exact on_this_line_formed shaped (fun _ => echo_statement_well_formed spelled) read
    | «return» => exact on_this_line_formed shaped (fun _ => return_statement_well_formed spelled) read
    | «let» => exact on_this_line_formed shaped (fun _ => let_statement_well_formed spelled) read
    | unlet => exact on_this_line_formed shaped (fun _ => unlet_statement_well_formed spelled) read
    | call => exact on_this_line_formed shaped (fun _ => call_statement_well_formed ranged spelled) read
    | delfunction => exact on_this_line_formed shaped (fun _ => delfunction_statement_well_formed spelled) read

theorem statement_from_formed {inner : Option StatementReader} (forms : ∀ reader, inner = some reader → Forms reader)
    (shaped : ∀ l ∈ line :: lines, l.Shaped) (read : statementFrom inner line lines = .ok s left) :
    Formed line s left := by
  obtain ⟨here, behind⟩ := List.forall_mem_cons.mp shaped
  obtain ⟨number, found⟩ := line
  cases found with
  | error fault => cases read
  | ok tokens =>
      have shape : LineShape (kinds tokens) := here _ rfl
      generalize spelling : kinds tokens = ks at shape
      cases shape with
      | keyword k ranged spelled =>
          obtain ⟨ts, same, opened⟩ := statement_from_keyword inner _ k _ number spelling
          rw [opened] at read
          have tail : Spelled (kinds ts) := by
            rw [same]
            exact spelled_append.mpr ⟨spelled, List.forall_mem_singleton.mpr rfl⟩
          obtain ⟨⟨formed, plain⟩, shaped'⟩ := keyword_statement_formed forms ranged tail behind read
          refine ⟨formed, shaped', fun c command => ?_⟩
          rw [command] at plain
          cases plain
      | command c formed =>
          rw [statement_from_command inner c number spelling] at read
          obtain ⟨taken, rfl⟩ := on_this_line_eq_ok read
          cases taken
          refine ⟨formed, behind, fun c' command => ?_⟩
          cases command
          exact congrArg some spelling

theorem statement_forms (room : Nat) : Forms (statement room) := by
  induction room with
  | zero =>
      intro line lines s left shaped read
      exact statement_from_formed (fun reader same => by cases same) shaped read
  | succ room ih =>
      intro line lines s left shaped read
      rw [statement_run_succ] at read
      exact statement_from_formed (fun reader same => Option.some.inj same ▸ ih) shaped read

end

end ExScript
