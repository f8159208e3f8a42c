import ExScript.Proofs.Expr.Grammar
import ExScript.Proofs.Statement.Spelling

set_option autoImplicit false

namespace ExScript

theorem operand_of_chain {ks : List TokenKind} {e : Expr} {count need : Nat} (derived : ChainOf ks e count need)
    (plain : e.isConcat = false) : ∃ inner, OperandOf ks e inner ∧ need = 1 + inner := by
  cases derived with
  | single only => exact ⟨_, only, rfl⟩
  | link _ _ _ => simp [Expr.isConcat] at plain

-- Only the scopes of calls matter here; that names are spelled with the right characters matters to the scanner.
mutual

theorem expr_derives (e : Expr) (spellable : e.isSpellable = true) :
    ChainOf (exprKinds e) e e.operands e.need := by
  cases e with
  | literal value =>
      cases value with
      | str s => exact .single (.string s)
      | num n => exact .single (.number n)
  | «variable» v => exact .single (.variable v.scope v.name)
  | concat left right =>
      rw [Expr.isSpellable, Bool.and_eq_true] at spellable
      have first := expr_derives left spellable.1
      have second := expr_derives right spellable.2
      rw [exprKinds, Expr.operands, Expr.need]
      cases joined : right.isConcat with
      | true =>
          have whole := ChainOf.link first (.inl rfl) (.parens second)
          rwa [Nat.add_right_comm] at whole
      | false =>
          obtain ⟨inner, operand, same⟩ := operand_of_chain second joined
          have whole := ChainOf.link first (.inl rfl) operand
          rwa [Nat.add_assoc, ← same] at whole
  | call name args =>
      rw [Expr.isSpellable, Bool.and_eq_true, Bool.and_eq_true] at spellable
      rw [exprKinds, Expr.need]
      cases args with
      | nil => exact .single (.emptyCall name.scope name.name spellable.1.1)
      | cons e es =>
          exact .single (.call name.scope name.name spellable.1.1 (arguments_derive (e :: es) (by simp) spellable.2))

theorem arguments_derive (es : List Expr) (filled : es ≠ []) (spellable : areSpellable es = true) :
    ArgumentsOf ([.comma].intercalate (exprsKinds es)) es (needOf es) := by
  cases es with
  | nil => exact absurd rfl filled
  | cons e es =>
      rw [areSpellable, Bool.and_eq_true] at spellable
      have first := expr_derives e spellable.1
      cases es with
      | nil => simpa [exprsKinds, needOf] using ArgumentsOf.last first
      | cons e' es =>
          have others := arguments_derive (e' :: es) (by simp) spellable.2
          simpa [exprsKinds, needOf] using ArgumentsOf.more first others

end

theorem need_of_le (es : List Expr) (room : Nat) (fits : ∀ e ∈ es, e.need ≤ room) : needOf es ≤ room := by
  induction es with
  | nil => exact Nat.zero_le _
  | cons e es ih => exact Nat.max_le.mpr ⟨fits e (by simp), ih fun e' member => fits e' (by simp [member])⟩

theorem stops_of_next (ks : List TokenKind) {rest : List Token} {k : TokenKind} (next : nextKind rest = some k)
    (noJoin : ¬ IsJoin k) (noParen : k ≠ .leftParen) : Stops ks rest := by
  refine ⟨fun k' next' => ?_, fun ⟨_, paren⟩ => ?_⟩
  · rw [next] at next'
    exact Option.some.inj next' ▸ noJoin
  · rw [next] at paren
    exact noParen (Option.some.inj paren)

theorem next_kind_eq (tokens : List Token) : nextKind tokens = (kinds tokens).head? := by
  cases tokens <;> rfl

theorem expression_reads {e : Expr} (printable : e.Printable) (last : Position) {ts rest : List Token}
    (spelled : kinds ts = exprKinds e) (stops : Stops (exprKinds e) rest) :
    (expression last).run (ts ++ rest) = .ok (e, rest) := by
  rw [expression_run_iff]
  refine ⟨ts, e.operands, e.need, rfl, ?_, printable.2, ?_⟩
  · rw [spelled]
    exact expr_derives e printable.1
  · rwa [spelled]

-- No printed expression starts with what could continue the one before it.
theorem expr_kinds_head (e : Expr) :
    ∃ k more, exprKinds e = k :: more ∧ ¬ IsJoin k ∧ k ≠ .leftParen ∧ k ≠ .endOfLine := by
  cases e with
  | literal value => cases value <;> exact ⟨_, _, rfl, by simp [IsJoin], by simp, by simp⟩
  | «variable» v => exact ⟨_, _, rfl, by simp [IsJoin], by simp, by simp⟩
  | concat left right =>
      obtain ⟨k, more, head, facts⟩ := expr_kinds_head left
      exact ⟨k, _, by rw [exprKinds, head]; rfl, facts⟩
  | call name args => exact ⟨_, _, rfl, by simp [IsJoin], by simp, by simp⟩

theorem at_end_expr (e : Expr) {ts : List Token} {ks : List TokenKind} (spelled : kinds ts = exprKinds e ++ ks) :
    atEnd ts = false := by
  obtain ⟨k, more, head, -, -, noEnd⟩ := expr_kinds_head e
  rw [head] at spelled
  obtain ⟨t, others, rfl, rfl, -⟩ := kinds_eq_cons spelled
  exact beq_eq_false_iff_ne.mpr noEnd

theorem expect_end_of_end {ts : List Token} (spelled : kinds ts = [.endOfLine]) : expectEnd ts = .ok () := by
  obtain ⟨t, more, rfl, ends, -⟩ := kinds_eq_cons spelled
  rw [expectEnd, if_pos ends]

theorem expressions_read (es : List Expr) (printable : ∀ e ∈ es, e.Printable) (last : Position) (ts : List Token)
    (spelled : kinds ts = (exprsKinds es).flatten ++ [.endOfLine]) : expressions last ts = .ok es := by
  induction es generalizing ts with
  | nil =>
      obtain ⟨t, more, rfl, ends, -⟩ := kinds_eq_cons spelled
      rw [expressions, if_pos (by simp [atEnd, ends])]
  | cons e es ih =>
      rw [exprsKinds, List.flatten_cons, List.append_assoc] at spelled
      obtain ⟨front, back, rfl, first, others⟩ := kinds_eq_append spelled
      have stops : Stops (exprKinds e) back := by
        cases es with
        | nil => exact stops_of_next _ (by rw [next_kind_eq, others]; rfl) (by simp [IsJoin]) (by simp)
        | cons e' es =>
            obtain ⟨k, more, head, noJoin, noParen, -⟩ := expr_kinds_head e'
            rw [exprsKinds, List.flatten_cons, head] at others
            exact stops_of_next _ (by rw [next_kind_eq, others]; rfl) noJoin noParen
      have read := expression_reads (printable e (by simp)) last first stops
      have more := ih (fun e' member => printable e' (by simp [member])) back others
      rw [expressions, if_neg (by simp [at_end_expr e spelled])]
      split <;> rename_i found <;> rw [read] at found <;> cases found
      rw [more]
      rfl

theorem arguments_spelled (es : List Expr) (printable : ∀ e ∈ es, e.Printable) (last : Position) {ts : List Token}
    (rest : List Token) {t : Token} (spelled : kinds ts = [.comma].intercalate (exprsKinds es))
    (closes : t.kind = .rightParen) :
    arguments last (expression last) (ts ++ t :: rest) = .ok (es, rest) := by
  cases es with
  | nil =>
      cases kinds_eq_nil spelled
      obtain ⟨kind, text, place⟩ := t
      cases closes
      rfl
  | cons e es =>
      have spellable := are_spellable_of_mem (e :: es) fun e' member => (printable e' member).1
      have derived := arguments_derive (e :: es) (by simp) spellable
      have fits := need_of_le (e :: es) nestingLimit fun e' member => (printable e' member).2
      exact arguments_read derived (arguments_of_reads derived) last rest fits spelled closes

theorem path_keys_read (last : Position) (keys : List String) {ts rest : List Token}
    (spelled : kinds ts = keys.flatMap fun key => [.dot, .name none key]) (noDot : nextKind rest ≠ some .dot) :
    pathKeys last (ts ++ rest) = .ok (keys, rest) := by
  induction keys generalizing ts with
  | nil =>
      cases kinds_eq_nil spelled
      rw [List.nil_append]
      unfold pathKeys
      split
      · exact absurd rfl noDot
      · exact absurd rfl noDot
      · rfl
  | cons key keys ih =>
      rw [List.flatMap_cons, List.cons_append] at spelled
      obtain ⟨⟨_, text, place⟩, more, rfl, rfl, keySpelled⟩ := kinds_eq_cons spelled
      obtain ⟨⟨_, text', place'⟩, more, rfl, rfl, others⟩ := kinds_eq_cons keySpelled
      rw [List.cons_append, List.cons_append, pathKeys, ih others]
      rfl

theorem function_name_reads {f : FunctionName} (printable : f.Printable) (last : Position) {ts : List Token}
    (spelled : kinds ts = nameKinds f) (rest : List Token) (noDot : nextKind rest ≠ some .dot) :
    functionName last (ts ++ rest) = .ok (f, rest) := by
  obtain ⟨allowed, first, keys, firstNamed, keysNamed, path⟩ := printable
  rw [path, name_kinds_of_path firstNamed keysNamed] at spelled
  obtain ⟨t, more, rfl, kind, keysSpelled⟩ := kinds_eq_cons spelled
  rw [List.cons_append, functionName, kind]
  dsimp only
  rw [if_pos allowed, path_keys_read last keys keysSpelled noDot, path, of_path_scope]
  rfl

theorem parameter_list_reads (last : Position) (param : String) (params : List String) {ts : List Token}
    (rest : List Token) {t : Token}
    (spelled : kinds ts = [.comma].intercalate ((param :: params).map fun param => [.name none param]))
    (closes : t.kind = .rightParen) : parameterList last (ts ++ t :: rest) = .ok (param :: params, rest) := by
  induction params generalizing param ts with
  | nil =>
      obtain ⟨⟨_, text, place⟩, more, rfl, rfl, ended⟩ := kinds_eq_cons spelled
      cases kinds_eq_nil ended
      simp [parameterList, closes]
  | cons param' params ih =>
      rw [List.map_cons, List.map_cons, List.intercalate_cons_cons] at spelled
      obtain ⟨⟨_, text, place⟩, more, rfl, rfl, tail⟩ := kinds_eq_cons spelled
      obtain ⟨comma, more, rfl, commaKind, others⟩ := kinds_eq_cons tail
      rw [List.cons_append, List.cons_append, parameterList, if_pos commaKind, ih param' others]
      rfl

theorem parameters_read (last : Position) (params : List String) {opener : Token} {ts : List Token}
    (rest : List Token) {t : Token}
    (opens : opener.kind = .leftParen)
    (spelled : kinds ts = [.comma].intercalate (params.map fun param => [.name none param]))
    (closes : t.kind = .rightParen) : parameters last (opener :: (ts ++ t :: rest)) = .ok (params, rest) := by
  rw [parameters, expect_kind last .leftParen _ opens]
  cases params with
  | nil =>
      cases kinds_eq_nil spelled
      obtain ⟨kind, text, place⟩ := t
      cases closes
      rfl
  | cons param params =>
      have read := parameter_list_reads last param params rest spelled closes
      cases params <;>
      · obtain ⟨⟨_, text, place⟩, more, rfl, rfl, -⟩ := kinds_eq_cons spelled
        exact read

theorem take_bang_reads (bang : Bool) {ts : List Token} {ks : List TokenKind}
    (spelled : kinds ts = bangKinds bang ++ ks) (noBang : ks.head? ≠ some .bang) :
    ∃ rest, takeBang ts = (bang, rest) ∧ kinds rest = ks := by
  cases bang with
  | true =>
      obtain ⟨⟨_, text, place⟩, more, rfl, rfl, others⟩ := kinds_eq_cons spelled
      exact ⟨more, rfl, others⟩
  | false =>
      refine ⟨ts, ?_, spelled⟩
      unfold takeBang
      split
      · rw [← show _ = ks from spelled] at noBang
        exact absurd rfl noBang
      · rfl

theorem header_words_read (words : List String) {ts : List Token}
    (spelled : kinds ts = (words.map fun word => .name none word) ++ [.endOfLine]) :
    ∃ found rest, headerWords ts = (found, rest) ∧ found.map Prod.fst = words ∧ kinds rest = [.endOfLine] := by
  induction words generalizing ts with
  | nil =>
      obtain ⟨⟨_, text, place⟩, more, rfl, rfl, ended⟩ := kinds_eq_cons spelled
      exact ⟨[], _, rfl, rfl, spelled⟩
  | cons word words ih =>
      obtain ⟨⟨_, text, place⟩, more, rfl, rfl, others⟩ := kinds_eq_cons spelled
      obtain ⟨found, rest, read, same, ended⟩ := ih others
      refine ⟨(word, place) :: found, rest, ?_, by rw [List.map_cons, same], ended⟩
      rw [headerWords, read]

theorem of_word?_word (flag : Flag) : Flag.ofWord? flag.word = some flag := by cases flag <;> rfl

theorem flags_of_words_reads (flags : List Flag) {words : List (String × Position)}
    (same : words.map Prod.fst = flags.map Flag.word) :
    flagsOfWords words = .ok (flags.foldr (fun flag set => set.insert flag) .empty) := by
  induction flags generalizing words with
  | nil =>
      cases List.map_eq_nil_iff.mp same
      rfl
  | cons flag flags ih =>
      cases words with
      | nil => cases same
      | cons found words =>
          obtain ⟨word, place⟩ := found
          obtain ⟨wordSame, others⟩ := List.cons.inj same
          rw [flagsOfWords, show word = flag.word from wordSame, of_word?_word, ih others]
          rfl

theorem foldr_insert_to_list (flags : Flags) :
    flags.toList.foldr (fun flag set => set.insert flag) .empty = flags := by
  obtain ⟨range, abort, dict, closure⟩ := flags
  cases range <;> cases abort <;> cases dict <;> cases closure <;> rfl

@[simp]
theorem ok_bind {α β : Type} (a : α) (next : α → Except ParseError β) : (Except.ok a >>= next) = next a := rfl

theorem function_header_words {header : FunctionHeader} (named : header.name.Printable) (last : Position)
    (words : List String) {ts : List Token} (spelled : kinds ts = headedKinds header words) :
    ∃ found rest, found.map Prod.fst = words ∧
      functionHeader last ts = (flagsOfWords found).map fun flags => ({ header with flags }, rest) := by
  rw [headedKinds, signatureKinds, List.append_assoc, List.append_assoc, List.cons_append] at spelled
  obtain ⟨unbanged, bangRead, tail⟩ := take_bang_reads header.replace spelled (name_kinds_head named _)
  obtain ⟨nameTokens, afterName, rfl, nameSpelled, tail⟩ := kinds_eq_append tail
  obtain ⟨opener, more, rfl, opens, tail⟩ := kinds_eq_cons tail
  obtain ⟨paramTokens, afterParams, rfl, paramsSpelled, tail⟩ := kinds_eq_append tail
  obtain ⟨closer, more, rfl, closes, tail⟩ := kinds_eq_cons tail
  have nameRead := function_name_reads named last nameSpelled (opener :: (paramTokens ++ closer :: more))
    (by simp [nextKind, opens])
  have paramsRead := parameters_read last header.params more opens paramsSpelled closes
  obtain ⟨found, rest, wordsRead, same, ended⟩ := header_words_read words tail
  refine ⟨found, rest, same, ?_⟩
  simp only [functionHeader, bangRead, nameRead, paramsRead, wordsRead, expect_end_of_end ended, ok_bind]
  cases flagsOfWords found <;> rfl

theorem function_header_reads (header : FunctionHeader) (named : header.name.Printable) (last : Position)
    {ts : List Token} (spelled : .keyword .function :: kinds ts = headerKinds header) :
    ∃ rest, functionHeader last ts = .ok (header, rest) := by
  have tail : kinds ts = headedKinds header (header.flags.toList.map Flag.word) := by
    simpa [headerKinds, headedKinds, signatureKinds, Function.comp_def] using spelled
  obtain ⟨found, rest, same, read⟩ := function_header_words named last _ tail
  rw [flags_of_words_reads header.flags.toList same, foldr_insert_to_list] at read
  exact ⟨rest, read⟩

theorem echo_statement_reads (exprs : List Expr) (filled : exprs ≠ []) (printable : ∀ e ∈ exprs, e.Printable)
    (number : Nat) (last : Position) {ts : List Token}
    (spelled : kinds ts = (exprsKinds exprs).flatten ++ [.endOfLine]) :
    echoStatement number last ts = .ok (.echo exprs) := by
  have goesOn : atEnd ts = false := by
    cases exprs with
    | nil => exact absurd rfl filled
    | cons e es =>
        rw [exprsKinds, List.flatten_cons, List.append_assoc] at spelled
        exact at_end_expr e spelled
  rw [echoStatement, goesOn, expressions_read exprs printable last ts spelled]
  rfl

theorem expression_reads_line {e : Expr} (printable : e.Printable) (last : Position) {ts : List Token}
    (spelled : kinds ts = exprKinds e ++ [.endOfLine]) :
    ∃ rest, (expression last).run ts = .ok (e, rest) ∧ kinds rest = [.endOfLine] := by
  obtain ⟨front, back, rfl, first, ended⟩ := kinds_eq_append spelled
  have stops := stops_of_next (exprKinds e) (by rw [next_kind_eq, ended]; rfl) (by simp [IsJoin]) (by simp)
  exact ⟨back, expression_reads printable last first stops, ended⟩

theorem return_statement_reads {value : Expr} (printable : value.Printable) (number : Nat) (last : Position)
    {ts : List Token} (spelled : kinds ts = exprKinds value ++ [.endOfLine]) :
    returnStatement number last ts = .ok (.return value) := by
  obtain ⟨rest, read, ended⟩ := expression_reads_line printable last spelled
  rw [returnStatement, if_neg (by simp [at_end_expr value spelled]), read]
  simp only [ok_bind, expect_end_of_end ended]
  rfl

theorem assign_op_reads (op : AssignOp) (last : Position) {t : Token} (rest : List Token)
    (spelled : t.kind = assignOpKind op) : assignOp last (t :: rest) = .ok (op, rest) := by
  obtain ⟨kind, text, place⟩ := t
  cases op <;> cases spelled <;> rfl

theorem let_statement_reads (target : Variable) (op : AssignOp) {value : Expr} (printable : value.Printable)
    (number : Nat) (last : Position) {ts : List Token}
    (spelled : kinds ts = .name target.scope target.name :: assignOpKind op :: (exprKinds value ++ [.endOfLine])) :
    letStatement number last ts = .ok (.assign target op value) := by
  obtain ⟨t, more, rfl, named, tail⟩ := kinds_eq_cons spelled
  obtain ⟨sign, more, rfl, signKind, tail⟩ := kinds_eq_cons tail
  obtain ⟨rest, read, ended⟩ := expression_reads_line printable last tail
  rw [letStatement, named]
  simp only [assign_op_reads op last more signKind, ok_bind, read, expect_end_of_end ended]
  rfl

theorem variable_names_read (targets : List Variable) {ts : List Token}
    (spelled : kinds ts = (targets.map fun v => .name v.scope v.name) ++ [.endOfLine]) :
    variableNames ts = .ok targets := by
  induction targets generalizing ts with
  | nil =>
      obtain ⟨t, more, rfl, ends, -⟩ := kinds_eq_cons spelled
      rw [variableNames, ends]
  | cons v targets ih =>
      obtain ⟨t, more, rfl, named, others⟩ := kinds_eq_cons spelled
      rw [variableNames, named]
      dsimp only
      rw [ih others]
      rfl

theorem unlet_statement_reads (bang : Bool) (targets : List Variable) (filled : targets ≠ []) (number : Nat)
    {ts : List Token}
    (spelled : kinds ts = bangKinds bang ++ ((targets.map fun v => .name v.scope v.name) ++ [.endOfLine])) :
    unletStatement number ts = .ok (.unlet bang targets) := by
  obtain ⟨rest, bangRead, others⟩ := take_bang_reads bang spelled (by cases targets <;> simp)
  simp only [unletStatement, bangRead, variable_names_read targets others, ok_bind]
  cases targets with
  | nil => exact absurd rfl filled
  | cons v targets => rfl

theorem call_statement_reads (range : Option String) {name : FunctionName} (named : name.Printable) (args : List Expr)
    (printable : ∀ e ∈ args, e.Printable) (last : Position) {ts : List Token}
    (spelled : kinds ts = nameKinds name ++
      .leftParen :: ([.comma].intercalate (exprsKinds args) ++ [.rightParen, .endOfLine])) :
    callStatement range last ts = .ok (.call range name args) := by
  obtain ⟨nameTokens, afterName, rfl, nameSpelled, tail⟩ := kinds_eq_append spelled
  obtain ⟨opener, more, rfl, opens, tail⟩ := kinds_eq_cons tail
  obtain ⟨argTokens, afterArgs, rfl, argsSpelled, tail⟩ := kinds_eq_append tail
  obtain ⟨closer, rest, rfl, closes, ended⟩ := kinds_eq_cons tail
  have nameRead := function_name_reads named last nameSpelled (opener :: (argTokens ++ closer :: rest))
    (by simp [nextKind, opens])
  have argsRead := arguments_spelled args printable last rest argsSpelled closes
  simp only [callStatement, nameRead, ok_bind, expect_kind last .leftParen _ opens, argsRead, expect_end_of_end ended]
  rfl

theorem delfunction_statement_reads (bang : Bool) {name : FunctionName} (named : name.Printable) (last : Position)
    {ts : List Token} (spelled : kinds ts = bangKinds bang ++ (nameKinds name ++ [.endOfLine])) :
    delfunctionStatement last ts = .ok (.delfunction bang name) := by
  obtain ⟨unbanged, bangRead, tail⟩ := take_bang_reads bang spelled (name_kinds_head named _)
  obtain ⟨nameTokens, rest, rfl, nameSpelled, ended⟩ := kinds_eq_append tail
  have nameRead := function_name_reads named last nameSpelled rest
    (by rw [next_kind_eq, ended]; simp)
  simp only [delfunctionStatement, bangRead, nameRead, ok_bind, expect_end_of_end ended]
  rfl

def takeName : List Token → String × List Token
  | ⟨.name _ name, _, _⟩ :: rest => (name, rest)
  | ts => ("", ts)

def takeArguments : List Token → String × List Token
  | ⟨.raw text, _, _⟩ :: rest => (text, rest)
  | ts => ("", ts)

theorem command_statement_eq (range : Option String) (ts : List Token) :
    commandStatement range ts = (do
      let (name, rest) := takeName ts
      let (bang, rest) := takeBang rest
      let (args, rest) := takeArguments rest
      expectEnd rest
      return .command ⟨range, name, bang, args⟩) := rfl

theorem take_name_reads (name : String) {ts : List Token} {ks : List TokenKind}
    (spelled : kinds ts = wordKinds name ++ ks)
    (noName : ∀ scope other, ks.head? ≠ some (.name scope other)) :
    ∃ rest, takeName ts = (name, rest) ∧ kinds rest = ks := by
  by_cases nameless : name = ""
  · rw [wordKinds, if_pos nameless, List.nil_append] at spelled
    refine ⟨ts, ?_, spelled⟩
    unfold takeName
    split
    · rw [← spelled] at noName
      exact absurd rfl (noName _ _)
    · rw [nameless]
  · rw [wordKinds, if_neg nameless] at spelled
    obtain ⟨⟨_, text, place⟩, more, rfl, rfl, others⟩ := kinds_eq_cons spelled
    exact ⟨more, rfl, others⟩

theorem take_arguments_reads (args : String) {ts : List Token}
    (spelled : kinds ts = argumentKinds args ++ [.endOfLine]) :
    ∃ rest, takeArguments ts = (args, rest) ∧ kinds rest = [.endOfLine] := by
  by_cases bare : args = ""
  · rw [argumentKinds, if_pos bare, List.nil_append] at spelled
    obtain ⟨⟨_, text, place⟩, more, rfl, rfl, -⟩ := kinds_eq_cons spelled
    exact ⟨_, by rw [bare]; rfl, spelled⟩
  · rw [argumentKinds, if_neg bare] at spelled
    obtain ⟨⟨_, text, place⟩, more, rfl, rfl, others⟩ := kinds_eq_cons spelled
    exact ⟨more, rfl, others⟩

theorem command_statement_reads (c : HostCommand) {ts : List Token}
    (spelled : kinds ts = unrangedKinds c) : commandStatement c.range ts = .ok (.command c) := by
  obtain ⟨afterName, nameRead, tail⟩ := take_name_reads c.name spelled (by
    cases c.bang <;> by_cases bare : c.args = "" <;> simp [argumentKinds, bangKinds, bare])
  obtain ⟨afterBang, bangRead, tail⟩ := take_bang_reads c.bang tail (by
    by_cases bare : c.args = "" <;> simp [argumentKinds, bare])
  obtain ⟨afterArgs, argsRead, ended⟩ := take_arguments_reads c.args tail
  simp only [command_statement_eq, nameRead, bangRead, argsRead, expect_end_of_end ended, ok_bind]
  rfl

def LexedLine.kinds? (line : LexedLine) : Option (List TokenKind) :=
  match line.tokens with
  | .ok tokens => some (kinds tokens)
  | .error _ => none

def SpelledBy (lines : List LexedLine) (kss : List (List TokenKind)) : Prop :=
  lines.map LexedLine.kinds? = kss.map some

theorem spelled_by_cons {lines : List LexedLine} {ks : List TokenKind} {kss : List (List TokenKind)}
    (spelled : SpelledBy lines (ks :: kss)) :
    ∃ number tokens more, lines = ⟨number, .ok tokens⟩ :: more ∧ kinds tokens = ks ∧ SpelledBy more kss := by
  obtain ⟨⟨number, found⟩, more, rfl, first, others⟩ := List.map_eq_cons_iff.mp spelled
  cases found with
  | error error => cases first
  | ok tokens => exact ⟨number, tokens, more, rfl, Option.some.inj first, others⟩

theorem spelled_by_append {lines : List LexedLine} {kss kss' : List (List TokenKind)}
    (spelled : SpelledBy lines (kss ++ kss')) :
    ∃ front back, lines = front ++ back ∧ SpelledBy front kss ∧ SpelledBy back kss' := by
  rw [SpelledBy, List.map_append] at spelled
  exact List.map_eq_append_iff.mp spelled

theorem take_range_reads (range : Option String) {ts : List Token} {ks : List TokenKind}
    (spelled : kinds ts = rangeKinds range ++ ks) (noRange : ∀ text, ks.head? ≠ some (.range text)) :
    ∃ rest, takeRange ts = (range, rest) ∧ kinds rest = ks := by
  cases range with
  | some text =>
      obtain ⟨⟨_, _, place⟩, more, rfl, rfl, others⟩ := kinds_eq_cons spelled
      exact ⟨more, rfl, others⟩
  | none =>
      refine ⟨ts, ?_, spelled⟩
      unfold takeRange
      split
      · rw [← show _ = ks from spelled] at noRange
        exact absurd rfl (noRange _)
      · rfl

theorem statement_from_keyword (inner : Option StatementReader) (range : Option String) (k : Keyword)
    (ks : List TokenKind) (number : Nat) {tokens : List Token}
    (spelled : kinds tokens = rangeKinds range ++ .keyword k :: ks) :
    ∃ ts, kinds ts = ks ∧
      statementFrom inner ⟨number, .ok tokens⟩ = keywordStatement inner k range number (lastPlace tokens) ts := by
  obtain ⟨rest, rangeRead, tail⟩ := take_range_reads range spelled (by simp)
  obtain ⟨⟨_, text, place⟩, more, rfl, rfl, others⟩ := kinds_eq_cons tail
  refine ⟨more, others, ?_⟩
  simp only [statementFrom, rangeRead]
  rfl

theorem unranged_kinds_head (c : HostCommand) {k : TokenKind} (first : (unrangedKinds c).head? = some k) :
    (∀ text, k ≠ .range text) ∧ ∀ word, k ≠ .keyword word := by
  obtain ⟨range, name, bang, args⟩ := c
  by_cases nameless : name = ""
  · by_cases bare : args = "" <;> cases bang <;>
      simp [unrangedKinds, wordKinds, bangKinds, argumentKinds, nameless, bare] at first <;> simp [← first]
  · simp [unrangedKinds, wordKinds, nameless] at first
    simp [← first]

theorem statement_from_command (inner : Option StatementReader) (c : HostCommand) (number : Nat)
    {tokens : List Token} (spelled : kinds tokens = commandKinds c) :
    statementFrom inner ⟨number, .ok tokens⟩ = onThisLine (.ok (.command c)) := by
  obtain ⟨rest, rangeRead, tail⟩ := take_range_reads c.range spelled fun text first =>
    (unranged_kinds_head c first).1 text rfl
  have noKeyword : leadingKeyword? rest = none := by
    unfold leadingKeyword?
    split
    · exact absurd rfl ((unranged_kinds_head c (by rw [← tail]; rfl)).2 _)
    · rfl
  simp only [statementFrom, rangeRead, noKeyword]
  rw [command_statement_reads c tail]

theorem reader_bind {α β : Type} {first : LineReader α} (next : α → LineReader β) {lines rest : List LexedLine} {a : α}
    (read : first lines = .ok a rest) : (first >>= next) lines = next a rest := by
  show EStateM.bind first next lines = _
  rw [EStateM.bind, read]

theorem flag_line?_unnamed {tokens : List Token} (unnamed : ∀ name, nextKind tokens ≠ some (.name none name)) :
    flagLine? tokens = none := by
  unfold flagLine?
  split
  · exact absurd rfl (unnamed _)
  · exact absurd rfl (unnamed _)
  · rfl

theorem argument_words_words (args : String) (place : Position) :
    (argumentWords args place).map Prod.fst = wordsOf args := by
  simp [argumentWords, wordsOf, Function.comp_def]

-- A command without a bang may be a line of flags; its words are those of the command and of its arguments.
theorem flag_line?_unranged {name args : String} (filled : name ≠ "") {tokens : List Token}
    (spelled : kinds tokens = unrangedKinds ⟨none, name, false, args⟩) :
    ∃ words, words.map Prod.fst = name :: wordsOf args ∧ flagLine? tokens =
      if (Flag.ofWord? name).isSome then some words
      else if !isKnownCommand name.toList && words.all (isBareWord ·.1) then some words else none := by
  rw [unrangedKinds, wordKinds, if_neg filled] at spelled
  obtain ⟨⟨_, text, place⟩, more, rfl, rfl, tail⟩ := kinds_eq_cons spelled
  by_cases bare : args = ""
  · rw [argumentKinds, if_pos bare] at tail
    obtain ⟨⟨_, text', place'⟩, more, rfl, rfl, -⟩ := kinds_eq_cons tail
    exact ⟨[(name, place)], by rw [bare]; rfl, rfl⟩
  · rw [argumentKinds, if_neg bare] at tail
    obtain ⟨⟨_, text', place'⟩, more, rfl, rfl, -⟩ := kinds_eq_cons tail
    exact ⟨(name, place) :: argumentWords args place', by rw [List.map_cons, argument_words_words], rfl⟩

theorem flag_line?_command {name args : String} (noFlag : (Flag.ofWord? name).isSome = false)
    (noList : ¬ (isKnownCommand name.toList = false ∧ ∀ word ∈ name :: wordsOf args, isBareWord word = true))
    {tokens : List Token} (spelled : kinds tokens = unrangedKinds ⟨none, name, false, args⟩) :
    flagLine? tokens = none := by
  by_cases nameless : name = ""
  · apply flag_line?_unnamed
    intro other
    by_cases bare : args = "" <;>
      simp [next_kind_eq, spelled, unrangedKinds, wordKinds, bangKinds, argumentKinds, nameless, bare]
  · obtain ⟨words, same, found⟩ := flag_line?_unranged nameless spelled
    rw [found, if_neg (by simp [noFlag]), if_neg]
    rw [← same] at noList
    simpa using noList

theorem range_kinds_head (range : Option String) (k : Keyword) (ks : List TokenKind) (name : String) :
    (rangeKinds range ++ .keyword k :: ks).head? ≠ some (.name none name) := by
  cases range <;> simp [rangeKinds]

theorem flag_line?_keyword (range : Option String) {k : Keyword} {ks : List TokenKind} {tokens : List Token}
    (spelled : kinds tokens = rangeKinds range ++ .keyword k :: ks) : flagLine? tokens = none := by
  apply flag_line?_unnamed
  intro name
  rw [next_kind_eq, spelled]
  exact range_kinds_head range k ks name

theorem flag_line?_statement (s : Statement) (body : List Statement) (unlisted : ¬ ListsFlags (s :: body))
    {ks : List TokenKind} {kss : List (List TokenKind)} (lines : statementKinds s = ks :: kss)
    {tokens : List Token} (spelled : kinds tokens = ks) : flagLine? tokens = none := by
  cases s with
  | command c =>
      obtain ⟨range, name, bang, args⟩ := c
      cases (List.cons.inj lines).1
      cases range with
      | some text => exact flag_line?_unnamed fun other => by rw [next_kind_eq, spelled]; simp [commandKinds, rangeKinds]
      | none =>
          cases bang with
          | true =>
              by_cases nameless : name = "" <;>
                simp [commandKinds, unrangedKinds, wordKinds, rangeKinds, bangKinds, nameless] at spelled
              · exact flag_line?_unnamed fun other => by rw [next_kind_eq, spelled]; simp
              · obtain ⟨⟨_, text, place⟩, more, rfl, rfl, tail⟩ := kinds_eq_cons spelled
                obtain ⟨⟨_, text', place'⟩, more, rfl, rfl, -⟩ := kinds_eq_cons tail
                rfl
          | false =>
              have facts := not_or.mp unlisted
              exact flag_line?_command (by simpa using facts.1) facts.2 spelled
  | call range name args => exact flag_line?_keyword range (spelled.trans (List.cons.inj lines).1.symm)
  | _ => exact flag_line?_keyword none (spelled.trans (List.cons.inj lines).1.symm)

theorem statement_kinds_lines (s : Statement) :
    ∃ ks kss, statementKinds s = ks :: kss ∧ ks.head? ≠ some (.keyword .endfunction) := by
  cases s with
  | command c =>
      refine ⟨_, _, rfl, ?_⟩
      rw [commandKinds]
      cases c.range with
      | none => exact fun first => (unranged_kinds_head c first).2 _ rfl
      | some text => simp [rangeKinds]
  | call range name args => exact ⟨_, _, rfl, by cases range <;> simp [rangeKinds]⟩
  | _ => exact ⟨_, _, rfl, by simp [headerKinds]⟩

theorem flags_after_keeps (flags : Flags) (body : List Statement) (unlisted : flags = .empty → ¬ ListsFlags body)
    {lines : List LexedLine} (rest : List LexedLine)
    (spelled : SpelledBy lines (statementsKinds body ++ [[.keyword .endfunction, .endOfLine]])) :
    flagsAfter flags (lines ++ rest) = .ok flags (lines ++ rest) := by
  unfold flagsAfter
  split
  · rename_i noFlags
    obtain ⟨number, tokens, more, rfl, none⟩ : ∃ number tokens more,
        lines = ⟨number, .ok tokens⟩ :: more ∧ flagLine? tokens = none := by
      cases body with
      | nil =>
          obtain ⟨number, tokens, more, rfl, first, -⟩ := spelled_by_cons spelled
          exact ⟨number, tokens, more, rfl, flag_line?_keyword none first⟩
      | cons s body =>
          obtain ⟨ks, kss, split, -⟩ := statement_kinds_lines s
          rw [statementsKinds, split] at spelled
          obtain ⟨number, tokens, more, rfl, first, -⟩ := spelled_by_cons spelled
          exact ⟨number, tokens, more, rfl, flag_line?_statement s body (unlisted noFlags) split first⟩
    rw [List.cons_append, flagLine, none, noFlags]
  · rfl

theorem function_body_ends (inner : StatementReader) (name : String) (header : Nat) {lines rest : List LexedLine}
    (spelled : SpelledBy lines [[.keyword .endfunction, .endOfLine]]) :
    functionBody inner name header (lines ++ rest) = .ok [] rest := by
  obtain ⟨number, tokens, more, rfl, first, others⟩ := spelled_by_cons spelled
  cases List.map_eq_nil_iff.mp others
  obtain ⟨⟨_, text, place⟩, ended, rfl, rfl, tail⟩ := kinds_eq_cons first
  rw [List.cons_append, List.nil_append, functionBody]
  simp only [endfunction?, expect_end_of_end tail]
  rfl

theorem function_body_step {inner : StatementReader} {name : String} {header number : Nat} {tokens : List Token}
    {lines more rest : List LexedLine} {s : Statement} {body : List Statement}
    (first : (kinds tokens).head? ≠ some (.keyword .endfunction))
    (read : inner.run ⟨number, .ok tokens⟩ lines = .ok s more)
    (others : functionBody inner name header more = .ok body rest) :
    functionBody inner name header (⟨number, .ok tokens⟩ :: lines) = .ok (s :: body) rest := by
  have goesOn : endfunction? ⟨number, .ok tokens⟩ = none := by
    unfold endfunction?
    split
    · rename_i found
      cases found
      exact absurd rfl first
    · rfl
  rw [functionBody, goesOn]
  dsimp only
  split <;> rename_i found <;> rw [read] at found <;> cases found
  rw [others]

theorem function_statement_reads {inner : StatementReader} {number : Nat} {last : Position} {ts : List Token}
    {header : FunctionHeader} {rest : List Token} {lines more : List LexedLine} {body : List Statement}
    (headerRead : functionHeader last ts = .ok (header, rest))
    (flagsRead : flagsAfter header.flags lines = .ok header.flags lines)
    (bodyRead : functionBody inner header.name.text number lines = .ok body more) :
    functionStatement (some inner) number last ts lines = .ok (.function header body) more := by
  rw [functionStatement, reader_bind _ (show onThisLine _ lines = _ by rw [headerRead]; rfl)]
  dsimp only
  rw [reader_bind _ flagsRead, reader_bind _ bodyRead]
  rfl

theorem statement_run_succ (room : Nat) :
    (statement (room + 1)).run = statementFrom (some (statement room)) := by
  rw [statement]

theorem statement_run (room : Nat) : ∃ inner, (statement room).run = statementFrom inner := by
  cases room <;> exact ⟨_, by rw [statement]⟩

theorem keyword_reads (room : Nat) (range : Option String) {k : Keyword} {ks : List TokenKind} {s : Statement}
    {number : Nat} {tokens : List Token} (spelled : kinds tokens = rangeKinds range ++ .keyword k :: ks)
    (reads : ∀ inner ts, kinds ts = ks →
      keywordStatement inner k range number (lastPlace tokens) ts = onThisLine (.ok s))
    (rest : List LexedLine) : (statement room).run ⟨number, .ok tokens⟩ rest = .ok s rest := by
  obtain ⟨inner, same⟩ := statement_run room
  obtain ⟨ts, tail, found⟩ := statement_from_keyword inner range k ks number spelled
  rw [same, found, reads inner ts tail]
  rfl

theorem line_reads (s : Statement) (printable : s.Printable) (room number : Nat) {tokens : List Token}
    (spelled : statementKinds s = [kinds tokens]) (rest : List LexedLine) :
    (statement room).run ⟨number, .ok tokens⟩ rest = .ok s rest := by
  cases s with
  | function header body => simp [statementKinds] at spelled
  | echo exprs =>
      refine keyword_reads room none (List.cons.inj spelled).1.symm (fun _ ts tail => ?_) rest
      exact congrArg onThisLine (echo_statement_reads exprs printable.1 printable.2 number _ tail)
  | «return» value =>
      refine keyword_reads room none (List.cons.inj spelled).1.symm (fun _ ts tail => ?_) rest
      exact congrArg onThisLine (return_statement_reads printable number _ tail)
  | assign target op value =>
      refine keyword_reads room none (List.cons.inj spelled).1.symm (fun _ ts tail => ?_) rest
      exact congrArg onThisLine (let_statement_reads target op printable.2 number _ tail)
  | unlet bang targets =>
      refine keyword_reads room none (List.cons.inj spelled).1.symm (fun _ ts tail => ?_) rest
      exact congrArg onThisLine (unlet_statement_reads bang targets printable.1 number tail)
  | call range name args =>
      refine keyword_reads room range (List.cons.inj spelled).1.symm (fun _ ts tail => ?_) rest
      rw [keywordStatement, if_neg (by simp)]
      exact congrArg onThisLine (call_statement_reads range printable.2.1 args printable.2.2 _ tail)
  | delfunction bang name =>
      refine keyword_reads room none (List.cons.inj spelled).1.symm (fun _ ts tail => ?_) rest
      exact congrArg onThisLine (delfunction_statement_reads bang printable _ tail)
  | command c =>
      obtain ⟨inner, same⟩ := statement_run room
      rw [same, statement_from_command inner c number (List.cons.inj spelled).1.symm]
      rfl

mutual

theorem statement_reads (s : Statement) (printable : s.Printable) {room : Nat} (shallow : s.nesting ≤ room)
    {line : LexedLine} {lines : List LexedLine} (rest : List LexedLine)
    (spelled : SpelledBy (line :: lines) (statementKinds s)) :
    (statement room).run line (lines ++ rest) = .ok s rest := by
  cases s with
  | function header body =>
      obtain ⟨named, -, unlisted, bodyPrintable⟩ := printable
      obtain ⟨number, tokens, more, same, first, others⟩ := spelled_by_cons spelled
      cases same
      cases room with
      | zero => simp [Statement.nesting] at shallow
      | succ room =>
          obtain ⟨ts, tail, same⟩ := statement_from_keyword (some (statement room)) none .function _ number first
          obtain ⟨afterHeader, headerRead⟩ := function_header_reads header named (lastPlace tokens) (by rw [tail]; rfl)
          have flagsRead := flags_after_keeps header.flags body unlisted rest others
          have inside := Nat.le_of_succ_le_succ shallow
          have bodyRead := body_reads body bodyPrintable inside header.name.text number rest others
          rw [statement_run_succ, same]
          exact function_statement_reads headerRead flagsRead bodyRead
  | _ =>
      obtain ⟨number, tokens, more, same, first, others⟩ := spelled_by_cons spelled
      cases same
      cases List.map_eq_nil_iff.mp others
      exact line_reads _ printable room number (congrArg (fun ks => [ks]) first.symm) rest

theorem body_reads (body : List Statement) (printable : AllPrintable body) {room : Nat}
    (shallow : nestingOf body ≤ room) (name : String) (header : Nat) {lines : List LexedLine} (rest : List LexedLine)
    (spelled : SpelledBy lines (statementsKinds body ++ [[.keyword .endfunction, .endOfLine]])) :
    functionBody (statement room) name header (lines ++ rest) = .ok body rest := by
  cases body with
  | nil => exact function_body_ends _ name header spelled
  | cons s body =>
      obtain ⟨firstShallow, othersShallow⟩ := Nat.max_le.mp shallow
      obtain ⟨ks, kss, split, noEnd⟩ := statement_kinds_lines s
      rw [statementsKinds, List.append_assoc] at spelled
      obtain ⟨front, back, rfl, firstSpelled, othersSpelled⟩ := spelled_by_append spelled
      obtain ⟨number, tokens, more, rfl, head, -⟩ := spelled_by_cons (split ▸ firstSpelled)
      have read := statement_reads s printable.1 firstShallow (back ++ rest) firstSpelled
      have others := body_reads body printable.2 othersShallow name header rest othersSpelled
      rw [List.cons_append, List.cons_append, List.append_assoc]
      exact function_body_step (by rwa [head]) read others

end

end ExScript
