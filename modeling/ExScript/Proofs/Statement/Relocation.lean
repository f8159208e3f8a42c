import ExScript.Proofs.Expr.Relocation
import ExScript.Proofs.Statement.Extent
import ExScript.Proofs.Statement.Reading

set_option autoImplicit false

namespace ExScript

namespace Relocation

variable (r : Relocation)

abbrev Words : List (String × Position) → List (String × Position) → Prop :=
  List.Forall₂ fun word word' => word'.1 = word.1 ∧ r.flag word.1 word.2 word'.2

inductive Lexed : LexedLine → LexedLine → Prop
  | ok {n n' : Nat} {ts ts' : List Token} (numbered : r.line n n') (filled : ts ≠ []) (tokens : r.Tokens ts ts') :
      Lexed ⟨n, .ok ts⟩ ⟨n', .ok ts'⟩
  | error {n n' : Nat} {error error' : LexError} (numbered : r.line n n') (same : error'.cause = error.cause)
      (moved : r.place error.position error'.position) : Lexed ⟨n, .error error⟩ ⟨n', .error error'⟩

abbrev Lines : List LexedLine → List LexedLine → Prop := List.Forall₂ r.Lexed

-- As `Follows`, and the lines left over belong together too.
inductive Reads {α β : Type} (same : α → β → Prop) :
    EStateM.Result ParseError (List LexedLine) α → EStateM.Result ParseError (List LexedLine) β → Prop
  | ok {a : α} {b : β} {rest rest' : List LexedLine} (alike : same a b) (left : r.Lines rest rest') :
      Reads same (.ok a rest) (.ok b rest')
  | error {fault fault' : ParseError} {rest rest' : List LexedLine} (moves : r.Moves fault fault')
      (left : r.Lines rest rest') : Reads same (.error fault rest) (.error fault' rest')

def Statements (reader : StatementReader) : Prop :=
  ∀ line line' lines lines', r.Lexed line line' → r.Lines lines lines' →
    r.Reads Same (reader.run line lines) (reader.run line' lines')

end Relocation

variable {r : Relocation}

section

variable {α β : Type}

theorem rel_some {p : α → β → Prop} {a : α} {found : Option β} (related : Option.Rel p (some a) found) :
    ∃ b, found = some b ∧ p a b := by
  cases related with
  | some here => exact ⟨_, rfl, here⟩

theorem rel_none {p : α → β → Prop} {found : Option β} (related : Option.Rel p none found) : found = none := by
  cases related
  rfl

end

section

variable {last last' : Position} {ts ts' : List Token}

theorem at_end_eq (tokens : r.Tokens ts ts') : atEnd ts' = atEnd ts := by
  cases tokens with
  | nil => rfl
  | cons head tail => rw [atEnd, atEnd, r.kind_eq head]

theorem expect_end_follows (tokens : r.Tokens ts ts') :
    r.Follows Relocation.Same (expectEnd ts) (expectEnd ts') := by
  have written := r.extra_of tokens
  cases tokens with
  | nil => exact .ok rfl
  | @cons t t' ts ts' head tail =>
      rw [expectEnd, expectEnd, r.kind_eq head]
      by_cases ended : t.kind = .endOfLine
      · rw [if_pos ended, if_pos ended]
        exact .ok rfl
      · rw [if_neg ended, if_neg ended]
        exact .error (.trailing (r.place_of head) written)

-- An optional first token, taken or left by its kind; `missing` is the result without it.
theorem take_parts {α : Type} {take : List Token → α × List Token} (missing : α) (nothing : take [] = (missing, []))
    (first : ∀ kind, (∃ a, ∀ text p rest, take (⟨kind, text, p⟩ :: rest) = (a, rest)) ∨
      ∀ text p rest, take (⟨kind, text, p⟩ :: rest) = (missing, ⟨kind, text, p⟩ :: rest)) (tokens : r.Tokens ts ts') :
    ∃ a rest rest', take ts = (a, rest) ∧ take ts' = (a, rest') ∧ r.Tokens rest rest' := by
  cases tokens with
  | nil => exact ⟨missing, [], [], nothing, nothing, .nil⟩
  | cons head tail =>
      obtain ⟨kind, text, text', p, p', rfl, rfl⟩ := token_parts head
      rcases first kind with ⟨a, taken⟩ | left
      · exact ⟨a, _, _, taken _ _ _, taken _ _ _, tail⟩
      · exact ⟨missing, _, _, left _ _ _, left _ _ _, .cons head tail⟩

theorem take_bang_parts (tokens : r.Tokens ts ts') :
    ∃ bang rest rest', takeBang ts = (bang, rest) ∧ takeBang ts' = (bang, rest') ∧ r.Tokens rest rest' := by
  refine take_parts false rfl (fun kind => ?_) tokens
  cases kind with
  | bang => exact .inl ⟨true, fun _ _ _ => rfl⟩
  | _ => exact .inr fun _ _ _ => rfl

theorem take_name_parts (tokens : r.Tokens ts ts') :
    ∃ name rest rest', takeName ts = (name, rest) ∧ takeName ts' = (name, rest') ∧ r.Tokens rest rest' := by
  refine take_parts "" rfl (fun kind => ?_) tokens
  cases kind with
  | name scope name => exact .inl ⟨name, fun _ _ _ => rfl⟩
  | _ => exact .inr fun _ _ _ => rfl

theorem take_arguments_parts (tokens : r.Tokens ts ts') :
    ∃ args rest rest', takeArguments ts = (args, rest) ∧ takeArguments ts' = (args, rest') ∧ r.Tokens rest rest' := by
  refine take_parts "" rfl (fun kind => ?_) tokens
  cases kind with
  | raw text => exact .inl ⟨text, fun _ _ _ => rfl⟩
  | _ => exact .inr fun _ _ _ => rfl

theorem take_range_parts (tokens : r.Tokens ts ts') :
    ∃ range rest rest', takeRange ts = (range, rest) ∧ takeRange ts' = (range, rest') ∧ r.Tokens rest rest' := by
  refine take_parts none rfl (fun kind => ?_) tokens
  cases kind with
  | range text => exact .inl ⟨some text, fun _ _ _ => rfl⟩
  | _ => exact .inr fun _ _ _ => rfl

theorem path_keys_follow (ends : r.place last last') (tokens : r.Tokens ts ts') :
    r.Follows r.Left (pathKeys last ts) (pathKeys last' ts') := by
  fun_induction pathKeys last ts generalizing ts' with
  | case1 text p key text' p' rest ih =>
      obtain _ | ⟨dot, _ | ⟨name, tail⟩⟩ := tokens
      obtain ⟨_, _, _, _, _, ⟨⟩, rfl⟩ := token_parts dot
      obtain ⟨_, _, _, _, _, ⟨⟩, rfl⟩ := token_parts name
      apply follows_bind (ih tail)
      rintro ⟨keys, rest⟩ ⟨_, rest'⟩ ⟨rfl, left⟩
      exact .ok ⟨rfl, left⟩
  | case2 text p rest noKey =>
      obtain _ | ⟨dot, tail⟩ := tokens
      obtain ⟨_, _, _, _, _, ⟨⟩, rfl⟩ := token_parts dot
      have moved := place_of_moves ends tail
      cases tail with
      | nil => exact .error (.invalidFunctionName _ moved)
      | cons next tail =>
          obtain ⟨kind, _, _, _, _, rfl, rfl⟩ := token_parts next
          cases kind with
          | name scope key =>
              cases scope with
              | none => exact absurd rfl (noKey _ _ _ _)
              | some scope => exact .error (.invalidFunctionName _ moved)
          | _ => exact .error (.invalidFunctionName _ moved)
  | case3 ts noDotKey noDot =>
      cases tokens with
      | nil => exact .ok ⟨rfl, .nil⟩
      | cons head tail =>
          obtain ⟨kind, _, _, _, _, rfl, rfl⟩ := token_parts head
          cases kind with
          | dot => exact absurd rfl (noDot _ _ _)
          | _ => exact .ok ⟨rfl, .cons head tail⟩

theorem function_name_follows (ends : r.place last last') (tokens : r.Tokens ts ts') :
    r.Follows r.Left (functionName last ts) (functionName last' ts') := by
  cases tokens with
  | nil => exact .error (.invalidFunctionName _ ends)
  | cons head tail =>
      have moved := r.place_of head
      obtain ⟨kind, text, text', p, p', rfl, rfl⟩ := token_parts head
      cases kind with
      | name scope first =>
          dsimp only [functionName]
          by_cases allowed : FunctionName.allowsScope scope = true
          · rw [if_pos allowed, if_pos allowed]
            apply follows_bind (path_keys_follow ends tail)
            rintro ⟨keys, rest⟩ ⟨_, rest'⟩ ⟨rfl, left⟩
            exact .ok ⟨rfl, left⟩
          · rw [if_neg allowed, if_neg allowed]
            exact .error (.invalidFunctionName _ moved)
      | _ => exact .error (.invalidFunctionName _ moved)

theorem parameter_list_follows (ends : r.place last last') (tokens : r.Tokens ts ts') :
    r.Follows r.Left (parameterList last ts) (parameterList last' ts') := by
  fun_induction parameterList last ts generalizing ts' with
  | case1 =>
      cases tokens
      exact .error (.expected _ _ ends)
  | case2 name text p =>
      obtain _ | ⟨name, _ | _⟩ := tokens
      obtain ⟨_, _, _, _, _, ⟨⟩, rfl⟩ := token_parts name
      exact .error (.expected _ _ ends)
  | case3 param text p t rest comma ih =>
      obtain _ | ⟨name, _ | ⟨next, tail⟩⟩ := tokens
      obtain ⟨_, _, _, _, _, ⟨⟩, rfl⟩ := token_parts name
      rw [parameterList, if_pos ((r.kind_eq next).trans comma)]
      apply follows_bind (ih tail)
      rintro ⟨params, rest⟩ ⟨_, rest'⟩ ⟨rfl, left⟩
      exact .ok ⟨rfl, left⟩
  | case4 param text p t rest noComma paren =>
      obtain _ | ⟨name, _ | ⟨next, tail⟩⟩ := tokens
      obtain ⟨_, _, _, _, _, ⟨⟩, rfl⟩ := token_parts name
      rw [parameterList, r.kind_eq next, if_neg noComma, if_pos paren]
      exact .ok ⟨rfl, tail⟩
  | case5 param text p t rest noComma noParen =>
      obtain _ | ⟨name, _ | ⟨next, tail⟩⟩ := tokens
      obtain ⟨_, _, _, _, _, ⟨⟩, rfl⟩ := token_parts name
      rw [parameterList, r.kind_eq next, if_neg noComma, if_neg noParen]
      exact .error (.expected _ _ (r.place_of next))
  | case6 t rest noName noParam =>
      cases tokens with
      | cons head tail =>
          have moved := r.place_of head
          obtain ⟨kind, _, _, _, _, rfl, rfl⟩ := token_parts head
          cases kind with
          | name scope param =>
              cases scope with
              | none =>
                  cases rest with
                  | nil => exact absurd rfl (noName _ _ _ rfl)
                  | cons t rest => exact absurd rfl (noParam _ _ _ _ _ rfl)
              | some scope => exact .error (.expected _ _ moved)
          | _ => exact .error (.expected _ _ moved)

theorem parameters_follow (ends : r.place last last') (tokens : r.Tokens ts ts') :
    r.Follows r.Left (parameters last ts) (parameters last' ts') := by
  apply follows_bind (expect_follows ends .leftParen .leftParen tokens)
  intro rest rest' left
  have listed := parameter_list_follows ends left
  cases left with
  | nil => exact listed
  | cons head tail =>
      obtain ⟨kind, _, _, _, _, rfl, rfl⟩ := token_parts head
      cases kind with
      | rightParen => exact .ok ⟨rfl, tail⟩
      | _ => exact listed

theorem flags_of_words_follow {words words' : List (String × Position)} (moved : r.Words words words') :
    r.Follows Relocation.Same (flagsOfWords words) (flagsOfWords words') := by
  induction moved with
  | nil => exact .ok rfl
  | @cons word word' words words' head tail ih =>
      obtain ⟨word, p⟩ := word
      obtain ⟨_, p'⟩ := word'
      obtain ⟨same, moved⟩ := head
      cases same
      dsimp only [flagsOfWords]
      cases Flag.ofWord? word with
      | none => exact .error (.unknownFlag moved)
      | some flag =>
          apply follows_bind ih
          rintro flags _ rfl
          exact .ok rfl

theorem header_words_left (tokens : r.Tokens ts ts') :
    r.Words (headerWords ts).1 (headerWords ts').1 ∧ r.Tokens (headerWords ts).2 (headerWords ts').2 := by
  induction tokens with
  | nil => exact ⟨.nil, .nil⟩
  | cons head tail ih =>
      have moved : ∀ word, _ := fun word => @Relocation.flag_of r _ _ word head
      obtain ⟨kind, _, _, p, p', rfl, rfl⟩ := token_parts head
      cases kind with
      | name scope word =>
          cases scope with
          | none => exact ⟨.cons ⟨rfl, moved word rfl⟩ ih.1, ih.2⟩
          | some scope => exact ⟨.nil, .cons head tail⟩
      | _ => exact ⟨.nil, .cons head tail⟩

theorem argument_words_moved {t t' : Token} {text : String} (moved : r.token t t') (raw : t.kind = .raw text) :
    r.Words (argumentWords text t.position) (argumentWords text t'.position) := by
  rw [Relocation.Words, argumentWords, argumentWords, List.forall₂_map_left_iff, List.forall₂_map_right_iff,
    List.forall₂_same]
  rintro ⟨offset, word⟩ member
  exact ⟨rfl, r.flag_within moved raw (List.takeWhile_subset _ member)⟩

theorem flag_line?_moves (tokens : r.Tokens ts ts') : Option.Rel r.Words (flagLine? ts) (flagLine? ts') := by
  have chosen : ∀ (first : String) {words words' : List (String × Position)}, r.Words words words' →
      Option.Rel r.Words
        (if (Flag.ofWord? first).isSome then some words
          else if !isKnownCommand first.toList && words.all (isBareWord ·.1) then some words else none)
        (if (Flag.ofWord? first).isSome then some words'
          else if !isKnownCommand first.toList && words'.all (isBareWord ·.1) then some words' else none) := by
    intro first words words' moved
    have bare : words'.all (isBareWord ·.1) = words.all (isBareWord ·.1) := by
      induction moved with
      | nil => rfl
      | cons head tail ih => rw [List.all_cons, List.all_cons, ih, head.1]
    rw [bare]
    split
    · exact .some moved
    · split
      · exact .some moved
      · exact .none
  cases tokens with
  | nil => exact .none
  | cons head tail =>
      have moved : ∀ word, _ := fun word => @Relocation.flag_of r _ _ word head
      obtain ⟨kind, _, _, p, p', rfl, rfl⟩ := token_parts head
      cases kind with
      | name scope first =>
          cases scope with
          | some scope => exact .none
          | none =>
              cases tail with
              | nil => exact .none
              | cons next tail =>
                  have listed : ∀ text, _ := fun text => @argument_words_moved r _ _ text next
                  obtain ⟨kind, _, _, q, q', rfl, rfl⟩ := token_parts next
                  cases kind with
                  | endOfLine => exact chosen first (.cons ⟨rfl, moved first rfl⟩ .nil)
                  | raw text => exact chosen first (.cons ⟨rfl, moved first rfl⟩ (listed text rfl))
                  | _ => exact .none
      | _ => exact .none

theorem expressions_error {fault : ParseError} (goesOn : atEnd ts = false)
    (read : (expression last).run ts = .error fault) : expressions last ts = .error fault := by
  rw [expressions, if_neg (by simp [goesOn])]
  split <;> rename_i found <;> rw [read] at found <;> cases found
  rfl

theorem expressions_next {e : Expr} {rest : List Token} (goesOn : atEnd ts = false)
    (read : (expression last).run ts = .ok (e, rest)) :
    expressions last ts = return e :: (← expressions last rest) := by
  rw [expressions, if_neg (by simp [goesOn])]
  split <;> rename_i found <;> rw [read] at found <;> cases found
  rfl

theorem expressions_follow (ends : r.place last last') (tokens : r.Tokens ts ts') :
    r.Follows Relocation.Same (expressions last ts) (expressions last' ts') := by
  fun_induction expressions last ts generalizing ts' with
  | case1 ts ended =>
      rw [expressions, if_pos ((at_end_eq tokens).trans ended)]
      exact .ok rfl
  | case2 ts goesOn fault read =>
      have first := expression_follows ends _ _ tokens
      rw [read] at first
      obtain ⟨fault', read', moves⟩ := follows_error first
      rw [expressions_error ((at_end_eq tokens).trans (by simpa using goesOn)) read']
      exact .error moves
  | case3 ts goesOn e rest read ih =>
      have first := expression_follows ends _ _ tokens
      rw [read] at first
      obtain ⟨⟨_, rest'⟩, read', rfl, left⟩ := follows_ok first
      rw [expressions_next ((at_end_eq tokens).trans (by simpa using goesOn)) read']
      apply follows_bind (ih left)
      rintro es _ rfl
      exact .ok rfl

theorem variable_names_follow (tokens : r.Tokens ts ts') :
    r.Follows Relocation.Same (variableNames ts) (variableNames ts') := by
  induction tokens with
  | nil => exact .ok rfl
  | cons head tail ih =>
      have moved := r.place_of head
      obtain ⟨kind, _, _, p, p', rfl, rfl⟩ := token_parts head
      cases kind with
      | endOfLine => exact .ok rfl
      | name scope name =>
          apply follows_bind ih
          rintro names _ rfl
          exact .ok rfl
      | _ => exact .error (.expected _ _ moved)

theorem assign_op_follows (ends : r.place last last') (tokens : r.Tokens ts ts') :
    r.Follows r.Left (assignOp last ts) (assignOp last' ts') := by
  cases tokens with
  | nil => exact .error (.expected _ _ ends)
  | cons head tail =>
      have moved := r.place_of head
      obtain ⟨kind, _, _, p, p', rfl, rfl⟩ := token_parts head
      cases kind with
      | equals => exact .ok ⟨rfl, tail⟩
      | dotEquals => exact .ok ⟨rfl, tail⟩
      | _ => exact .error (.expected _ _ moved)

theorem function_header_follows (ends : r.place last last') (tokens : r.Tokens ts ts') :
    r.Follows r.Left (functionHeader last ts) (functionHeader last' ts') := by
  obtain ⟨bang, rest, rest', taken, taken', unbanged⟩ := take_bang_parts tokens
  rw [functionHeader, functionHeader, taken, taken']
  apply follows_bind (function_name_follows ends unbanged)
  rintro ⟨name, rest⟩ ⟨_, rest'⟩ ⟨rfl, left⟩
  apply follows_bind (parameters_follow ends left)
  rintro ⟨params, rest⟩ ⟨_, rest'⟩ ⟨rfl, left⟩
  obtain ⟨words, left⟩ := header_words_left left
  apply follows_bind (flags_of_words_follow words)
  rintro flags _ rfl
  apply follows_bind (expect_end_follows left)
  rintro _ _ -
  exact .ok ⟨rfl, left⟩

end

section

variable {last last' : Position} {number number' : Nat} {ts ts' : List Token}

theorem echo_statement_follows (ends : r.place last last') (numbered : r.line number number') (tokens : r.Tokens ts ts') :
    r.Follows Relocation.Same (echoStatement number last ts) (echoStatement number' last' ts') := by
  rw [echoStatement, echoStatement, at_end_eq tokens]
  by_cases ended : atEnd ts = true
  · rw [if_pos ended, if_pos ended]
    exact .error (.missingArgument _ numbered)
  · rw [if_neg ended, if_neg ended]
    apply follows_bind (expressions_follow ends tokens)
    rintro es _ rfl
    exact .ok rfl

theorem return_statement_follows (ends : r.place last last') (numbered : r.line number number')
    (tokens : r.Tokens ts ts') :
    r.Follows Relocation.Same (returnStatement number last ts) (returnStatement number' last' ts') := by
  rw [returnStatement, returnStatement, at_end_eq tokens]
  by_cases ended : atEnd ts = true
  · rw [if_pos ended, if_pos ended]
    exact .error (.returnWithoutExpression numbered)
  · rw [if_neg ended, if_neg ended]
    apply follows_bind (expression_follows ends _ _ tokens)
    rintro ⟨value, rest⟩ ⟨_, rest'⟩ ⟨rfl, left⟩
    apply follows_bind (expect_end_follows left)
    rintro _ _ -
    exact .ok rfl

theorem let_statement_follows (ends : r.place last last') (numbered : r.line number number') (tokens : r.Tokens ts ts') :
    r.Follows Relocation.Same (letStatement number last ts) (letStatement number' last' ts') := by
  cases tokens with
  | nil => exact .error (.missingArgument _ numbered)
  | cons head tail =>
      have moved := r.place_of head
      obtain ⟨kind, _, _, p, p', rfl, rfl⟩ := token_parts head
      cases kind with
      | endOfLine => exact .error (.missingArgument _ numbered)
      | name scope name =>
          apply follows_bind (assign_op_follows ends tail)
          rintro ⟨op, rest⟩ ⟨_, rest'⟩ ⟨rfl, left⟩
          apply follows_bind (expression_follows ends _ _ left)
          rintro ⟨value, rest⟩ ⟨_, rest'⟩ ⟨rfl, left⟩
          apply follows_bind (expect_end_follows left)
          rintro _ _ -
          exact .ok rfl
      | _ => exact .error (.expected _ _ moved)

theorem unlet_statement_follows (numbered : r.line number number') (tokens : r.Tokens ts ts') :
    r.Follows Relocation.Same (unletStatement number ts) (unletStatement number' ts') := by
  obtain ⟨bang, rest, rest', taken, taken', unbanged⟩ := take_bang_parts tokens
  rw [unletStatement, unletStatement, taken, taken']
  apply follows_bind (variable_names_follow unbanged)
  rintro targets _ rfl
  cases targets with
  | nil => exact .error (.missingArgument _ numbered)
  | cons target targets => exact .ok rfl

theorem call_statement_follows (range : Option String) (ends : r.place last last') (tokens : r.Tokens ts ts') :
    r.Follows Relocation.Same (callStatement range last ts) (callStatement range last' ts') := by
  apply follows_bind (function_name_follows ends tokens)
  rintro ⟨name, rest⟩ ⟨_, rest'⟩ ⟨rfl, left⟩
  apply follows_bind (expect_follows ends .leftParen .leftParen left)
  intro rest rest' left
  apply follows_bind (arguments_follow ends (expression_follows ends) left)
  rintro ⟨args, rest⟩ ⟨_, rest'⟩ ⟨rfl, left⟩
  apply follows_bind (expect_end_follows left)
  rintro _ _ -
  exact .ok rfl

theorem delfunction_statement_follows (ends : r.place last last') (tokens : r.Tokens ts ts') :
    r.Follows Relocation.Same (delfunctionStatement last ts) (delfunctionStatement last' ts') := by
  obtain ⟨bang, rest, rest', taken, taken', unbanged⟩ := take_bang_parts tokens
  rw [delfunctionStatement, delfunctionStatement, taken, taken']
  apply follows_bind (function_name_follows ends unbanged)
  rintro ⟨name, rest⟩ ⟨_, rest'⟩ ⟨rfl, left⟩
  apply follows_bind (expect_end_follows left)
  rintro _ _ -
  exact .ok rfl

theorem command_statement_follows (range : Option String) (tokens : r.Tokens ts ts') :
    r.Follows Relocation.Same (commandStatement range ts) (commandStatement range ts') := by
  obtain ⟨name, rest, rest', named, named', left⟩ := take_name_parts tokens
  obtain ⟨bang, rest, rest', taken, taken', left⟩ := take_bang_parts left
  obtain ⟨args, rest, rest', listed, listed', left⟩ := take_arguments_parts left
  rw [command_statement_eq, command_statement_eq, named, named']
  dsimp only
  rw [taken, taken']
  dsimp only
  rw [listed, listed']
  apply follows_bind (expect_end_follows left)
  rintro _ _ -
  exact .ok rfl

end

section

variable {α α' β β' : Type} {same : α → α' → Prop} {same' : β → β' → Prop} {lines lines' : List LexedLine}

theorem reader_bind_eq (first : LineReader α) (next : α → LineReader β) (lines : List LexedLine) :
    (first >>= next) lines =
      match first lines with
      | .ok a rest => next a rest
      | .error fault rest => .error fault rest := by
  have opened : (first >>= next) lines = EStateM.bind first next lines := rfl
  rw [opened, EStateM.bind]
  cases first lines <;> rfl

theorem reads_bind {first : LineReader α} {first' : LineReader α'} {next : α → LineReader β} {next' : α' → LineReader β'}
    (start : r.Reads same (first lines) (first' lines'))
    (more : ∀ a b rest rest', first lines = .ok a rest → same a b → r.Lines rest rest' →
      r.Reads same' (next a rest) (next' b rest')) :
    r.Reads same' ((first >>= next) lines) ((first' >>= next') lines') := by
  rw [reader_bind_eq, reader_bind_eq]
  generalize first lines = ended at start more ⊢
  generalize first' lines' = ended' at start ⊢
  cases start with
  | ok alike left => exact more _ _ _ _ rfl alike left
  | error moves left => exact .error moves left

theorem follows_map {found : Except ParseError α} {found' : Except ParseError α'} (b : β)
    (follows : r.Follows same found found') :
    r.Follows Relocation.Same ((fun _ => b) <$> found) ((fun _ => b) <$> found') := by
  cases follows with
  | ok alike => exact .ok rfl
  | error moves => exact .error moves

theorem on_this_line_reads {found : Except ParseError α} {found' : Except ParseError α'}
    (follows : r.Follows same found found') (left : r.Lines lines lines') :
    r.Reads same (onThisLine found lines) (onThisLine found' lines') := by
  cases follows with
  | ok alike => exact .ok alike left
  | error moves => exact .error moves left

end

section

variable {lines lines' : List LexedLine} {line line' : LexedLine}

theorem flag_line_reads (left : r.Lines lines lines') : r.Reads Relocation.Same (flagLine lines) (flagLine lines') := by
  cases left with
  | nil => exact .ok rfl .nil
  | cons head tail =>
      cases head with
      | error numbered same moved => exact .ok rfl (.cons (.error numbered same moved) tail)
      | @ok n n' ts ts' numbered filled tokens =>
          have listed := flag_line?_moves tokens
          dsimp only [flagLine]
          cases words : flagLine? ts with
          | none =>
              rw [words] at listed
              rw [rel_none listed]
              exact .ok rfl (.cons (.ok numbered filled tokens) tail)
          | some words =>
              rw [words] at listed
              obtain ⟨words', found, moved⟩ := rel_some listed
              rw [found]
              exact on_this_line_reads (flags_of_words_follow moved) tail

theorem flags_after_reads (flags : Flags) (left : r.Lines lines lines') :
    r.Reads Relocation.Same (flagsAfter flags lines) (flagsAfter flags lines') := by
  by_cases unflagged : flags = .empty
  · rw [flagsAfter, if_pos unflagged]
    exact flag_line_reads left
  · rw [flagsAfter, if_neg unflagged]
    exact .ok rfl left

theorem endfunction?_moves (lexed : r.Lexed line line') :
    Option.Rel r.Tokens (endfunction? line) (endfunction? line') := by
  cases lexed with
  | error numbered same moved => exact .none
  | ok numbered filled tokens =>
      cases tokens with
      | nil => exact .none
      | cons head tail =>
          obtain ⟨kind, text, text', p, p', rfl, rfl⟩ := token_parts head
          cases kind with
          | keyword k =>
              cases k with
              | endfunction => exact .some tail
              | _ => exact .none
          | _ => exact .none

theorem function_body_reads {inner : StatementReader} (alike : r.Statements inner) (name : String) {header header' : Nat}
    (numbered : r.line header header') (lines lines' : List LexedLine) (left : r.Lines lines lines') :
    r.Reads Relocation.Same (functionBody inner name header lines) (functionBody inner name header' lines') := by
  cases left with
  | nil =>
      rw [functionBody, functionBody]
      exact .error (.unterminatedFunction _ numbered) .nil
  | @cons line line' lines lines' head tail =>
      have ends := endfunction?_moves head
      cases ended : endfunction? line with
      | some rest =>
          rw [ended] at ends
          obtain ⟨rest', ended', tokens⟩ := rel_some ends
          rw [functionBody, functionBody, ended, ended']
          exact on_this_line_reads (follows_map _ (expect_end_follows tokens)) tail
      | none =>
          rw [ended] at ends
          rw [function_body_cons inner name header ended, function_body_cons inner name header' (rel_none ends)]
          apply reads_bind (alike line line' lines lines' head tail)
          rintro s _ rest rest' read rfl left
          apply reads_bind (function_body_reads alike name numbered rest rest' left)
          rintro body _ rest rest' - rfl left
          exact .ok rfl left
termination_by lines.length
decreasing_by
  subst_vars
  have fewer := inner.shrinks line lines
  simp only [read, linesLeft] at fewer
  exact Nat.lt_succ_of_le fewer

variable {last last' : Position} {number number' : Nat} {ts ts' : List Token} {inner : Option StatementReader}

theorem function_statement_reads_alike (alike : ∀ reader ∈ inner, r.Statements reader) (ends : r.place last last')
    (numbered : r.line number number') (tokens : r.Tokens ts ts') (left : r.Lines lines lines') :
    r.Reads Relocation.Same (functionStatement inner number last ts lines)
      (functionStatement inner number' last' ts' lines') := by
  apply reads_bind (on_this_line_reads (function_header_follows ends tokens) left)
  rintro ⟨header, rest⟩ ⟨_, rest'⟩ lines lines' - ⟨rfl, after⟩ left
  apply reads_bind (flags_after_reads header.flags left)
  rintro flags _ lines lines' - rfl left
  cases inner with
  | none => exact .error (.nestingTooDeep (place_of_moves ends after)) left
  | some reader =>
      apply reads_bind (function_body_reads (alike reader rfl) header.name.text numbered lines lines' left)
      rintro body _ lines lines' - rfl left
      exact .ok rfl left

theorem keyword_statement_reads_alike (alike : ∀ reader ∈ inner, r.Statements reader) (k : Keyword)
    (range : Option String) (ends : r.place last last') (numbered : r.line number number') (tokens : r.Tokens ts ts')
    (left : r.Lines lines lines') :
    r.Reads Relocation.Same (keywordStatement inner k range number last ts lines)
      (keywordStatement inner k range number' last' ts' lines') := by
  dsimp only [keywordStatement]
  by_cases ranged : (range.isSome && k != .call) = true
  · rw [if_pos ranged, if_pos ranged]
    exact .error (.rangeNotAllowed _ numbered) left
  · rw [if_neg ranged, if_neg ranged]
    cases k with
    | function => exact function_statement_reads_alike alike ends numbered tokens left
    | endfunction => exact .error (.unexpectedEndfunction numbered) left
    | echo => exact on_this_line_reads (echo_statement_follows ends numbered tokens) left
    | «return» => exact on_this_line_reads (return_statement_follows ends numbered tokens) left
    | «let» => exact on_this_line_reads (let_statement_follows ends numbered tokens) left
    | unlet => exact on_this_line_reads (unlet_statement_follows numbered tokens) left
    | call => exact on_this_line_reads (call_statement_follows range ends tokens) left
    | delfunction => exact on_this_line_reads (delfunction_statement_follows ends tokens) left

theorem leading_keyword?_moves (tokens : r.Tokens ts ts') :
    Option.Rel r.Left (leadingKeyword? ts) (leadingKeyword? ts') := by
  cases tokens with
  | nil => exact .none
  | cons head tail =>
      obtain ⟨kind, text, text', p, p', rfl, rfl⟩ := token_parts head
      cases kind with
      | keyword k => exact .some ⟨rfl, tail⟩
      | _ => exact .none

theorem statement_from_reads_alike (alike : ∀ reader ∈ inner, r.Statements reader) (head : r.Lexed line line')
    (left : r.Lines lines lines') :
    r.Reads Relocation.Same (statementFrom inner line lines) (statementFrom inner line' lines') := by
  cases head with
  | error numbered same moved => exact .error (.lex same moved) left
  | @ok n n' ts ts' numbered filled tokens =>
      obtain ⟨range, rest, rest', taken, taken', after⟩ := take_range_parts tokens
      have leads := leading_keyword?_moves after
      dsimp only [statementFrom]
      rw [taken, taken']
      dsimp only
      cases led : leadingKeyword? rest with
      | none =>
          rw [led] at leads
          rw [rel_none leads]
          exact on_this_line_reads (command_statement_follows range after) left
      | some found =>
          rw [led] at leads
          obtain ⟨⟨k, more'⟩, led', same, after⟩ := rel_some leads
          obtain ⟨k', more⟩ := found
          cases same
          rw [led']
          exact keyword_statement_reads_alike alike k range (last_place_moves tokens filled) numbered after left

theorem statement_reads_alike (room : Nat) : r.Statements (statement room) := by
  induction room with
  | zero =>
      intro line line' lines lines' head left
      exact statement_from_reads_alike (fun reader member => nomatch member) head left
  | succ room ih =>
      intro line line' lines lines' head left
      apply statement_from_reads_alike _ head left
      rintro reader ⟨⟩
      exact ih

end

end ExScript
