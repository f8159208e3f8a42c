import Mathlib.Data.List.Forall2
import ExScript.Statement.Parser

set_option autoImplicit false

namespace ExScript

-- What belongs together in two texts: tokens, places, and line numbers. Reading goes by the kinds of tokens; where they
-- stand and how they are written shows in faults only.
structure Relocation where
  token : Token → Token → Prop
  place : Position → Position → Prop
  line : Nat → Nat → Prop
  -- the places of a word that should have been a flag
  flag : String → Position → Position → Prop
  -- the texts of tokens that nothing takes
  extra : String → String → Prop
  kind_eq : ∀ {t t' : Token}, token t t' → t'.kind = t.kind
  place_of : ∀ {t t' : Token}, token t t' → place t.position t'.position
  flag_of : ∀ {t t' : Token} {word : String}, token t t' → t.kind = .name none word →
    flag word t.position t'.position
  flag_within : ∀ {t t' : Token} {text : String} {offset : Nat} {word : List Char}, token t t' → t.kind = .raw text →
    (offset, word) ∈ splitWords 0 text.toList →
    flag (String.ofList word) ⟨t.position.line, t.position.column + offset⟩
      ⟨t'.position.line, t'.position.column + offset⟩
  extra_of : ∀ {ts ts' : List Token}, List.Forall₂ token ts ts' → extra (tokensText ts) (tokensText ts')

namespace Relocation

variable (r : Relocation)

-- Faults that differ in the places they name, and in those as the relocation has it.
inductive Moves : ParseError → ParseError → Prop
  | lex {error error' : LexError} (same : error'.cause = error.cause)
      (moved : r.place error.position error'.position) : Moves (.lex error) (.lex error')
  | expression {p p' : Position} (cause : ExprCause) (moved : r.place p p') :
      Moves (.expression p cause) (.expression p' cause)
  | unknownFlag {p p' : Position} {word : String} (moved : r.flag word p p') :
      Moves (.unknownFlag p word) (.unknownFlag p' word)
  | unterminatedFunction {n n' : Nat} (name : String) (moved : r.line n n') :
      Moves (.unterminatedFunction n name) (.unterminatedFunction n' name)
  | invalidFunctionName {p p' : Position} (cause : NameCause) (moved : r.place p p') :
      Moves (.invalidFunctionName p cause) (.invalidFunctionName p' cause)
  | expected {p p' : Position} (wanted : Wanted) (found : TokenKind) (moved : r.place p p') :
      Moves (.expected p wanted found) (.expected p' wanted found)
  | unexpectedEndfunction {n n' : Nat} (moved : r.line n n') :
      Moves (.unexpectedEndfunction n) (.unexpectedEndfunction n')
  | returnWithoutExpression {n n' : Nat} (moved : r.line n n') :
      Moves (.returnWithoutExpression n) (.returnWithoutExpression n')
  | trailing {p p' : Position} {text text' : String} (moved : r.place p p') (written : r.extra text text') :
      Moves (.trailing p text) (.trailing p' text')
  | missingArgument {n n' : Nat} (command : Keyword) (moved : r.line n n') :
      Moves (.missingArgument n command) (.missingArgument n' command)
  | rangeNotAllowed {n n' : Nat} (command : Keyword) (moved : r.line n n') :
      Moves (.rangeNotAllowed n command) (.rangeNotAllowed n' command)
  | nestingTooDeep {p p' : Position} (moved : r.place p p') : Moves (.nestingTooDeep p) (.nestingTooDeep p')

-- Two readings end alike: both with results of which `same` holds, or both with faults.
inductive Follows {α β : Type} (same : α → β → Prop) : Except ParseError α → Except ParseError β → Prop
  | ok {a : α} {b : β} (alike : same a b) : Follows same (.ok a) (.ok b)
  | error {fault fault' : ParseError} (moves : r.Moves fault fault') : Follows same (.error fault) (.error fault')

abbrev Tokens : List Token → List Token → Prop := List.Forall₂ r.token

-- The same result, and tokens left over that belong together.
def Left {α : Type} (a b : α × List Token) : Prop := a.1 = b.1 ∧ r.Tokens a.2 b.2

def Same {α : Type} (a b : α) : Prop := a = b

def Expressions (inner inner' : ExprReader) : Prop :=
  ∀ ts ts' : List Token, r.Tokens ts ts' → r.Follows r.Left (inner.run ts) (inner'.run ts')

end Relocation

variable {r : Relocation}

section

variable {α α' β β' : Type} {same : α → α' → Prop} {same' : β → β' → Prop}

theorem follows_bind {first : Except ParseError α} {first' : Except ParseError α'} {next : α → Except ParseError β}
    {next' : α' → Except ParseError β'} (start : r.Follows same first first')
    (more : ∀ a b, same a b → r.Follows same' (next a) (next' b)) :
    r.Follows same' (first >>= next) (first' >>= next') := by
  cases start with
  | ok alike => exact more _ _ alike
  | error moves => exact .error moves

theorem follows_ok {a : α} {found : Except ParseError α'} (follows : r.Follows same (.ok a) found) :
    ∃ b, found = .ok b ∧ same a b := by
  cases follows with
  | ok alike => exact ⟨_, rfl, alike⟩

theorem follows_error {fault : ParseError} {found : Except ParseError α'}
    (follows : r.Follows same (.error fault) found) :
    ∃ fault', found = .error fault' ∧ r.Moves fault fault' := by
  cases follows with
  | error moves => exact ⟨_, rfl, moves⟩

theorem token_parts {t t' : Token} (head : r.token t t') :
    ∃ kind text text' p p', t = ⟨kind, text, p⟩ ∧ t' = ⟨kind, text', p'⟩ := by
  have same := r.kind_eq head
  obtain ⟨kind, text, p⟩ := t
  obtain ⟨kind', text', p'⟩ := t'
  cases same
  exact ⟨kind, text, text', p, p', rfl, rfl⟩

end

section

variable {last last' : Position} {ts ts' : List Token}

theorem place_of_moves (ends : r.place last last') (tokens : r.Tokens ts ts') :
    r.place (placeOf last ts) (placeOf last' ts') := by
  cases tokens with
  | nil => exact ends
  | cons head tail => exact r.place_of head

theorem expect_follows (ends : r.place last last') (kind : TokenKind) (wanted : Wanted) (tokens : r.Tokens ts ts') :
    r.Follows r.Tokens (expect last kind wanted ts) (expect last' kind wanted ts') := by
  cases tokens with
  | nil => exact .error (.expected wanted _ ends)
  | @cons t t' ts ts' head tail =>
      rw [expect, expect, r.kind_eq head]
      by_cases found : t.kind = kind
      · rw [if_pos found, if_pos found]
        exact .ok tail
      · rw [if_neg found, if_neg found]
        exact .error (.expected wanted _ (r.place_of head))

theorem argument_list_error (last : Position) {inner : ExprReader} {fault : ParseError}
    (read : inner.run ts = .error fault) : argumentList last inner ts = .error fault := by
  rw [argumentList]
  split <;> rename_i found <;> rw [read] at found <;> cases found
  rfl

theorem argument_list_end (last : Position) {inner : ExprReader} {e : Expr} (read : inner.run ts = .ok (e, [])) :
    argumentList last inner ts = .error (.expected last .commaOrRightParen .endOfLine) := by
  rw [argumentList]
  split <;> rename_i found <;> rw [read] at found <;> cases found

theorem argument_list_next (last : Position) {inner : ExprReader} {e : Expr} {t : Token} {rest : List Token}
    (read : inner.run ts = .ok (e, t :: rest)) :
    argumentList last inner ts =
      if t.kind = .comma then do
        let (es, rest) ← argumentList last inner rest
        return (e :: es, rest)
      else if t.kind = .rightParen then .ok ([e], rest)
      else .error (.expected t.position .commaOrRightParen t.kind) := by
  rw [argumentList]
  split <;> rename_i found <;> rw [read] at found <;> cases found
  rfl

theorem argument_list_follows (ends : r.place last last') {inner inner' : ExprReader}
    (alike : r.Expressions inner inner') (tokens : r.Tokens ts ts') :
    r.Follows r.Left (argumentList last inner ts) (argumentList last' inner' ts') := by
  fun_induction argumentList last inner ts generalizing ts' with
  | case1 ts fault read =>
      have first := alike _ _ tokens
      rw [read] at first
      obtain ⟨fault', read', moves⟩ := follows_error first
      rw [argument_list_error last' read']
      exact .error moves
  | case2 ts e read =>
      have first := alike _ _ tokens
      rw [read] at first
      obtain ⟨⟨e', rest'⟩, read', same, left⟩ := follows_ok first
      cases left
      rw [argument_list_end last' read']
      exact .error (.expected _ _ ends)
  | case3 ts e t rest read comma ih =>
      have first := alike _ _ tokens
      rw [read] at first
      obtain ⟨⟨e', rest'⟩, read', same, left⟩ := follows_ok first
      cases same
      cases left with
      | cons head tail =>
          rw [argument_list_next last' read', if_pos ((r.kind_eq head).trans comma)]
          apply follows_bind (ih tail)
          rintro ⟨es, rest⟩ ⟨es', rest'⟩ ⟨rfl, left⟩
          exact .ok ⟨rfl, left⟩
  | case4 ts e t rest read noComma paren =>
      have first := alike _ _ tokens
      rw [read] at first
      obtain ⟨⟨e', rest'⟩, read', same, left⟩ := follows_ok first
      cases same
      cases left with
      | cons head tail =>
          rw [argument_list_next last' read', r.kind_eq head, if_neg noComma, if_pos paren]
          exact .ok ⟨rfl, tail⟩
  | case5 ts e t rest read noComma noParen =>
      have first := alike _ _ tokens
      rw [read] at first
      obtain ⟨⟨e', rest'⟩, read', same, left⟩ := follows_ok first
      cases left with
      | cons head tail =>
          rw [argument_list_next last' read', r.kind_eq head, if_neg noComma, if_neg noParen]
          exact .error (.expected _ _ (r.place_of head))

theorem arguments_follow (ends : r.place last last') {inner inner' : ExprReader} (alike : r.Expressions inner inner')
    (tokens : r.Tokens ts ts') : r.Follows r.Left (arguments last inner ts) (arguments last' inner' ts') := by
  have listed := argument_list_follows ends alike tokens
  cases tokens with
  | nil => exact listed
  | cons head tail =>
      obtain ⟨kind, text, text', p, p', rfl, rfl⟩ := token_parts head
      cases kind with
      | rightParen => exact .ok ⟨rfl, tail⟩
      | _ => exact listed

theorem operand_follows (ends : r.place last last') {inner inner' : ExprReader} (alike : r.Expressions inner inner')
    (tokens : r.Tokens ts ts') : r.Follows r.Left (operand last inner ts) (operand last' inner' ts') := by
  cases tokens with
  | nil => exact .error (.expression _ ends)
  | cons head tail =>
      have moved := r.place_of head
      obtain ⟨kind, text, text', p, p', rfl, rfl⟩ := token_parts head
      cases kind with
      | string s => exact .ok ⟨rfl, tail⟩
      | number n => exact .ok ⟨rfl, tail⟩
      | leftParen =>
          apply follows_bind (alike _ _ tail)
          rintro ⟨e, rest⟩ ⟨_, rest'⟩ ⟨rfl, left⟩
          apply follows_bind (expect_follows ends .rightParen .rightParen left)
          exact fun _ _ left => .ok ⟨rfl, left⟩
      | name scope name =>
          cases tail with
          | nil => exact .ok ⟨rfl, .nil⟩
          | cons next tail =>
              obtain ⟨kind, text, text', q, q', rfl, rfl⟩ := token_parts next
              cases kind with
              | leftParen =>
                  dsimp only [operand]
                  by_cases allowed : FunctionName.allowsScope scope = true
                  · rw [if_pos allowed, if_pos allowed]
                    apply follows_bind (arguments_follow ends alike tail)
                    rintro ⟨args, rest⟩ ⟨_, rest'⟩ ⟨rfl, left⟩
                    exact .ok ⟨rfl, left⟩
                  · rw [if_neg allowed, if_neg allowed]
                    exact .error (.expression _ moved)
              | _ => exact .ok ⟨rfl, .cons next tail⟩
      | _ => exact .error (.expression _ moved)

theorem chain_from_follows (ends : r.place last last') {inner inner' : Option Expr → ExprReader}
    (alike : ∀ left, r.Expressions (inner left) (inner' left)) (left : Option Expr) (tokens : r.Tokens ts ts') :
    r.Follows r.Left (chainFrom last inner left ts) (chainFrom last' inner' left ts') := by
  apply follows_bind (operand_follows ends (alike none) tokens)
  rintro ⟨right, rest⟩ ⟨_, rest'⟩ ⟨rfl, after⟩
  cases after with
  | nil => exact .ok ⟨rfl, .nil⟩
  | @cons t t' rest rest' head tail =>
      dsimp only
      rw [r.kind_eq head]
      by_cases joins : t.kind = .dot ∨ t.kind = .dotDot
      · rw [if_pos joins, if_pos joins]
        exact alike _ _ _ tail
      · rw [if_neg joins, if_neg joins]
        exact .ok ⟨rfl, .cons head tail⟩

theorem expression_follows (ends : r.place last last') : r.Expressions (expression last) (expression last') := by
  have chains : ∀ room left, r.Expressions (chain last room left) (chain last' room left) := by
    intro room
    induction room with
    | zero => exact fun left ts ts' tokens => .error (.nestingTooDeep (place_of_moves ends tokens))
    | succ room ih => exact fun left ts ts' tokens => chain_from_follows ends ih left tokens
  exact chains nestingLimit none

theorem last_place_moves (tokens : r.Tokens ts ts') (filled : ts ≠ []) : r.place (lastPlace ts) (lastPlace ts') := by
  induction tokens with
  | nil => exact absurd rfl filled
  | cons head tail ih =>
      cases tail with
      | nil => exact r.place_of head
      | cons next tail => exact ih (List.cons_ne_nil _ _)

end

end ExScript
