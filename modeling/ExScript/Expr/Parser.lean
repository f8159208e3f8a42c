import ExScript.Expr
import ExScript.ParseError

set_option autoImplicit false

namespace ExScript

def placeOf (last : Position) : List Token → Position
  | [] => last
  | t :: _ => t.position

structure ExprReader where
  run : List Token → Except ParseError (Expr × List Token)
  shrinks : ∀ {ts : List Token} {e : Expr} {rest : List Token},
    run ts = .ok (e, rest) → rest.length < ts.length

def expect (last : Position) (kind : TokenKind) (wanted : Wanted) :
    List Token → Except ParseError (List Token)
  | [] => .error (.expected last wanted .endOfLine)
  | t :: ts => if t.kind = kind then .ok ts else .error (.expected t.position wanted t.kind)

def argumentList (last : Position) (inner : ExprReader) (ts : List Token) :
    Except ParseError (List Expr × List Token) :=
  match _read : inner.run ts with
  | .error error => .error error
  | .ok (_, []) => .error (.expected last .commaOrRightParen .endOfLine)
  | .ok (e, t :: rest) =>
      if t.kind = .comma then do
        let (es, rest) ← argumentList last inner rest
        return (e :: es, rest)
      else if t.kind = .rightParen then .ok ([e], rest)
      else .error (.expected t.position .commaOrRightParen t.kind)
termination_by ts.length
decreasing_by
  have := inner.shrinks _read
  simp at this
  omega

def arguments (last : Position) (inner : ExprReader) (ts : List Token) :
    Except ParseError (List Expr × List Token) :=
  match ts with
  | ⟨.rightParen, _, _⟩ :: rest => .ok ([], rest)
  | ts => argumentList last inner ts

def operand (last : Position) (inner : ExprReader) :
    List Token → Except ParseError (Expr × List Token)
  | [] => .error (.expression last .unexpectedEnd)
  | t :: ts =>
      match t.kind with
      | .string s => .ok (.literal (.str s), ts)
      | .number n => .ok (.literal (.num n), ts)
      | .leftParen => do
          let (e, rest) ← inner.run ts
          let rest ← expect last .rightParen .rightParen rest
          return (e, rest)
      | .name scope name =>
          match ts with
          | ⟨.leftParen, _, _⟩ :: rest =>
              if FunctionName.allowsScope scope then do
                let (args, rest) ← arguments last inner rest
                return (.call ⟨scope, name⟩ args, rest)
              else .error (.expression t.position (.callScope scope))
          | ts => .ok (.variable ⟨scope, name⟩, ts)
      | .endOfLine => .error (.expression t.position .unexpectedEnd)
      | other => .error (.expression t.position (.unexpected other))

theorem expect_shrinks {last : Position} {kind : TokenKind} {wanted : Wanted} {ts rest : List Token}
    (taken : expect last kind wanted ts = .ok rest) : rest.length < ts.length := by
  cases ts with
  | nil => simp [expect] at taken
  | cons t ts =>
      rw [expect] at taken
      split at taken
      · cases taken
        simp
      · cases taken

theorem argument_list_shrinks (last : Position) (inner : ExprReader) (ts : List Token) :
    ∀ {es : List Expr} {rest : List Token},
      argumentList last inner ts = .ok (es, rest) → rest.length < ts.length := by
  fun_induction argumentList last inner ts with
  | case1 ts error read => intro es rest taken; cases taken
  | case2 ts e read => intro es rest taken; cases taken
  | case3 ts e t rest read comma ih =>
      intro es rest' taken
      have first := inner.shrinks read
      obtain ⟨⟨es', rest''⟩, more, done⟩ := bind_eq_ok taken
      have second := ih more
      cases done
      simp at first
      omega
  | case4 ts e t rest read _ _ =>
      intro es rest' taken
      have first := inner.shrinks read
      cases taken
      simp at first
      omega
  | case5 => intro es rest' taken; cases taken

theorem arguments_shrinks {last : Position} {inner : ExprReader} {ts : List Token} {es : List Expr}
    {rest : List Token} (taken : arguments last inner ts = .ok (es, rest)) :
    rest.length < ts.length := by
  unfold arguments at taken
  split at taken
  · cases taken
    simp
  · exact argument_list_shrinks last inner _ taken

theorem operand_shrinks {last : Position} {inner : ExprReader} {ts : List Token} {e : Expr}
    {rest : List Token} (taken : operand last inner ts = .ok (e, rest)) : rest.length < ts.length := by
  cases ts with
  | nil => simp [operand] at taken
  | cons t ts =>
      obtain ⟨kind, text, position⟩ := t
      cases kind with
      | string s => cases taken; exact Nat.lt_succ_self _
      | number n => cases taken; exact Nat.lt_succ_self _
      | leftParen =>
          obtain ⟨⟨e', rest'⟩, read, taken⟩ := bind_eq_ok taken
          obtain ⟨rest'', close, done⟩ := bind_eq_ok taken
          have first := inner.shrinks read
          have second := expect_shrinks close
          cases done
          exact Nat.lt_succ_of_lt (Nat.lt_trans second first)
      | name scope name =>
          simp only [operand] at taken
          split at taken
          · split at taken
            · obtain ⟨⟨es, rest'⟩, read, done⟩ := bind_eq_ok taken
              have shorter := arguments_shrinks read
              cases done
              exact Nat.lt_succ_of_lt (Nat.lt_succ_of_lt shorter)
            · cases taken
          · cases taken; exact Nat.lt_succ_self _
      | _ => cases taken

def chainFrom (last : Position) (inner : Option Expr → ExprReader) (left : Option Expr)
    (ts : List Token) : Except ParseError (Expr × List Token) := do
  let (right, rest) ← operand last (inner none) ts
  let whole := match left with
    | none => right
    | some left => .concat left right
  match rest with
  | [] => return (whole, [])
  | t :: more =>
      if t.kind = .dot ∨ t.kind = .dotDot then (inner (some whole)).run more
      else return (whole, t :: more)

theorem chain_from_shrinks {last : Position} {inner : Option Expr → ExprReader} {left : Option Expr}
    {ts : List Token} {e : Expr} {rest : List Token}
    (taken : chainFrom last inner left ts = .ok (e, rest)) : rest.length < ts.length := by
  obtain ⟨⟨right, rest'⟩, read, taken⟩ := bind_eq_ok taken
  have first := operand_shrinks read
  dsimp only at taken
  split at taken
  · cases taken
    exact first
  · split at taken
    · have second := (inner _).shrinks taken
      simp at first
      omega
    · cases taken
      exact first

-- An expression, or the rest of a chain after `left`, with `room` levels of nesting left.
def chain (last : Position) : Nat → Option Expr → ExprReader
  | 0, _ => ⟨fun ts => .error (.nestingTooDeep (placeOf last ts)), fun taken => by cases taken⟩
  | room + 1, left => ⟨chainFrom last (chain last room) left, chain_from_shrinks⟩

def expression (last : Position) : ExprReader := chain last nestingLimit none

def lastPlace (ts : List Token) : Position := ((ts.getLast?).map Token.position).getD ⟨0, 0⟩

def parseExpr (ts : List Token) : Except ParseError (Expr × List Token) :=
  (expression (lastPlace ts)).run ts

end ExScript
