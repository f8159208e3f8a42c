import ExScript.Expr.Parser

set_option autoImplicit false

namespace ExScript

def IsJoin (k : TokenKind) : Prop := k = .dot ∨ k = .dotDot

-- chain   := operand (('.' | '..') operand)*
-- operand := string | number | variable | '(' chain ')' | name '(' [chain (',' chain)*] ')'
--
-- The last number of each is the need of the derivation. The k-th operand of a chain, counted from zero,
-- stands k + 1 levels deep; `count` is the number of operands so far.
mutual

inductive OperandOf : List TokenKind → Expr → Nat → Prop
  | string (s : String) : OperandOf [.string s] (.literal (.str s)) 0
  | number (n : Int64) : OperandOf [.number n] (.literal (.num n)) 0
  | «variable» (scope : Option Scope) (name : String) :
      OperandOf [.name scope name] (.variable ⟨scope, name⟩) 0
  | parens {ks : List TokenKind} {e : Expr} {count need : Nat} (inside : ChainOf ks e count need) :
      OperandOf (.leftParen :: (ks ++ [.rightParen])) e need
  | emptyCall (scope : Option Scope) (name : String) (allowed : FunctionName.allowsScope scope = true) :
      OperandOf [.name scope name, .leftParen, .rightParen] (.call ⟨scope, name⟩ []) 0
  | call (scope : Option Scope) (name : String) (allowed : FunctionName.allowsScope scope = true)
      {ks : List TokenKind} {es : List Expr} {need : Nat} (args : ArgumentsOf ks es need) :
      OperandOf (.name scope name :: .leftParen :: (ks ++ [.rightParen])) (.call ⟨scope, name⟩ es) need

inductive ChainOf : List TokenKind → Expr → Nat → Nat → Prop
  | single {ks : List TokenKind} {e : Expr} {need : Nat} (only : OperandOf ks e need) :
      ChainOf ks e 1 (1 + need)
  | link {ks ks' : List TokenKind} {k : TokenKind} {e e' : Expr} {count need need' : Nat}
      (left : ChainOf ks e count need) (joins : IsJoin k) (right : OperandOf ks' e' need') :
      ChainOf (ks ++ k :: ks') (.concat e e') (count + 1) (max need (count + 1 + need'))

inductive ArgumentsOf : List TokenKind → List Expr → Nat → Prop
  | last {ks : List TokenKind} {e : Expr} {count need : Nat} (arg : ChainOf ks e count need) :
      ArgumentsOf ks [e] need
  | more {ks ks' : List TokenKind} {e : Expr} {es : List Expr} {count need need' : Nat}
      (arg : ChainOf ks e count need) (rest : ArgumentsOf ks' es need') :
      ArgumentsOf (ks ++ .comma :: ks') (e :: es) (max need need')

end

def kinds (ts : List Token) : List TokenKind := ts.map Token.kind

def nextKind (ts : List Token) : Option TokenKind := ts.head?.map Token.kind

def EndsInVariable (ks : List TokenKind) : Prop := ∃ scope name, ks.getLast? = some (.name scope name)

-- A variable with a left parenthesis after it would have been read as a call.
def Separate (ks : List TokenKind) (rest : List Token) : Prop :=
  ¬ (EndsInVariable ks ∧ nextKind rest = some .leftParen)

-- No operand or operator could be taken further.
structure Stops (ks : List TokenKind) (rest : List Token) : Prop where
  noJoin : ∀ k, nextKind rest = some k → ¬ IsJoin k
  separate : Separate ks rest

theorem separate_of_last {ks : List TokenKind} {k : TokenKind} (rest : List Token)
    (ends : ks.getLast? = some k) (noName : ∀ scope name, k ≠ .name scope name) : Separate ks rest := by
  rintro ⟨⟨scope, name, named⟩, -⟩
  rw [ends] at named
  exact noName scope name (Option.some.inj named)

theorem separate_suffix {ks ks' : List TokenKind} {k : TokenKind} {rest : List Token}
    (apart : Separate (ks ++ k :: ks') rest) : Separate ks' rest := by
  rintro ⟨⟨scope, name, named⟩, paren⟩
  refine apart ⟨⟨scope, name, ?_⟩, paren⟩
  rw [List.getLast?_append, List.getLast?_cons, named]
  rfl

-- What the reader does after an operand: it goes on if an operator comes next.
def goOn (inner : Option Expr → ExprReader) (whole : Expr) (rest : List Token) :
    Except ParseError (Expr × List Token) :=
  match rest with
  | [] => .ok (whole, [])
  | t :: more => if t.kind = .dot ∨ t.kind = .dotDot then (inner (some whole)).run more else .ok (whole, t :: more)

def joined : Option Expr → Expr → Expr
  | none, right => right
  | some left, right => .concat left right

theorem chain_from_eq {last : Position} {inner : Option Expr → ExprReader} (left : Option Expr)
    {ts rest : List Token} {right : Expr} (read : operand last (inner none) ts = .ok (right, rest)) :
    chainFrom last inner left ts = goOn inner (joined left right) rest := by
  unfold chainFrom
  rw [read]
  cases left <;> cases rest <;> rfl

theorem go_on_stops {inner : Option Expr → ExprReader} {whole : Expr} {rest : List Token}
    (ends : ∀ k, nextKind rest = some k → ¬ IsJoin k) : goOn inner whole rest = .ok (whole, rest) := by
  cases rest with
  | nil => rfl
  | cons t more => exact if_neg (ends t.kind rfl)

theorem go_on_join {inner : Option Expr → ExprReader} {whole : Expr} {t : Token} {more : List Token}
    (joins : IsJoin t.kind) : goOn inner whole (t :: more) = (inner (some whole)).run more :=
  if_pos joins

theorem operand_of_head {ks : List TokenKind} {e : Expr} {need : Nat} (derived : OperandOf ks e need) :
    ∃ k more, ks = k :: more ∧ k ≠ .rightParen := by
  cases derived <;> exact ⟨_, _, rfl, by simp⟩

theorem chain_of_head {ks : List TokenKind} {e : Expr} {count need : Nat} (derived : ChainOf ks e count need) :
    ∃ k more, ks = k :: more ∧ k ≠ .rightParen := by
  cases derived with
  | single only => exact operand_of_head only
  | link left _ _ =>
      obtain ⟨k, more, rfl, noParen⟩ := chain_of_head left
      exact ⟨k, _, rfl, noParen⟩

theorem arguments_of_head {ks : List TokenKind} {es : List Expr} {need : Nat} (derived : ArgumentsOf ks es need) :
    ∃ k more, ks = k :: more ∧ k ≠ .rightParen := by
  cases derived with
  | last arg => exact chain_of_head arg
  | more arg _ =>
      obtain ⟨k, more, rfl, noParen⟩ := chain_of_head arg
      exact ⟨k, _, rfl, noParen⟩

theorem kinds_eq_cons {ts : List Token} {k : TokenKind} {ks : List TokenKind} (spelled : kinds ts = k :: ks) :
    ∃ t more, ts = t :: more ∧ t.kind = k ∧ kinds more = ks := by
  cases ts with
  | nil => simp [kinds] at spelled
  | cons t more =>
      obtain ⟨head, tail⟩ := List.cons.inj spelled
      exact ⟨t, more, rfl, head, tail⟩

theorem kinds_eq_append {ts : List Token} {ks ks' : List TokenKind} (spelled : kinds ts = ks ++ ks') :
    ∃ front back, ts = front ++ back ∧ kinds front = ks ∧ kinds back = ks' :=
  List.map_eq_append_iff.mp spelled

theorem kinds_eq_nil {ts : List Token} (spelled : kinds ts = []) : ts = [] := List.map_eq_nil_iff.mp spelled

theorem expect_kind (last : Position) {t : Token} {kind : TokenKind} (wanted : Wanted) (rest : List Token)
    (same : t.kind = kind) : expect last kind wanted (t :: rest) = .ok rest := by
  rw [expect, if_pos same]

theorem arguments_eq {last : Position} {inner : ExprReader} {t : Token} {ts : List Token}
    (noParen : t.kind ≠ .rightParen) : arguments last inner (t :: ts) = argumentList last inner (t :: ts) := by
  unfold arguments
  split
  · rename_i same
    cases same
    exact absurd rfl noParen
  · rfl

-- A token that no call starts with keeps any derivation before it separate.
theorem separate_of_next (ks : List TokenKind) {t : Token} (rest : List Token) (noParen : t.kind ≠ .leftParen) :
    Separate ks (t :: rest) := by
  rintro ⟨-, paren⟩
  exact noParen (Option.some.inj paren)

theorem stops_before {t : Token} {k : TokenKind} (same : t.kind = k) (rest : List Token) (noJoin : ¬ IsJoin k) :
    ∀ k', nextKind (t :: rest) = some k' → ¬ IsJoin k' := by
  rintro k' ⟨⟩
  rwa [same]

theorem operand_variable (last : Position) (inner : ExprReader) {t : Token} {scope : Option Scope} {name : String}
    (kind : t.kind = .name scope name) (rest : List Token) (noParen : nextKind rest ≠ some .leftParen) :
    operand last inner (t :: rest) = .ok (.variable ⟨scope, name⟩, rest) := by
  simp only [operand, kind]
  split
  · exact absurd rfl noParen
  · rfl

theorem operand_call (last : Position) (inner : ExprReader) {t opener : Token} {scope : Option Scope} {name : String}
    (kind : t.kind = .name scope name) (opens : opener.kind = .leftParen)
    (allowed : FunctionName.allowsScope scope = true) {ts rest : List Token} {es : List Expr}
    (read : arguments last inner ts = .ok (es, rest)) :
    operand last inner (t :: opener :: ts) = .ok (.call ⟨scope, name⟩ es, rest) := by
  obtain ⟨kind', text, place⟩ := opener
  cases opens
  simp only [operand, kind, if_pos allowed, read]
  rfl

theorem argument_list_last (last : Position) {inner : ExprReader} {ts rest : List Token} {e : Expr} {t : Token}
    (read : inner.run ts = .ok (e, t :: rest)) (closes : t.kind = .rightParen) :
    argumentList last inner ts = .ok ([e], rest) := by
  rw [argumentList]
  split <;> rename_i found <;> rw [read] at found <;> cases found
  simp [closes]

theorem argument_list_more (last : Position) {inner : ExprReader} {ts more rest : List Token} {e : Expr}
    {es : List Expr} {t : Token} (read : inner.run ts = .ok (e, t :: more)) (comma : t.kind = .comma)
    (others : argumentList last inner more = .ok (es, rest)) :
    argumentList last inner ts = .ok (e :: es, rest) := by
  rw [argumentList]
  split <;> rename_i found <;> rw [read] at found <;> cases found
  rw [if_pos comma, others]
  rfl

-- Completeness: a derivation that fits the room is read to its end. One lemma for each rule of the grammar.
def OperandReads (ks : List TokenKind) (e : Expr) (need : Nat) : Prop :=
  ∀ (last : Position) (room : Nat) (ts rest : List Token), need ≤ room → kinds ts = ks → Separate ks rest →
    operand last (chain last room none) (ts ++ rest) = .ok (e, rest)

def ChainReads (ks : List TokenKind) (e : Expr) (count need : Nat) : Prop :=
  ∀ (last : Position) (room : Nat) (ts rest : List Token), need ≤ room → kinds ts = ks → Separate ks rest →
    (chain last room none).run (ts ++ rest) = goOn (chain last (room - count)) e rest

def ArgumentsRead (ks : List TokenKind) (es : List Expr) (need : Nat) : Prop :=
  ∀ (last : Position) (room : Nat) (ts rest : List Token) (t : Token), need ≤ room → kinds ts = ks →
    t.kind = .rightParen → argumentList last (chain last room none) (ts ++ t :: rest) = .ok (es, rest)

theorem string_reads (s : String) : OperandReads [.string s] (.literal (.str s)) 0 := by
  intro last room ts rest _ spelled _
  obtain ⟨t, more, rfl, kind, tail⟩ := kinds_eq_cons spelled
  cases kinds_eq_nil tail
  simp [operand, kind]

theorem number_reads (n : Int64) : OperandReads [.number n] (.literal (.num n)) 0 := by
  intro last room ts rest _ spelled _
  obtain ⟨t, more, rfl, kind, tail⟩ := kinds_eq_cons spelled
  cases kinds_eq_nil tail
  simp [operand, kind]

theorem variable_reads (scope : Option Scope) (name : String) :
    OperandReads [.name scope name] (.variable ⟨scope, name⟩) 0 := by
  intro last room ts rest _ spelled apart
  obtain ⟨t, more, rfl, kind, tail⟩ := kinds_eq_cons spelled
  cases kinds_eq_nil tail
  exact operand_variable last _ kind rest fun paren => apart ⟨⟨scope, name, rfl⟩, paren⟩

-- Before a token that neither joins nor opens, a chain is read up to that token.
theorem chain_reads_before {ks : List TokenKind} {e : Expr} {count need : Nat} (reads : ChainReads ks e count need)
    (last : Position) {room : Nat} {ts : List Token} (rest : List Token) {t : Token} {k : TokenKind}
    (fits : need ≤ room) (spelled : kinds ts = ks) (kind : t.kind = k) (noParen : k ≠ .leftParen)
    (noJoin : ¬ IsJoin k) : (chain last room none).run (ts ++ t :: rest) = .ok (e, t :: rest) := by
  rw [reads last room ts (t :: rest) fits spelled (separate_of_next ks rest (by rwa [kind])),
    go_on_stops (stops_before kind rest noJoin)]

theorem parens_reads {ks : List TokenKind} {e : Expr} {count need : Nat} (inside : ChainReads ks e count need) :
    OperandReads (.leftParen :: (ks ++ [.rightParen])) e need := by
  intro last room ts rest fits spelled _
  obtain ⟨t, more, rfl, opens, tail⟩ := kinds_eq_cons spelled
  obtain ⟨inner, back, rfl, innerSpelled, tail⟩ := kinds_eq_append tail
  obtain ⟨close, more, rfl, closes, tail⟩ := kinds_eq_cons tail
  cases kinds_eq_nil tail
  have read := chain_reads_before inside last rest fits innerSpelled closes (by simp) (by simp [IsJoin])
  simp only [operand, opens, List.cons_append, List.append_assoc, List.nil_append]
  rw [read]
  show (expect last .rightParen .rightParen (close :: rest) >>= fun rest => pure (e, rest)) = _
  rw [expect_kind last .rightParen rest closes]
  rfl

theorem empty_call_reads {scope : Option Scope} (name : String) (allowed : FunctionName.allowsScope scope = true) :
    OperandReads [.name scope name, .leftParen, .rightParen] (.call ⟨scope, name⟩ []) 0 := by
  intro last room ts rest _ spelled _
  obtain ⟨t, more, rfl, kind, tail⟩ := kinds_eq_cons spelled
  obtain ⟨opener, more, rfl, opens, tail⟩ := kinds_eq_cons tail
  obtain ⟨⟨_, text, place⟩, more, rfl, rfl, ended⟩ := kinds_eq_cons tail
  cases kinds_eq_nil ended
  exact operand_call last _ kind opens allowed rfl

theorem arguments_read {ks : List TokenKind} {es : List Expr} {need : Nat} (derived : ArgumentsOf ks es need)
    (reads : ArgumentsRead ks es need) (last : Position) {room : Nat} {ts : List Token} (rest : List Token)
    {t : Token} (fits : need ≤ room) (spelled : kinds ts = ks) (closes : t.kind = .rightParen) :
    arguments last (chain last room none) (ts ++ t :: rest) = .ok (es, rest) := by
  have read := reads last room ts rest t fits spelled closes
  obtain ⟨k, more, rfl, noParen⟩ := arguments_of_head derived
  obtain ⟨first, others, rfl, firstKind, _⟩ := kinds_eq_cons spelled
  rw [List.cons_append] at read ⊢
  rw [arguments_eq (by rwa [firstKind]), read]

theorem call_reads {scope : Option Scope} (name : String) (allowed : FunctionName.allowsScope scope = true)
    {ks : List TokenKind} {es : List Expr} {need : Nat} (derived : ArgumentsOf ks es need)
    (reads : ArgumentsRead ks es need) :
    OperandReads (.name scope name :: .leftParen :: (ks ++ [.rightParen])) (.call ⟨scope, name⟩ es) need := by
  intro last room ts rest fits spelled _
  obtain ⟨t, more, rfl, kind, tail⟩ := kinds_eq_cons spelled
  obtain ⟨opener, more, rfl, opens, tail⟩ := kinds_eq_cons tail
  obtain ⟨inner, back, rfl, innerSpelled, tail⟩ := kinds_eq_append tail
  obtain ⟨close, more, rfl, closes, tail⟩ := kinds_eq_cons tail
  cases kinds_eq_nil tail
  have read := arguments_read derived reads last rest fits innerSpelled closes
  simpa using operand_call last _ kind opens allowed read

theorem single_reads {ks : List TokenKind} {e : Expr} {need : Nat} (only : OperandReads ks e need) :
    ChainReads ks e 1 (1 + need) := by
  intro last room ts rest fits spelled apart
  obtain ⟨level, rfl⟩ : ∃ level, room = level + 1 := ⟨room - 1, by omega⟩
  exact chain_from_eq none (only last level ts rest (by omega) spelled apart)

-- The operators before an operand each have taken one level of the room.
theorem link_reads {ks ks' : List TokenKind} {k : TokenKind} {e e' : Expr} {count need need' : Nat}
    (left : ChainReads ks e count need) (joins : IsJoin k) (right : OperandReads ks' e' need') :
    ChainReads (ks ++ k :: ks') (.concat e e') (count + 1) (max need (count + 1 + need')) := by
  intro last room ts rest fits spelled apart
  obtain ⟨front, back, rfl, frontSpelled, tail⟩ := kinds_eq_append spelled
  obtain ⟨join, back, rfl, joinKind, backSpelled⟩ := kinds_eq_cons tail
  have noParen : join.kind ≠ .leftParen := by
    rw [joinKind]
    rcases joins with rfl | rfl <;> simp
  obtain ⟨level, deep⟩ : ∃ level, room = count + (level + 1) := ⟨room - count - 1, by omega⟩
  have read := right last level back rest (by omega) backSpelled (separate_suffix apart)
  rw [List.append_assoc, List.cons_append,
    left last room front _ (by omega) frontSpelled (separate_of_next _ _ noParen),
    go_on_join (by rwa [joinKind]), show room - count = level + 1 by omega,
    show room - (count + 1) = level by omega]
  exact chain_from_eq (some e) read

theorem last_argument_reads {ks : List TokenKind} {e : Expr} {count need : Nat} (arg : ChainReads ks e count need) :
    ArgumentsRead ks [e] need := by
  intro last room ts rest t fits spelled closes
  exact argument_list_last last
    (chain_reads_before arg last rest fits spelled closes (by simp) (by simp [IsJoin])) closes

theorem more_arguments_read {ks ks' : List TokenKind} {e : Expr} {es : List Expr} {count need need' : Nat}
    (arg : ChainReads ks e count need) (others : ArgumentsRead ks' es need') :
    ArgumentsRead (ks ++ .comma :: ks') (e :: es) (max need need') := by
  intro last room ts rest t fits spelled closes
  obtain ⟨front, back, rfl, frontSpelled, tail⟩ := kinds_eq_append spelled
  obtain ⟨comma, back, rfl, commaKind, backSpelled⟩ := kinds_eq_cons tail
  have read := chain_reads_before arg last (back ++ t :: rest) (Nat.le_trans (Nat.le_max_left _ _) fits)
    frontSpelled commaKind (by simp) (by simp [IsJoin])
  have more := others last room back rest t (Nat.le_trans (Nat.le_max_right _ _) fits) backSpelled closes
  simpa using argument_list_more last read commaKind more

theorem chain_reads {ks : List TokenKind} {e : Expr} {count need : Nat} (derived : ChainOf ks e count need) :
    ChainReads ks e count need :=
  @ChainOf.rec (fun ks e need _ => OperandReads ks e need) (fun ks e count need _ => ChainReads ks e count need)
    (fun ks es need _ => ArgumentsRead ks es need)
    string_reads number_reads variable_reads (fun _ => parens_reads)
    (fun _ name allowed => empty_call_reads name allowed) (fun _ name allowed => call_reads name allowed)
    (fun _ => single_reads) (fun _ joins _ left right => link_reads left joins right)
    (fun _ => last_argument_reads) (fun _ _ => more_arguments_read)
    ks e count need derived

theorem arguments_of_reads {ks : List TokenKind} {es : List Expr} {need : Nat} (derived : ArgumentsOf ks es need) :
    ArgumentsRead ks es need := by
  cases derived with
  | last arg => exact last_argument_reads (chain_reads arg)
  | more arg others => exact more_arguments_read (chain_reads arg) (arguments_of_reads others)

theorem separate_append {ks ks' : List TokenKind} {k : TokenKind} {rest : List Token}
    (apart : Separate ks' rest) (filled : ks' ≠ []) : Separate (ks ++ k :: ks') rest := by
  rintro ⟨⟨scope, name, named⟩, paren⟩
  refine apart ⟨⟨scope, name, ?_⟩, paren⟩
  rw [← named, List.getLast?_append, List.getLast?_cons]
  cases ended : ks'.getLast? with
  | none => exact absurd (List.getLast?_eq_none_iff.mp ended) filled
  | some k => rfl

-- Soundness: what a reader accepts it has derived, within its room and as far as it goes.
def SoundWithin (room : Nat) (reader : ExprReader) : Prop :=
  ∀ ts e rest, reader.run ts = .ok (e, rest) → ∃ p count need,
    ts = p ++ rest ∧ ChainOf (kinds p) e count need ∧ need ≤ room ∧ Stops (kinds p) rest

theorem argument_list_derives {last : Position} {room : Nat} {inner : ExprReader} (sound : SoundWithin room inner)
    (ts : List Token) : ∀ es rest, argumentList last inner ts = .ok (es, rest) → ∃ p t need,
      ts = p ++ t :: rest ∧ t.kind = .rightParen ∧ ArgumentsOf (kinds p) es need ∧ need ≤ room := by
  fun_induction argumentList last inner ts with
  | case1 ts error read => intro es rest taken; cases taken
  | case2 ts e read => intro es rest taken; cases taken
  | case3 ts e t more read comma ih =>
      intro es rest taken
      obtain ⟨⟨es', rest'⟩, others, done⟩ := bind_eq_ok taken
      cases done
      obtain ⟨front, count, need, rfl, derived, fits, -⟩ := sound _ _ _ read
      obtain ⟨back, close, need', rfl, closes, args, fits'⟩ := ih _ _ others
      refine ⟨front ++ t :: back, close, max need need', by simp, closes, ?_, by omega⟩
      have both := ArgumentsOf.more derived args
      rw [← comma] at both
      simpa [kinds] using both
  | case4 ts e t rest read noComma closes =>
      intro es rest' taken
      cases taken
      obtain ⟨front, count, need, rfl, derived, fits, -⟩ := sound _ _ _ read
      exact ⟨front, t, need, rfl, closes, .last derived, fits⟩
  | case5 => intro es rest taken; cases taken

theorem arguments_derives {last : Position} {room : Nat} {inner : ExprReader} (sound : SoundWithin room inner)
    {ts rest : List Token} {es : List Expr} (taken : arguments last inner ts = .ok (es, rest)) :
    ∃ p t need, ts = p ++ t :: rest ∧ t.kind = .rightParen ∧ need ≤ room ∧
      (p = [] ∧ es = [] ∧ need = 0 ∨ ArgumentsOf (kinds p) es need) := by
  unfold arguments at taken
  split at taken
  · cases taken
    exact ⟨[], _, 0, rfl, rfl, Nat.zero_le _, .inl ⟨rfl, rfl, rfl⟩⟩
  · obtain ⟨p, t, need, whole, closes, derived, fits⟩ := argument_list_derives sound _ _ _ taken
    exact ⟨p, t, need, whole, closes, fits, .inr derived⟩

theorem expect_eq_ok {last : Position} {kind : TokenKind} {wanted : Wanted} {ts rest : List Token}
    (taken : expect last kind wanted ts = .ok rest) : ∃ t, ts = t :: rest ∧ t.kind = kind := by
  cases ts with
  | nil => cases taken
  | cons t ts =>
      rw [expect] at taken
      split at taken
      · rename_i same
        cases taken
        exact ⟨t, rfl, same⟩
      · cases taken

theorem operand_derives {last : Position} {room : Nat} {inner : ExprReader} (sound : SoundWithin room inner)
    {ts rest : List Token} {e : Expr} (taken : operand last inner ts = .ok (e, rest)) :
    ∃ p need, ts = p ++ rest ∧ OperandOf (kinds p) e need ∧ need ≤ room ∧ Separate (kinds p) rest := by
  cases ts with
  | nil => cases taken
  | cons t ts =>
      obtain ⟨kind, text, place⟩ := t
      cases kind with
      | string s =>
          cases taken
          exact ⟨[⟨.string s, text, place⟩], 0, rfl, .string s, Nat.zero_le _,
            separate_of_last rest rfl (by simp)⟩
      | number n =>
          cases taken
          exact ⟨[⟨.number n, text, place⟩], 0, rfl, .number n, Nat.zero_le _,
            separate_of_last rest rfl (by simp)⟩
      | leftParen =>
          obtain ⟨⟨e', rest'⟩, read, taken⟩ := bind_eq_ok taken
          obtain ⟨rest'', close, done⟩ := bind_eq_ok taken
          cases done
          obtain ⟨front, count, need, rfl, derived, fits, -⟩ := sound _ _ _ read
          obtain ⟨t, same, closes⟩ := expect_eq_ok close
          subst same
          refine ⟨⟨.leftParen, text, place⟩ :: (front ++ [t]), need, by simp, ?_, fits, ?_⟩
          · have operand := OperandOf.parens derived
            rw [← closes] at operand
            simpa [kinds] using operand
          · exact separate_of_last _ (k := t.kind) (by simp [kinds, List.getLast?_cons]) (by simp [closes])
      | name scope name =>
          simp only [operand] at taken
          split at taken
          · rename_i text' place' more
            split at taken
            · rename_i allowed
              obtain ⟨⟨es, rest'⟩, read, done⟩ := bind_eq_ok taken
              cases done
              obtain ⟨front, t, need, rfl, closes, fits, derived⟩ := arguments_derives sound read
              refine ⟨⟨.name scope name, text, place⟩ :: ⟨.leftParen, text', place'⟩ :: (front ++ [t]), need,
                by simp, ?_, fits, ?_⟩
              · rcases derived with ⟨rfl, rfl, rfl⟩ | derived
                · simpa [kinds, closes] using OperandOf.emptyCall scope name allowed
                · simpa [kinds, closes] using OperandOf.call scope name allowed derived
              · exact separate_of_last _ (k := t.kind) (by simp [kinds, List.getLast?_cons]) (by simp [closes])
            · cases taken
          · rename_i noParen
            cases taken
            refine ⟨[⟨.name scope name, text, place⟩], 0, rfl, .variable scope name, Nat.zero_le _, ?_⟩
            rintro ⟨-, paren⟩
            cases rest with
            | nil => cases paren
            | cons t more =>
                obtain ⟨kind, text', place'⟩ := t
                cases paren
                exact noParen text' place' more rfl
      | _ => cases taken

theorem chain_from_eq_ok {last : Position} {inner : Option Expr → ExprReader} {left : Option Expr}
    {ts rest : List Token} {e : Expr} (taken : chainFrom last inner left ts = .ok (e, rest)) :
    ∃ right rest', operand last (inner none) ts = .ok (right, rest') ∧
      goOn inner (joined left right) rest' = .ok (e, rest) := by
  obtain ⟨⟨right, rest'⟩, read, more⟩ := bind_eq_ok taken
  refine ⟨right, rest', read, ?_⟩
  rw [← chain_from_eq left read]
  exact taken

theorem go_on_eq_ok {inner : Option Expr → ExprReader} {whole e : Expr} {ts rest : List Token}
    (taken : goOn inner whole ts = .ok (e, rest)) :
    (e = whole ∧ rest = ts ∧ ∀ k, nextKind ts = some k → ¬ IsJoin k) ∨
      ∃ t more, ts = t :: more ∧ IsJoin t.kind ∧ (inner (some whole)).run more = .ok (e, rest) := by
  cases ts with
  | nil =>
      cases taken
      exact .inl ⟨rfl, rfl, by simp [nextKind]⟩
  | cons t more =>
      by_cases joins : IsJoin t.kind
      · rw [go_on_join joins] at taken
        exact .inr ⟨t, more, rfl, joins, taken⟩
      · have stops := stops_before (rfl : t.kind = t.kind) more joins
        rw [go_on_stops stops] at taken
        cases taken
        exact .inl ⟨rfl, rfl, stops⟩

-- `ks` derives `e`, on its own or as what follows an operator after any derivation of the left side.
def Extends (room : Nat) : Option Expr → List TokenKind → Expr → Prop
  | none, ks, e => ∃ count need, ChainOf ks e count need ∧ need ≤ room
  | some left, ks, e => ∀ before k count need, ChainOf before left count need → IsJoin k →
      ∃ count' need', ChainOf (before ++ k :: ks) e count' need' ∧ need' ≤ max need (count + room)

theorem extends_operand {room : Nat} (left : Option Expr) {ks : List TokenKind} {right : Expr} {need : Nat}
    (derived : OperandOf ks right need) (fits : need ≤ room) : Extends (room + 1) left ks (joined left right) := by
  cases left with
  | none => exact ⟨1, 1 + need, .single derived, by omega⟩
  | some l =>
      intro before k count need' chained joins
      exact ⟨count + 1, _, .link chained joins derived, by omega⟩

theorem extends_join {room : Nat} (left : Option Expr) {ks ks' : List TokenKind} {k : TokenKind} {right e : Expr}
    {need : Nat} (derived : OperandOf ks right need) (fits : need ≤ room) (joins : IsJoin k)
    (further : Extends room (some (joined left right)) ks' e) : Extends (room + 1) left (ks ++ k :: ks') e := by
  cases left with
  | none =>
      obtain ⟨count, need', chained, fits'⟩ := further _ _ _ _ (.single derived) joins
      exact ⟨count, need', chained, by omega⟩
  | some l =>
      intro before k' count need' chained joins'
      obtain ⟨count', need'', whole, fits'⟩ := further _ _ _ _ (.link chained joins' derived) joins
      refine ⟨count', need'', by simpa using whole, by omega⟩

theorem chain_derives (last : Position) (room : Nat) : ∀ left ts e rest,
    (chain last room left).run ts = .ok (e, rest) → ∃ p,
      ts = p ++ rest ∧ Extends room left (kinds p) e ∧ Stops (kinds p) rest := by
  induction room with
  | zero => intro left ts e rest taken; cases taken
  | succ room ih =>
      have sound : SoundWithin room (chain last room none) := by
        intro ts e rest taken
        obtain ⟨p, whole, ⟨count, need, derived, fits⟩, stops⟩ := ih none ts e rest taken
        exact ⟨p, count, need, whole, derived, fits, stops⟩
      intro left ts e rest taken
      obtain ⟨right, rest', read, more⟩ := chain_from_eq_ok taken
      obtain ⟨p, need, rfl, derived, fits, apart⟩ := operand_derives sound read
      rcases go_on_eq_ok more with ⟨rfl, rfl, ends⟩ | ⟨t, ts, rfl, joins, further⟩
      · exact ⟨p, rfl, extends_operand left derived fits, ends, apart⟩
      · have shorter := (chain last room _).shrinks further
        obtain ⟨q, rfl, chained, stops⟩ := ih _ _ _ _ further
        have filled : kinds q ≠ [] := by
          intro empty
          rw [kinds_eq_nil empty] at shorter
          simp at shorter
        refine ⟨p ++ t :: q, by simp, ?_, stops.noJoin, ?_⟩
        · simpa [kinds] using extends_join left derived fits joins chained
        · simpa [kinds] using separate_append stops.separate filled

def Accepted (ts : List Token) (e : Expr) (rest : List Token) : Prop :=
  ∃ p count need, ts = p ++ rest ∧ ChainOf (kinds p) e count need ∧ need ≤ 200 ∧ Stops (kinds p) rest

theorem expression_run_iff (last : Position) (ts : List Token) (e : Expr) (rest : List Token) :
    (expression last).run ts = .ok (e, rest) ↔ Accepted ts e rest := by
  constructor
  · intro taken
    obtain ⟨p, whole, ⟨count, need, derived, fits⟩, stops⟩ := chain_derives last _ none ts e rest taken
    exact ⟨p, count, need, whole, derived, fits, stops⟩
  · rintro ⟨p, count, need, rfl, derived, fits, stops⟩
    rw [expression, chain_reads derived last nestingLimit p rest fits rfl stops.separate, go_on_stops stops.noJoin]

theorem parse_expr_accepts_grammar (ts : List Token) :
    (∀ e rest, parseExpr ts = .ok (e, rest) ↔ Accepted ts e rest) ∧
    ((∀ e rest, ¬ Accepted ts e rest) → ∃ error, parseExpr ts = .error error) ∧
    (∀ e rest e' rest', Accepted ts e rest → Accepted ts e' rest' → e = e' ∧ rest = rest') := by
  have accepts := expression_run_iff (lastPlace ts) ts
  refine ⟨accepts, fun refused => ?_, fun e rest e' rest' first second => ?_⟩
  · cases found : parseExpr ts with
    | error error => exact ⟨error, rfl⟩
    | ok read => exact absurd ((accepts _ _).mp found) (refused _ _)
  · have same := ((accepts e rest).mpr first).symm.trans ((accepts e' rest').mpr second)
    cases same
    exact ⟨rfl, rfl⟩

end ExScript
