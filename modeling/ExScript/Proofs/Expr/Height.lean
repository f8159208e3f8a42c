import ExScript.Proofs.Expr.Grammar

set_option autoImplicit false

namespace ExScript

namespace Expr

mutual

def height : Expr → Nat
  | literal _ => 1
  | .variable _ => 1
  | concat left right => 1 + max left.height right.height
  | call _ args => 1 + heightOf args

-- The height of the highest argument, and zero without any.
def heightOf : List Expr → Nat
  | [] => 0
  | e :: es => max e.height (heightOf es)

end

end Expr

def heightWithin : Nat → Nat
  | 0 => 0
  | levels + 1 => levels + 1 + heightWithin levels

theorem height_within_mono {m n : Nat} (fewer : m ≤ n) : heightWithin m ≤ heightWithin n := by
  induction fewer with
  | refl => exact Nat.le_refl _
  | step _ ih =>
      rw [heightWithin]
      omega

-- The reader gives the levels of a parenthesised chain or of an argument back when it ends, but the tree keeps
-- their height, so the height that fits `n` levels is `n + (n - 1) + ... + 1`. Each operand after the first puts one
-- node on top of the chain, which is where `count` comes from; the first operand was read with one level less.
def OperandLow (e : Expr) (need : Nat) : Prop := e.height ≤ 1 + heightWithin need

structure ChainLow (e : Expr) (count need : Nat) : Prop where
  filled : 1 ≤ count
  counted : count ≤ need
  low : e.height ≤ count + heightWithin (need - 1)

def ArgumentsLow (es : List Expr) (need : Nat) : Prop := Expr.heightOf es ≤ heightWithin need

theorem chain_low_le {e : Expr} {count need : Nat} (chain : ChainLow e count need) :
    e.height ≤ heightWithin need := by
  obtain ⟨filled, counted, low⟩ := chain
  obtain ⟨levels, rfl⟩ : ∃ levels, need = levels + 1 := ⟨need - 1, by omega⟩
  rw [Nat.add_sub_cancel] at low
  rw [heightWithin]
  omega

theorem operand_low_leaf {e : Expr} (leaf : e.height = 1) : OperandLow e 0 := Nat.le_of_eq leaf

theorem operand_low_parens {e : Expr} {count need : Nat} (inside : ChainLow e count need) : OperandLow e need :=
  Nat.le_trans (chain_low_le inside) (Nat.le_add_left _ _)

theorem operand_low_call (name : FunctionName) {es : List Expr} {need : Nat} (args : ArgumentsLow es need) :
    OperandLow (.call name es) need := by
  rw [OperandLow, Expr.height]
  exact Nat.add_le_add_left args 1

theorem chain_low_single {e : Expr} {need : Nat} (only : OperandLow e need) : ChainLow e 1 (1 + need) :=
  ⟨Nat.le_refl 1, Nat.le_add_right 1 need, by rwa [Nat.add_sub_cancel_left]⟩

theorem chain_low_link {e e' : Expr} {count need need' : Nat} (left : ChainLow e count need)
    (right : OperandLow e' need') : ChainLow (.concat e e') (count + 1) (max need (count + 1 + need')) := by
  obtain ⟨filled, counted, low⟩ := left
  refine ⟨Nat.le_add_left 1 count, by omega, ?_⟩
  have leftFits : heightWithin (need - 1) ≤ heightWithin (max need (count + 1 + need') - 1) :=
    height_within_mono (by omega)
  have rightFits : heightWithin need' ≤ heightWithin (max need (count + 1 + need') - 1) :=
    height_within_mono (by omega)
  have rightLow : e'.height ≤ 1 + heightWithin need' := right
  rw [Expr.height]
  omega

theorem arguments_low_last {e : Expr} {count need : Nat} (arg : ChainLow e count need) :
    ArgumentsLow [e] need := by
  rw [ArgumentsLow, Expr.heightOf, Expr.heightOf, Nat.max_zero]
  exact chain_low_le arg

theorem arguments_low_more {e : Expr} {es : List Expr} {count need need' : Nat} (arg : ChainLow e count need)
    (others : ArgumentsLow es need') : ArgumentsLow (e :: es) (max need need') := by
  rw [ArgumentsLow, Expr.heightOf]
  apply Nat.max_le.mpr
  constructor
  · exact Nat.le_trans (chain_low_le arg) (height_within_mono (Nat.le_max_left _ _))
  · exact Nat.le_trans others (height_within_mono (Nat.le_max_right _ _))

theorem chain_of_low {ks : List TokenKind} {e : Expr} {count need : Nat} (derived : ChainOf ks e count need) :
    ChainLow e count need :=
  @ChainOf.rec (fun _ e need _ => OperandLow e need) (fun _ e count need _ => ChainLow e count need)
    (fun _ es need _ => ArgumentsLow es need)
    (fun _ => operand_low_leaf rfl) (fun _ => operand_low_leaf rfl) (fun _ _ => operand_low_leaf rfl)
    (fun _ => operand_low_parens) (fun _ _ _ => operand_low_leaf rfl) (fun _ _ _ _ _ _ _ => operand_low_call _)
    (fun _ => chain_low_single) (fun _ _ _ left right => chain_low_link left right)
    (fun _ => arguments_low_last) (fun _ _ => arguments_low_more)
    ks e count need derived

-- The limit itself holds where no chain goes on after a parenthesised operand or a call with arguments.
def JoinsPlain (ks : List TokenKind) : Prop :=
  ∀ k join, [k, .rightParen, join] <:+: ks → IsJoin join → k = .leftParen

def EndsPlain (ks : List TokenKind) : Prop := ∀ k, [k, .rightParen] <:+ ks → k = .leftParen

theorem joins_plain_part {ks whole : List TokenKind} (within : ks <:+: whole) (plain : JoinsPlain whole) :
    JoinsPlain ks :=
  fun k join here joins => plain k join (here.trans within) joins

theorem joins_plain_inside {ks : List TokenKind} {k k' : TokenKind} (plain : JoinsPlain (k :: (ks ++ [k']))) :
    JoinsPlain ks :=
  joins_plain_part ⟨[k], [k'], rfl⟩ plain

theorem ends_plain_left {ks ks' : List TokenKind} {k : TokenKind} (plain : JoinsPlain (ks ++ k :: ks'))
    (joins : IsJoin k) : EndsPlain ks := by
  rintro k' ⟨front, rfl⟩
  exact plain k' k ⟨front, ks', by simp⟩ joins

theorem operand_of_ends {ks : List TokenKind} {e : Expr} {need : Nat} (derived : OperandOf ks e need) :
    ∃ front k, ks = front ++ [k] ∧ k ≠ .leftParen := by
  cases derived with
  | string s => exact ⟨[], _, rfl, by simp⟩
  | number n => exact ⟨[], _, rfl, by simp⟩
  | «variable» scope name => exact ⟨[], _, rfl, by simp⟩
  | parens inside => exact ⟨_ :: _, _, rfl, by simp⟩
  | emptyCall scope name allowed => exact ⟨[_, _], _, rfl, by simp⟩
  | call scope name allowed args => exact ⟨_ :: _ :: _, _, rfl, by simp⟩

theorem chain_of_ends {ks : List TokenKind} {e : Expr} {count need : Nat} (derived : ChainOf ks e count need) :
    ∃ front k, ks = front ++ [k] ∧ k ≠ .leftParen := by
  cases derived with
  | single only => exact operand_of_ends only
  | link left joins right =>
      obtain ⟨front, k, rfl, noParen⟩ := operand_of_ends right
      exact ⟨_, k, (List.append_assoc _ (_ :: front) [k]).symm, noParen⟩

theorem arguments_of_ends {ks : List TokenKind} {es : List Expr} {need : Nat} (derived : ArgumentsOf ks es need) :
    ∃ front k, ks = front ++ [k] ∧ k ≠ .leftParen := by
  cases derived with
  | last arg => exact chain_of_ends arg
  | more arg others =>
      obtain ⟨front, k, rfl, noParen⟩ := arguments_of_ends others
      exact ⟨_, k, (List.append_assoc _ (_ :: front) [k]).symm, noParen⟩

-- What stands before the parenthesis that closes a phrase is no left parenthesis.
theorem not_ends_plain {ks : List TokenKind} (before : List TokenKind)
    (ends : ∃ front k, ks = front ++ [k] ∧ k ≠ .leftParen) : ¬ EndsPlain (before ++ (ks ++ [.rightParen])) := by
  obtain ⟨front, k, rfl, noParen⟩ := ends
  intro plain
  exact noParen (plain k ⟨before ++ front, by simp⟩)

structure OperandFlat (ks : List TokenKind) (e : Expr) (need : Nat) : Prop where
  low : JoinsPlain ks → e.height ≤ 1 + need
  plain : EndsPlain ks → e.height = 1

structure ChainFlat (ks : List TokenKind) (e : Expr) (count need : Nat) : Prop where
  filled : 1 ≤ count
  low : JoinsPlain ks → e.height ≤ need
  plain : JoinsPlain ks → EndsPlain ks → e.height ≤ count

def ArgumentsFlat (ks : List TokenKind) (es : List Expr) (need : Nat) : Prop :=
  JoinsPlain ks → Expr.heightOf es ≤ need

theorem operand_flat_leaf (ks : List TokenKind) {e : Expr} (leaf : e.height = 1) : OperandFlat ks e 0 :=
  ⟨fun _ => Nat.le_of_eq leaf, fun _ => leaf⟩

theorem operand_flat_parens {ks : List TokenKind} {e : Expr} {count need : Nat} (derived : ChainOf ks e count need)
    (inside : ChainFlat ks e count need) : OperandFlat (.leftParen :: (ks ++ [.rightParen])) e need := by
  constructor
  · intro plain
    exact Nat.le_trans (inside.low (joins_plain_inside plain)) (Nat.le_add_left _ _)
  · intro plain
    exact absurd plain (not_ends_plain [.leftParen] (chain_of_ends derived))

theorem operand_flat_call (scope : Option Scope) (name : String) {ks : List TokenKind} {es : List Expr} {need : Nat}
    (derived : ArgumentsOf ks es need) (args : ArgumentsFlat ks es need) :
    OperandFlat (.name scope name :: .leftParen :: (ks ++ [.rightParen])) (.call ⟨scope, name⟩ es) need := by
  constructor
  · intro plain
    have inside : JoinsPlain ks := joins_plain_part ⟨[.name scope name, .leftParen], [.rightParen], rfl⟩ plain
    rw [Expr.height]
    exact Nat.add_le_add_left (args inside) 1
  · intro plain
    exact absurd plain (not_ends_plain [.name scope name, .leftParen] (arguments_of_ends derived))

theorem chain_flat_single {ks : List TokenKind} {e : Expr} {need : Nat} (only : OperandFlat ks e need) :
    ChainFlat ks e 1 (1 + need) :=
  ⟨Nat.le_refl 1, only.low, fun _ plain => Nat.le_of_eq (only.plain plain)⟩

-- The chain so far ends plain, since an operator follows, so it is as high as it is long.
theorem chain_flat_link {ks ks' : List TokenKind} {k : TokenKind} {e e' : Expr} {count need need' : Nat}
    (joins : IsJoin k) (left : ChainFlat ks e count need) (right : OperandFlat ks' e' need') :
    ChainFlat (ks ++ k :: ks') (.concat e e') (count + 1) (max need (count + 1 + need')) := by
  have filled := left.filled
  have leftLow : JoinsPlain (ks ++ k :: ks') → e.height ≤ count := fun plain =>
    left.plain (joins_plain_part List.infix_append_left plain) (ends_plain_left plain joins)
  refine ⟨Nat.le_add_left 1 count, fun plain => ?_, fun plain ended => ?_⟩
  · have leftHeight := leftLow plain
    have rightHeight := right.low (joins_plain_part ⟨ks ++ [k], [], by simp⟩ plain)
    rw [Expr.height]
    omega
  · have leftHeight := leftLow plain
    have rightHeight : e'.height = 1 := by
      apply right.plain
      intro k' closed
      exact ended k' (closed.trans ⟨ks ++ [k], by simp⟩)
    rw [Expr.height]
    omega

theorem arguments_flat_last {ks : List TokenKind} {e : Expr} {count need : Nat} (arg : ChainFlat ks e count need) :
    ArgumentsFlat ks [e] need := by
  intro plain
  rw [Expr.heightOf, Expr.heightOf, Nat.max_zero]
  exact arg.low plain

theorem arguments_flat_more {ks ks' : List TokenKind} {e : Expr} {es : List Expr} {count need need' : Nat}
    (arg : ChainFlat ks e count need) (others : ArgumentsFlat ks' es need') :
    ArgumentsFlat (ks ++ .comma :: ks') (e :: es) (max need need') := by
  intro plain
  have first := arg.low (joins_plain_part List.infix_append_left plain)
  have second := others (joins_plain_part ⟨ks ++ [.comma], [], by simp⟩ plain)
  rw [Expr.heightOf]
  omega

theorem chain_of_flat {ks : List TokenKind} {e : Expr} {count need : Nat} (derived : ChainOf ks e count need) :
    ChainFlat ks e count need :=
  @ChainOf.rec (fun ks e need _ => OperandFlat ks e need) (fun ks e count need _ => ChainFlat ks e count need)
    (fun ks es need _ => ArgumentsFlat ks es need)
    (fun _ => operand_flat_leaf _ rfl) (fun _ => operand_flat_leaf _ rfl) (fun _ _ => operand_flat_leaf _ rfl)
    operand_flat_parens (fun _ _ _ => operand_flat_leaf _ rfl) (fun _ _ _ _ _ _ => operand_flat_call _ _)
    (fun _ => chain_flat_single) (fun _ joins _ => chain_flat_link joins)
    (fun _ => arguments_flat_last) (fun _ _ => arguments_flat_more)
    ks e count need derived

-- Trees that reach the bound: a chain goes on with as many plain operands as its levels allow.
def plainOperand : Expr := .literal (.str "a")

def longer (e : Expr) : Nat → Expr
  | 0 => e
  | n + 1 => .concat (longer e n) plainOperand

def longerKinds (ks : List TokenKind) : Nat → List TokenKind
  | 0 => ks
  | n + 1 => longerKinds ks n ++ [.dot, .string "a"]

theorem chain_of_longer {ks : List TokenKind} {e : Expr} {count need : Nat} (derived : ChainOf ks e count need)
    (n : Nat) : ChainOf (longerKinds ks n) (longer e n) (count + n) (max need (count + n)) := by
  induction n with
  | zero =>
      have counted := (chain_of_low derived).counted
      rwa [Nat.add_zero, Nat.max_eq_left counted]
  | succ n ih =>
      have linked := ChainOf.link ih (Or.inl rfl) (OperandOf.string "a")
      rwa [show max (max need (count + n)) (count + n + 1 + 0) = max need (count + (n + 1)) by omega] at linked

theorem height_longer (e : Expr) (n : Nat) (positive : 1 ≤ e.height) : (longer e n).height = e.height + n := by
  induction n with
  | zero => rfl
  | succ n ih =>
      rw [longer, Expr.height, ih, plainOperand, Expr.height]
      omega

def highest : Nat → Expr
  | 0 => plainOperand
  | n + 1 => longer (.call ⟨none, "F"⟩ [highest n]) (n + 1)

def highestKinds : Nat → List TokenKind
  | 0 => [.string "a"]
  | n + 1 => longerKinds (.name none "F" :: .leftParen :: (highestKinds n ++ [.rightParen])) (n + 1)

theorem chain_of_highest (n : Nat) : ChainOf (highestKinds n) (highest n) (n + 1) (n + 1) := by
  induction n with
  | zero => exact .single (.string "a")
  | succ n ih =>
      have called := ChainOf.single (OperandOf.call none "F" rfl (ArgumentsOf.last ih))
      have whole := chain_of_longer called (n + 1)
      rwa [show max (1 + (n + 1)) (1 + (n + 1)) = n + 1 + 1 by omega,
        show 1 + (n + 1) = n + 1 + 1 by omega] at whole

theorem height_highest (n : Nat) : (highest n).height = heightWithin (n + 1) := by
  induction n with
  | zero => rfl
  | succ n ih =>
      have called : (Expr.call ⟨none, "F"⟩ [highest n]).height = 1 + heightWithin (n + 1) := by
        rw [Expr.height, Expr.heightOf, Expr.heightOf, Nat.max_zero, ih]
      have total : heightWithin (n + 1 + 1) = n + 1 + 1 + heightWithin (n + 1) := rfl
      rw [highest, height_longer _ _ (by omega), called, total]
      omega

def bareToken (k : TokenKind) : Token := ⟨k, [], ⟨1, 1⟩⟩

theorem kinds_bare_tokens (ks : List TokenKind) : kinds (ks.map bareToken) = ks := by
  rw [kinds, List.map_map]
  exact List.map_id ks

theorem parse_expr_bare_tokens {ks : List TokenKind} {e : Expr} {count need : Nat}
    (derived : ChainOf ks e count need) (fits : need ≤ 200) : parseExpr (ks.map bareToken) = .ok (e, []) := by
  have ends : Stops (kinds (ks.map bareToken)) [] := by
    constructor
    · intro k next
      cases next
    · rintro ⟨-, next⟩
      cases next
  refine (expression_run_iff _ _ e []).mpr ⟨_, count, need, (List.append_nil _).symm, ?_, fits, ends⟩
  rwa [kinds_bare_tokens]

theorem parse_expr_height (ts : List Token) (e : Expr) (rest : List Token) (read : parseExpr ts = .ok (e, rest)) :
    ∃ front, ts = front ++ rest ∧ (JoinsPlain (kinds front) → e.height ≤ nestingLimit) ∧
      e.height ≤ nestingLimit * (nestingLimit + 1) / 2 := by
  obtain ⟨front, count, need, whole, derived, fits, -⟩ := (expression_run_iff _ ts e rest).mp read
  refine ⟨front, whole, fun plain => ?_, ?_⟩
  · exact Nat.le_trans ((chain_of_flat derived).low plain) fits
  · calc e.height ≤ heightWithin need := chain_low_le (chain_of_low derived)
      _ ≤ heightWithin nestingLimit := height_within_mono fits
      _ = nestingLimit * (nestingLimit + 1) / 2 := by decide +kernel

-- The highest tree of all, and `F() . ('a' . 'a')`, in which every operator follows a plain operand.
def plainKinds : List TokenKind :=
  [.name none "F", .leftParen, .rightParen, .dot, .leftParen, .string "a", .dot, .string "a", .rightParen]

theorem plain_kinds_joins_plain : JoinsPlain plainKinds := by
  intro k join here joins
  have found : k = .leftParen ∧ join = .dot := by simpa [plainKinds, List.infix_cons_iff] using here
  exact found.1

theorem parse_expr_height_reached :
    parseExpr ((highestKinds 199).map bareToken) = .ok (highest 199, []) ∧
    (highest 199).height = nestingLimit * (nestingLimit + 1) / 2 ∧
    (highest 199).height ≤ nestingLimit * (nestingLimit + 1) / 2 ∧
    JoinsPlain plainKinds ∧
    parseExpr (plainKinds.map bareToken) =
      .ok (.concat (.call ⟨none, "F"⟩ []) (.concat plainOperand plainOperand), []) ∧
    (Expr.concat (.call ⟨none, "F"⟩ []) (.concat plainOperand plainOperand)).height ≤ nestingLimit := by
  have read := parse_expr_bare_tokens (chain_of_highest 199) (Nat.le_refl 200)
  have reached : (highest 199).height = nestingLimit * (nestingLimit + 1) / 2 := by
    rw [height_highest]
    decide +kernel
  obtain ⟨-, -, -, bounded⟩ := parse_expr_height _ _ _ read
  have pair := ChainOf.link (ChainOf.single (OperandOf.string "a")) (Or.inl rfl) (OperandOf.string "a")
  have plain := ChainOf.link (ChainOf.single (OperandOf.emptyCall none "F" rfl)) (Or.inl rfl) (OperandOf.parens pair)
  have plainRead := parse_expr_bare_tokens plain (by decide)
  obtain ⟨front, whole, limited, -⟩ := parse_expr_height _ _ _ plainRead
  rw [List.append_nil] at whole
  refine ⟨read, reached, bounded, plain_kinds_joins_plain, plainRead, limited ?_⟩
  rw [← whole, kinds_bare_tokens]
  exact plain_kinds_joins_plain

-- `('a' . 'a') . 'a' . 'a' ...` with 199 operands after the parentheses: one level deeper than the limit.
theorem height_above_nesting_limit :
    parseExpr ((longerKinds [.leftParen, .string "a", .dot, .string "a", .rightParen] 199).map bareToken) =
      .ok (longer (.concat plainOperand plainOperand) 199, []) ∧
    (longer (.concat plainOperand plainOperand) 199).height = 201 ∧
    ¬ ∀ ts e rest, parseExpr ts = .ok (e, rest) → e.height ≤ nestingLimit := by
  have pair := ChainOf.link (ChainOf.single (OperandOf.string "a")) (Or.inl rfl) (OperandOf.string "a")
  have whole := chain_of_longer (ChainOf.single (OperandOf.parens pair)) 199
  have read := parse_expr_bare_tokens whole (by decide)
  have high : (longer (.concat plainOperand plainOperand) 199).height = 201 := height_longer _ _ (by decide)
  refine ⟨read, high, fun bounded => ?_⟩
  have low : (longer (.concat plainOperand plainOperand) 199).height ≤ nestingLimit := bounded _ _ _ read
  rw [high] at low
  exact absurd low (by decide)

end ExScript
