import ExScript.Proofs.Statement.Printer

set_option autoImplicit false

namespace ExScript

mutual

def exprKinds : Expr → List TokenKind
  | .literal (.str s) => [.string s]
  | .literal (.num n) => [.number n]
  | .variable v => [.name v.scope v.name]
  | .concat left right =>
      exprKinds left ++ .dot ::
        (if right.isConcat then .leftParen :: (exprKinds right ++ [.rightParen]) else exprKinds right)
  | .call name args =>
      .name name.scope name.name :: .leftParen :: ([.comma].intercalate (exprsKinds args) ++ [.rightParen])

def exprsKinds : List Expr → List (List TokenKind)
  | [] => []
  | e :: es => exprKinds e :: exprsKinds es

end

def pathKinds (scope : Option Scope) (first : String) (keys : List String) : List TokenKind :=
  .name scope first :: keys.flatMap fun key => [.dot, .name none key]

def FunctionName.path (f : FunctionName) : List (List Char) :=
  (f.name.toList.drop (if f.isDotted then (scopeMark f.scope).toList.length else 0)).splitOn '.'

def nameKinds (f : FunctionName) : List TokenKind :=
  match f.path.map String.ofList with
  | [] => []
  | first :: keys => pathKinds f.scope first keys

def rangeKinds (range : Option String) : List TokenKind := (range.map TokenKind.range).toList

def bangKinds (bang : Bool) : List TokenKind := if bang then [.bang] else []

def assignOpKind : AssignOp → TokenKind
  | .assign => .equals
  | .append => .dotEquals

def headerKinds (header : FunctionHeader) : List TokenKind :=
  .keyword .function :: (bangKinds header.replace ++ (nameKinds header.name ++
    .leftParen :: ([.comma].intercalate (header.params.map fun param => [.name none param]) ++
      .rightParen :: ((header.flags.toList.map fun flag => .name none flag.word) ++ [.endOfLine]))))

def signatureKinds (header : FunctionHeader) : List TokenKind :=
  bangKinds header.replace ++ (nameKinds header.name ++
    .leftParen :: [.comma].intercalate (header.params.map fun param => [.name none param]))

-- What follows the keyword of a header, with any words in the place of its flags.
def headedKinds (header : FunctionHeader) (words : List String) : List TokenKind :=
  signatureKinds header ++ .rightParen :: ((words.map fun word => .name none word) ++ [.endOfLine])

def wordKinds (name : String) : List TokenKind := if name = "" then [] else [.name none name]

def argumentKinds (args : String) : List TokenKind := if args = "" then [] else [.raw args]

def unrangedKinds (c : HostCommand) : List TokenKind :=
  wordKinds c.name ++ (bangKinds c.bang ++ (argumentKinds c.args ++ [.endOfLine]))

def commandKinds (c : HostCommand) : List TokenKind := rangeKinds c.range ++ unrangedKinds c

mutual

def statementKinds : Statement → List (List TokenKind)
  | .function header body =>
      headerKinds header :: (statementsKinds body ++ [[.keyword .endfunction, .endOfLine]])
  | .echo exprs => [.keyword .echo :: ((exprsKinds exprs).flatten ++ [.endOfLine])]
  | .return value => [.keyword .return :: (exprKinds value ++ [.endOfLine])]
  | .assign target op value =>
      [.keyword .let :: .name target.scope target.name :: assignOpKind op :: (exprKinds value ++ [.endOfLine])]
  | .unlet bang targets =>
      [.keyword .unlet :: (bangKinds bang ++ ((targets.map fun v => .name v.scope v.name) ++ [.endOfLine]))]
  | .call range name args =>
      [rangeKinds range ++ .keyword .call :: (nameKinds name ++
        .leftParen :: ([.comma].intercalate (exprsKinds args) ++ [.rightParen, .endOfLine]))]
  | .delfunction bang name => [.keyword .delfunction :: (bangKinds bang ++ (nameKinds name ++ [.endOfLine]))]
  | .command c => [commandKinds c]

def statementsKinds : List Statement → List (List TokenKind)
  | [] => []
  | s :: rest => statementKinds s ++ statementsKinds rest

end

theorem are_spellable_of_mem (es : List Expr) (spellable : ∀ e ∈ es, e.isSpellable = true) :
    areSpellable es = true := by
  induction es with
  | nil => rfl
  | cons e es ih =>
      rw [areSpellable, spellable e (by simp), ih fun e' member => spellable e' (by simp [member])]
      rfl

theorem no_dot_of_name_chars {s : List Char} (chars : s.all isNameChar = true) : '.' ∉ s := by
  intro member
  have dotted := List.all_eq_true.mp chars '.' member
  exact absurd dotted (by decide)

theorem is_name_char_of_is_name_start {c : Char} (starts : isNameStart c = true) : isNameChar c = true := by
  rcases (Bool.or_eq_true _ _).mp starts with letter | underscore
  · simp [isNameChar, letter]
  · simp [isNameChar, underscore]

theorem is_name_cases {name : String} (named : isName name = true) :
    ∃ c s, name = String.ofList (c :: s) ∧ isNameStart c = true ∧ s.all isNameChar = true := by
  rw [isName] at named
  split at named
  · cases named
  · rename_i c s spelled
    rw [Bool.and_eq_true] at named
    exact ⟨c, s, by rw [← spelled, String.ofList_toList], named⟩

theorem name_chars_of_is_name {name : String} (named : isName name = true) : name.toList.all isNameChar = true := by
  obtain ⟨c, s, rfl, starts, chars⟩ := is_name_cases named
  rw [String.toList_ofList, List.all_cons, is_name_char_of_is_name_start starts, chars]
  rfl

theorem name_chars_of_is_scoped_name {scope : Option Scope} {name : String} (named : isScopedName scope name = true) :
    name.toList.all isNameChar = true := by
  cases scope with
  | none => exact name_chars_of_is_name named
  | some scope => exact ((Bool.and_eq_true _ _).mp named).2

theorem to_list_of_path (scope : Option Scope) (first key : String) (keys : List String) :
    (FunctionName.ofPath scope first (key :: keys)).name.toList =
      (scopeMark scope).toList ++ ['.'].intercalate ((first :: key :: keys).map String.toList) := by
  simp [FunctionName.ofPath, String.toList_intercalate]

theorem is_dotted_of_path (scope : Option Scope) (first key : String) (keys : List String) :
    (FunctionName.ofPath scope first (key :: keys)).isDotted = true := by
  rw [FunctionName.isDotted, to_list_of_path]
  simp

theorem is_dotted_plain (scope : Option Scope) (first : String) (plain : '.' ∉ first.toList) :
    (FunctionName.ofPath scope first []).isDotted = false := by
  simpa [FunctionName.isDotted, FunctionName.ofPath] using plain

theorem of_path_scope (scope : Option Scope) (first : String) (keys : List String) :
    (FunctionName.ofPath scope first keys).scope = scope := by
  cases keys <;> rfl

theorem path_of_path (scope : Option Scope) (first : String) (keys : List String)
    (plain : ∀ part ∈ first :: keys, '.' ∉ part.toList) :
    (FunctionName.ofPath scope first keys).path = (first :: keys).map String.toList := by
  rw [FunctionName.path, of_path_scope]
  have parts : ∀ part ∈ (first :: keys).map String.toList, '.' ∉ part := by simpa using plain
  cases keys with
  | nil =>
      rw [is_dotted_plain scope first (plain first (by simp))]
      simpa [FunctionName.ofPath] using List.splitOn_intercalate '.' parts (by simp)
  | cons key keys =>
      rw [is_dotted_of_path, to_list_of_path, if_pos rfl, List.drop_left]
      exact List.splitOn_intercalate '.' parts (by simp)

theorem name_kinds_of_path {scope : Option Scope} {first : String} {keys : List String}
    (firstNamed : isScopedName scope first = true) (keysNamed : ∀ key ∈ keys, isName key = true) :
    nameKinds (.ofPath scope first keys) = pathKinds scope first keys := by
  rw [nameKinds, path_of_path, of_path_scope]
  · simp
  · intro part member
    rcases List.mem_cons.mp member with rfl | member
    · exact no_dot_of_name_chars (name_chars_of_is_scoped_name firstNamed)
    · exact no_dot_of_name_chars (name_chars_of_is_name (keysNamed part member))

theorem name_kinds_head {f : FunctionName} (printable : f.Printable) (ks : List TokenKind) :
    (nameKinds f ++ ks).head? ≠ some .bang := by
  obtain ⟨-, first, keys, firstNamed, keysNamed, path⟩ := printable
  rw [path, name_kinds_of_path firstNamed keysNamed]
  simp [pathKinds]

end ExScript
