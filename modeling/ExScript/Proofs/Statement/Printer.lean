import ExScript.Statement.Parser

set_option autoImplicit false

namespace ExScript

def escapeChar (c : Char) : List Char :=
  if c = '\\' then ['\\', '\\']
  else if c = '"' then ['\\', '"']
  else if c = '\n' then ['\\', 'n']
  else if c = '\r' then ['\\', 'r']
  else [c]

def printValue : Value → List Char
  | .str s => '"' :: (s.toList.flatMap escapeChar ++ ['"'])
  | .num n => (Value.num n).text.toList

def Expr.isConcat : Expr → Bool
  | .concat _ _ => true
  | _ => false

def commaSeparated (texts : List (List Char)) : List Char := [',', ' '].intercalate texts

def spaced (texts : List (List Char)) : List Char := texts.flatMap (' ' :: ·)

-- The left side of a concatenation is printed flat, since chains associate to the left.
mutual

def printExpr : Expr → List Char
  | .literal value => printValue value
  | .variable v => v.text.toList
  | .concat left right =>
      printExpr left ++ ' ' :: '.' :: ' ' ::
        (if right.isConcat then '(' :: (printExpr right ++ [')']) else printExpr right)
  | .call name args => name.text.toList ++ '(' :: (commaSeparated (printExprs args) ++ [')'])

def printExprs : List Expr → List (List Char)
  | [] => []
  | e :: es => printExpr e :: printExprs es

end

def printBang (bang : Bool) : List Char := if bang then ['!'] else []

def printRange (range : Option String) : List Char := (range.map String.toList).getD []

def printAssignOp : AssignOp → List Char
  | .assign => ['=']
  | .append => ['.', '=']

def printHeader (header : FunctionHeader) : List Char :=
  Keyword.function.name.toList ++ (printBang header.replace ++ ' ' :: (header.name.text.toList ++
    '(' :: (commaSeparated (header.params.map String.toList) ++
      ')' :: spaced (header.flags.toList.map fun flag => flag.word.toList))))

def printArguments (args : String) : List Char := if args = "" then [] else ' ' :: args.toList

def printCommand (c : HostCommand) : List Char :=
  printRange c.range ++ (c.name.toList ++ (printBang c.bang ++ printArguments c.args))

mutual

def printStatement : Statement → List (List Char)
  | .function header body =>
      printHeader header :: (printStatements body ++ [Keyword.endfunction.name.toList])
  | .echo exprs => [Keyword.echo.name.toList ++ spaced (printExprs exprs)]
  | .return value => [Keyword.return.name.toList ++ ' ' :: printExpr value]
  | .assign target op value =>
      [Keyword.let.name.toList ++ ' ' :: (target.text.toList ++ ' ' :: (printAssignOp op ++ ' ' :: printExpr value))]
  | .unlet bang targets =>
      [Keyword.unlet.name.toList ++ (printBang bang ++ spaced (targets.map fun v => v.text.toList))]
  | .call range name args =>
      [printRange range ++ (Keyword.call.name.toList ++ ' ' :: (name.text.toList ++
        '(' :: (commaSeparated (printExprs args) ++ [')'])))]
  | .delfunction bang name => [Keyword.delfunction.name.toList ++ (printBang bang ++ ' ' :: name.text.toList)]
  | .command c => [printCommand c]

def printStatements : List Statement → List (List Char)
  | [] => []
  | s :: rest => printStatement s ++ printStatements rest

end

def printText (statements : List Statement) : List Char :=
  (printStatements statements).flatMap fun line => line ++ ['\n']

def isName (name : String) : Bool :=
  match name.toList with
  | [] => false
  | c :: rest => isNameStart c && rest.all isNameChar

-- A name right after a scope may also start with a digit.
def isScopedName (scope : Option Scope) (name : String) : Bool :=
  match scope with
  | none => isName name
  | some _ => !name.toList.isEmpty && name.toList.all isNameChar

-- A first part and dictionary keys after it, of which there may be none.
def FunctionName.Printable (f : FunctionName) : Prop :=
  FunctionName.allowsScope f.scope = true ∧ ∃ first keys,
    isScopedName f.scope first = true ∧ (∀ key ∈ keys, isName key = true) ∧ f = .ofPath f.scope first keys

mutual

def Expr.isSpellable : Expr → Bool
  | .literal (.str _) => true
  | .literal (.num n) => decide (0 ≤ n.toInt)
  | .variable v => isScopedName v.scope v.name
  | .concat left right => left.isSpellable && right.isSpellable
  | .call name args => FunctionName.allowsScope name.scope && isScopedName name.scope name.name && areSpellable args

def areSpellable : List Expr → Bool
  | [] => true
  | e :: es => e.isSpellable && areSpellable es

end

def Expr.operands : Expr → Nat
  | .concat left _ => left.operands + 1
  | _ => 1

-- How deep the text of an expression nests. An operand in parentheses is a level deeper than a plain one.
mutual

def Expr.need : Expr → Nat
  | .literal _ | .variable _ => 1
  | .concat left right => max left.need (left.operands + right.need + if right.isConcat then 1 else 0)
  | .call _ args => 1 + needOf args

def needOf : List Expr → Nat
  | [] => 0
  | e :: es => max e.need (needOf es)

end

def Expr.Printable (e : Expr) : Prop := e.isSpellable = true ∧ e.need ≤ 200

instance (e : Expr) : Decidable e.Printable := inferInstanceAs (Decidable (_ ∧ _))

-- Range characters, and marks that a quote takes along.
def isRangeText : List Char → Bool
  | [] => true
  | '\'' :: mark :: rest => mark != '\n' && isRangeText rest
  | c :: rest => isRangeChar c && isRangeText rest

def RangePrintable (range : Option String) : Prop :=
  ∀ text, range = some text → text ≠ "" ∧ isRangeText text.toList = true

-- A command is a word that is no keyword, a symbol, or the jump that a range alone means. At the end of a
-- line a carriage return would be lost.
inductive CommandName : HostCommand → Prop
  | word (c : HostCommand) (filled : c.name ≠ "") (letters : c.name.toList.all isLetter = true)
      (noKeyword : Keyword.ofWord? c.name.toList = none) : CommandName c
  | symbol (c : HostCommand) (mark : Char) (known : isSymbolCommand mark = true)
      (named : c.name = String.ofList [mark]) (plain : c.bang = false) : CommandName c
  | jump (c : HostCommand) (text : String) (ranged : c.range = some text) (named : c.name = "")
      (plain : c.bang = false) (bare : c.args = "") (kept : text.toList.getLast? ≠ some '\r') : CommandName c

structure HostCommand.Printable (c : HostCommand) : Prop where
  range : RangePrintable c.range
  name : CommandName c
  noBreak : '\n' ∉ c.args.toList
  noBlankFirst : ∀ b, c.args.toList.head? = some b → isBlank b = false
  noBlankLast : ∀ b, c.args.toList.getLast? = some b → isBlank b = false

def wordsOf (args : String) : List String :=
  ((splitWords 0 args.toList).takeWhile fun (_, word) => word.head? != some '"').map
    fun (_, word) => String.ofList word

-- Whether the first line of a body would be taken for the flags of its function.
def ListsFlags : List Statement → Prop
  | .command ⟨none, name, false, args⟩ :: _ =>
      (Flag.ofWord? name).isSome = true ∨
        isKnownCommand name.toList = false ∧ ∀ word ∈ name :: wordsOf args, isBareWord word = true
  | _ => False

mutual

def Statement.Printable : Statement → Prop
  | .function header body =>
      header.name.Printable ∧ (∀ param ∈ header.params, isName param = true) ∧
        (header.flags = .empty → ¬ ListsFlags body) ∧ AllPrintable body
  | .echo exprs => exprs ≠ [] ∧ ∀ e ∈ exprs, e.Printable
  | .return value => value.Printable
  | .assign target _ value => isScopedName target.scope target.name = true ∧ value.Printable
  | .unlet _ targets => targets ≠ [] ∧ ∀ v ∈ targets, isScopedName v.scope v.name = true
  | .call range name args => RangePrintable range ∧ name.Printable ∧ ∀ e ∈ args, e.Printable
  | .delfunction _ name => name.Printable
  | .command c => c.Printable

def AllPrintable : List Statement → Prop
  | [] => True
  | s :: rest => s.Printable ∧ AllPrintable rest

end

mutual

def Statement.nesting : Statement → Nat
  | .function _ body => nestingOf body + 1
  | _ => 0

def nestingOf : List Statement → Nat
  | [] => 0
  | s :: rest => max s.nesting (nestingOf rest)

end

def startLines (number : Nat) : List Statement → List Nat
  | [] => []
  | s :: rest => number :: startLines (number + (printStatement s).length) rest

end ExScript
