import ExScript.Command.Index
import ExScript.Expr.Parser
import ExScript.Line.Lexed
import ExScript.Statement

set_option autoImplicit false

namespace ExScript

def atEnd : List Token → Bool
  | [] => true
  | t :: _ => t.kind == .endOfLine

def tokensText (ts : List Token) : String :=
  String.ofList ([' '].intercalate ((ts.map Token.text).filter fun text => !text.isEmpty))

def expectEnd (ts : List Token) : Except ParseError Unit :=
  match ts with
  | [] => .ok ()
  | t :: _ =>
      if t.kind = .endOfLine then .ok ()
      else .error (.trailing t.position (tokensText ts))

def takeBang : List Token → Bool × List Token
  | ⟨.bang, _, _⟩ :: rest => (true, rest)
  | ts => (false, ts)

def pathKeys (last : Position) : List Token → Except ParseError (List String × List Token)
  | ⟨.dot, _, _⟩ :: ⟨.name none key, _, _⟩ :: rest => do
      let (keys, rest) ← pathKeys last rest
      return (key :: keys, rest)
  | ⟨.dot, _, _⟩ :: rest => .error (.invalidFunctionName (placeOf last rest) .badKey)
  | ts => .ok ([], ts)

def functionName (last : Position) : List Token → Except ParseError (FunctionName × List Token)
  | [] => .error (.invalidFunctionName last (.missing .endOfLine))
  | t :: ts =>
      match t.kind with
      | .name scope first =>
          if FunctionName.allowsScope scope then do
            let (keys, rest) ← pathKeys last ts
            return (.ofPath scope first keys, rest)
          else .error (.invalidFunctionName t.position (.badScope scope))
      | other => .error (.invalidFunctionName t.position (.missing other))

def parameterList (last : Position) : List Token → Except ParseError (List String × List Token)
  | [] => .error (.expected last .parameter .endOfLine)
  | ⟨.name none _, _, _⟩ :: [] => .error (.expected last .commaOrRightParen .endOfLine)
  | ⟨.name none param, _, _⟩ :: t :: rest =>
      if t.kind = .comma then do
        let (params, rest) ← parameterList last rest
        return (param :: params, rest)
      else if t.kind = .rightParen then .ok ([param], rest)
      else .error (.expected t.position .commaOrRightParen t.kind)
  | t :: _ => .error (.expected t.position .parameter t.kind)

def parameters (last : Position) (ts : List Token) : Except ParseError (List String × List Token) := do
  match ← expect last .leftParen .leftParen ts with
  | ⟨.rightParen, _, _⟩ :: rest => return ([], rest)
  | ts => parameterList last ts

def flagsOfWords : List (String × Position) → Except ParseError Flags
  | [] => .ok .empty
  | (word, place) :: words =>
      match Flag.ofWord? word with
      | none => .error (.unknownFlag place word)
      | some flag => return (← flagsOfWords words).insert flag

def headerWords : List Token → List (String × Position) × List Token
  | ⟨.name none word, _, place⟩ :: ts =>
      let (words, rest) := headerWords ts
      ((word, place) :: words, rest)
  | ts => ([], ts)

def splitWords (offset : Nat) : List Char → List (Nat × List Char)
  | [] => []
  | c :: rest =>
      let next := offset + c.utf8Size
      let words := splitWords next rest
      if isBlank c then words
      else
        match words with
        | [] => [(offset, [c])]
        | (start, word) :: more =>
            if start = next then (offset, c :: word) :: more
            else (offset, [c]) :: (start, word) :: more

def isBareWord (word : String) : Bool :=
  !word.isEmpty && word.toList.all fun c => isLetter c || isDecimalDigit c || c == '_'

def argumentWords (text : String) (place : Position) : List (String × Position) :=
  let words := (splitWords 0 text.toList).takeWhile fun (_, word) => word.head? != some '"'
  words.map fun (offset, word) => (String.ofList word, ⟨place.line, place.column + offset⟩)

/-- The words of a line that lists flags: its first word is a flag, or no command while all its words are
bare. -/
def flagLine? (tokens : List Token) : Option (List (String × Position)) := do
  let (first, words) ← match tokens with
    | ⟨.name none first, _, place⟩ :: ⟨.endOfLine, _, _⟩ :: _ => some (first, [(first, place)])
    | ⟨.name none first, _, place⟩ :: ⟨.raw text, _, start⟩ :: _ =>
        some (first, (first, place) :: argumentWords text start)
    | _ => none
  if (Flag.ofWord? first).isSome then some words
  else if !isKnownCommand first.toList && words.all (isBareWord ·.1) then some words
  else none

def expressions (last : Position) (ts : List Token) : Except ParseError (List Expr) :=
  if atEnd ts then .ok []
  else
    match _read : (expression last).run ts with
    | .error error => .error error
    | .ok (e, rest) => return e :: (← expressions last rest)
termination_by ts.length
decreasing_by exact (expression last).shrinks _read

def variableNames : List Token → Except ParseError (List Variable)
  | [] => .ok []
  | t :: ts =>
      match t.kind with
      | .endOfLine => .ok []
      | .name scope name => return ⟨scope, name⟩ :: (← variableNames ts)
      | other => .error (.expected t.position .variable other)

def echoStatement (line : Nat) (last : Position) (ts : List Token) : Except ParseError Statement :=
  if atEnd ts then .error (.missingArgument line .echo)
  else return .echo (← expressions last ts)

def returnStatement (line : Nat) (last : Position) (ts : List Token) : Except ParseError Statement :=
  if atEnd ts then .error (.returnWithoutExpression line)
  else do
    let (value, rest) ← (expression last).run ts
    expectEnd rest
    return .return value

def assignOp (last : Position) : List Token → Except ParseError (AssignOp × List Token)
  | ⟨.equals, _, _⟩ :: rest => .ok (.assign, rest)
  | ⟨.dotEquals, _, _⟩ :: rest => .ok (.append, rest)
  | t :: _ => .error (.expected t.position .assignment t.kind)
  | [] => .error (.expected last .assignment .endOfLine)

def letStatement (line : Nat) (last : Position) (ts : List Token) : Except ParseError Statement :=
  match ts with
  | [] => .error (.missingArgument line .let)
  | t :: ts =>
      match t.kind with
      | .endOfLine => .error (.missingArgument line .let)
      | .name scope name => do
          let (op, rest) ← assignOp last ts
          let (value, rest) ← (expression last).run rest
          expectEnd rest
          return .assign ⟨scope, name⟩ op value
      | other => .error (.expected t.position .variable other)

def unletStatement (line : Nat) (ts : List Token) : Except ParseError Statement := do
  let (bang, rest) := takeBang ts
  match ← variableNames rest with
  | [] => .error (.missingArgument line .unlet)
  | targets => return .unlet bang targets

def callStatement (range : Option String) (last : Position) (ts : List Token) :
    Except ParseError Statement := do
  let (name, rest) ← functionName last ts
  let rest ← expect last .leftParen .leftParen rest
  let (args, rest) ← arguments last (expression last) rest
  expectEnd rest
  return .call range name args

def delfunctionStatement (last : Position) (ts : List Token) : Except ParseError Statement := do
  let (bang, rest) := takeBang ts
  let (name, rest) ← functionName last rest
  expectEnd rest
  return .delfunction bang name

def commandStatement (range : Option String) (ts : List Token) : Except ParseError Statement := do
  let (name, rest) := match ts with
    | ⟨.name _ name, _, _⟩ :: rest => (name, rest)
    | ts => ("", ts)
  let (bang, rest) := takeBang rest
  let (args, rest) := match rest with
    | ⟨.raw text, _, _⟩ :: rest => (text, rest)
    | ts => ("", ts)
  expectEnd rest
  return .command ⟨range, name, bang, args⟩

/-- Reads from the lines that are left. A fault leaves lines too: those after the one it was found on. -/
abbrev LineReader (α : Type) := EStateM ParseError (List LexedLine) α

def linesLeft {α : Type} : EStateM.Result ParseError (List LexedLine) α → List LexedLine
  | .ok _ lines => lines
  | .error _ lines => lines

def onThisLine {α : Type} (found : Except ParseError α) : LineReader α := fun lines =>
  match found with
  | .ok a => .ok a lines
  | .error error => .error error lines

structure StatementReader where
  run : LexedLine → LineReader Statement
  shrinks : ∀ (line : LexedLine) (lines : List LexedLine),
    (linesLeft (run line lines)).length ≤ lines.length

def flagLine : LineReader Flags := fun lines =>
  match lines with
  | ⟨_, .ok tokens⟩ :: rest =>
      match flagLine? tokens with
      | some words => onThisLine (flagsOfWords words) rest
      | none => .ok .empty lines
  | _ => .ok .empty lines

def endfunction? (line : LexedLine) : Option (List Token) :=
  match line.tokens with
  | .ok (⟨.keyword .endfunction, _, _⟩ :: rest) => some rest
  | _ => none

def functionBody (inner : StatementReader) (name : String) (header : Nat) (lines : List LexedLine) :
    EStateM.Result ParseError (List LexedLine) (List Statement) :=
  match lines with
  | [] => .error (.unterminatedFunction header name) []
  | line :: lines =>
      match endfunction? line with
      | some rest => onThisLine ((fun _ => []) <$> expectEnd rest) lines
      | none =>
          match _read : inner.run line lines with
          | .error error rest => .error error rest
          | .ok s rest =>
              match functionBody inner name header rest with
              | .error error rest => .error error rest
              | .ok body rest => .ok (s :: body) rest
termination_by lines.length
decreasing_by
  have := inner.shrinks line lines
  simp [_read, linesLeft] at this ⊢
  omega

def functionHeader (last : Position) (ts : List Token) :
    Except ParseError (FunctionHeader × List Token) := do
  let (replace, rest) := takeBang ts
  let (name, rest) ← functionName last rest
  let (params, rest) ← parameters last rest
  let (words, rest) := headerWords rest
  let flags ← flagsOfWords words
  expectEnd rest
  return (⟨name, params, flags, replace⟩, rest)

def flagsAfter (flags : Flags) : LineReader Flags :=
  if flags = .empty then flagLine else pure flags

-- A function declaration after its keyword; without `inner` it is one level too deep.
def functionStatement (inner : Option StatementReader) (number : Nat) (last : Position)
    (ts : List Token) : LineReader Statement := do
  let (header, rest) ← onThisLine (functionHeader last ts)
  let flags ← flagsAfter header.flags
  match inner with
  | none => throw (.nestingTooDeep (placeOf last rest))
  | some inner => do
      let body ← functionBody inner header.name.text number
      return .function { header with flags } body

def keywordStatement (inner : Option StatementReader) (k : Keyword) (range : Option String)
    (number : Nat) (last : Position) (ts : List Token) : LineReader Statement :=
  if range.isSome && k != .call then throw (.rangeNotAllowed number k)
  else
    match k with
    | .function => functionStatement inner number last ts
    | .endfunction => throw (.unexpectedEndfunction number)
    | .echo => onThisLine (echoStatement number last ts)
    | .return => onThisLine (returnStatement number last ts)
    | .let => onThisLine (letStatement number last ts)
    | .unlet => onThisLine (unletStatement number ts)
    | .call => onThisLine (callStatement range last ts)
    | .delfunction => onThisLine (delfunctionStatement last ts)

def takeRange : List Token → Option String × List Token
  | ⟨.range text, _, _⟩ :: rest => (some text, rest)
  | ts => (none, ts)

def leadingKeyword? : List Token → Option (Keyword × List Token)
  | ⟨.keyword k, _, _⟩ :: rest => some (k, rest)
  | _ => none

def statementFrom (inner : Option StatementReader) (line : LexedLine) : LineReader Statement :=
  match line.tokens with
  | .error error => throw (.lex error)
  | .ok tokens =>
      let (range, rest) := takeRange tokens
      match leadingKeyword? rest with
      | some (k, ts) => keywordStatement inner k range line.number (lastPlace tokens) ts
      | none => onThisLine (commandStatement range rest)

theorem lines_left_on_this_line {α : Type} (found : Except ParseError α) (lines : List LexedLine) :
    linesLeft (onThisLine found lines) = lines := by
  cases found <;> rfl

theorem lines_left_bind_le {α β : Type} {first : LineReader α} {next : α → LineReader β}
    {lines : List LexedLine} (firstFewer : (linesLeft (first lines)).length ≤ lines.length)
    (nextFewer : ∀ a rest, (linesLeft (next a rest)).length ≤ rest.length) :
    (linesLeft ((first >>= next) lines)).length ≤ lines.length := by
  show (linesLeft (EStateM.bind first next lines)).length ≤ lines.length
  unfold EStateM.bind
  cases taken : first lines with
  | error error rest => simpa [taken, linesLeft] using firstFewer
  | ok a rest =>
      rw [taken] at firstFewer
      exact Nat.le_trans (nextFewer a rest) firstFewer

theorem flag_line_shrinks (lines : List LexedLine) : (linesLeft (flagLine lines)).length ≤ lines.length := by
  unfold flagLine
  split
  · split
    · simp [lines_left_on_this_line]
    · exact Nat.le_refl _
  · exact Nat.le_refl _

theorem flags_after_shrinks (flags : Flags) (lines : List LexedLine) :
    (linesLeft (flagsAfter flags lines)).length ≤ lines.length := by
  unfold flagsAfter
  split
  · exact flag_line_shrinks lines
  · exact Nat.le_refl _

theorem function_body_shrinks (inner : StatementReader) (name : String) (header : Nat)
    (lines : List LexedLine) :
    (linesLeft (functionBody inner name header lines)).length ≤ lines.length := by
  fun_induction functionBody inner name header lines with
  | case1 => exact Nat.le_refl _
  | case2 line lines rest ended => simp [lines_left_on_this_line]
  | case3 line lines _ error rest read =>
      have first := inner.shrinks line lines
      simp [read, linesLeft] at first ⊢
      omega
  | case4 line lines _ s rest read error rest' next ih =>
      have first := inner.shrinks line lines
      simp [read, next, linesLeft] at first ih ⊢
      omega
  | case5 line lines _ s rest read body rest' next ih =>
      have first := inner.shrinks line lines
      simp [read, next, linesLeft] at first ih ⊢
      omega

theorem function_statement_shrinks (inner : Option StatementReader) (number : Nat) (last : Position)
    (ts : List Token) (lines : List LexedLine) :
    (linesLeft (functionStatement inner number last ts lines)).length ≤ lines.length := by
  refine lines_left_bind_le (Nat.le_of_eq (by rw [lines_left_on_this_line])) fun (header, rest) lines => ?_
  refine lines_left_bind_le (flags_after_shrinks _ _) fun flags lines => ?_
  cases inner with
  | none => exact Nat.le_refl _
  | some inner =>
      exact lines_left_bind_le (function_body_shrinks _ _ _ _) fun body lines => Nat.le_refl _

theorem keyword_statement_shrinks (inner : Option StatementReader) (k : Keyword) (range : Option String)
    (number : Nat) (last : Position) (ts : List Token) (lines : List LexedLine) :
    (linesLeft (keywordStatement inner k range number last ts lines)).length ≤ lines.length := by
  unfold keywordStatement
  split
  · exact Nat.le_refl _
  · cases k
    case function => exact function_statement_shrinks _ _ _ _ _
    case endfunction => exact Nat.le_refl _
    all_goals exact Nat.le_of_eq (by rw [lines_left_on_this_line])

theorem statement_from_shrinks (inner : Option StatementReader) (line : LexedLine)
    (lines : List LexedLine) : (linesLeft (statementFrom inner line lines)).length ≤ lines.length := by
  obtain ⟨number, tokens⟩ := line
  cases tokens with
  | error error => exact Nat.le_refl _
  | ok tokens =>
      dsimp only [statementFrom]
      cases leadingKeyword? (takeRange tokens).2 with
      | some found => exact keyword_statement_shrinks _ _ _ _ _ _ _
      | none => exact Nat.le_of_eq (by rw [lines_left_on_this_line])

def statement : Nat → StatementReader
  | 0 => ⟨statementFrom none, statement_from_shrinks none⟩
  | room + 1 => ⟨statementFrom (some (statement room)), statement_from_shrinks (some (statement room))⟩

end ExScript
