import ExScript.Line.Logical
import ExScript.Text.Decimal
import ExScript.Token

set_option autoImplicit false

namespace ExScript

inductive LexCause where
  | unterminatedString (quote : Char)
  | unexpectedCharacter (found : Char)
deriving DecidableEq, Repr

structure LexFault where
  cause : LexCause
  offset : Nat
deriving DecidableEq, Repr

structure LexError where
  cause : LexCause
  position : Position
deriving DecidableEq, Repr

structure Lexeme where
  kind : TokenKind
  text : List Char
  offset : Nat
deriving DecidableEq, Repr

def isLetter (c : Char) : Bool := ('a' ≤ c && c ≤ 'z') || ('A' ≤ c && c ≤ 'Z')

def isNameStart (c : Char) : Bool := isLetter c || c == '_'

-- Characters of a name; `#` divides the parts of a name that is loaded on demand.
def isNameChar (c : Char) : Bool := isLetter c || isDecimalDigit c || c == '_' || c == '#'

def isRangeChar (c : Char) : Bool := isDecimalDigit c || ['.', '$', '%', ',', ';', '+', '-'].contains c

def isSymbolCommand (c : Char) : Bool := ['!', '&', '<', '>', '=', '@', '*', '~', '#'].contains c

structure StringBody (s : List Char) where
  value : List Char
  text : List Char
  rest : List Char
  covers : text ++ rest = s

def literalBody : (s : List Char) → Option (StringBody s)
  | [] => none
  | '\'' :: '\'' :: rest => (literalBody rest).map fun b =>
      ⟨'\'' :: b.value, '\'' :: '\'' :: b.text, b.rest, by simp [b.covers]⟩
  | '\'' :: rest => some ⟨[], ['\''], rest, rfl⟩
  | c :: rest => (literalBody rest).map fun b => ⟨c :: b.value, c :: b.text, b.rest, by simp [b.covers]⟩

def unescape (c : Char) : Char :=
  match c with
  | 'n' => '\n'
  | 't' => '\t'
  | 'r' => '\r'
  | 'e' => '\x1b'
  | c => c

def escapedBody : (s : List Char) → Option (StringBody s)
  | [] => none
  | '"' :: rest => some ⟨[], ['"'], rest, rfl⟩
  | '\\' :: c :: rest => (escapedBody rest).map fun b =>
      ⟨unescape c :: b.value, '\\' :: c :: b.text, b.rest, by simp [b.covers]⟩
  | ['\\'] => none
  | c :: rest => (escapedBody rest).map fun b => ⟨c :: b.value, c :: b.text, b.rest, by simp [b.covers]⟩

structure Scanned (s : List Char) where
  kind : TokenKind
  text : List Char
  rest : List Char
  covers : text ++ rest = s
  nonempty : text ≠ []

theorem Scanned.rest_shorter {s : List Char} (t : Scanned s) : t.rest.length < s.length := by
  have whole := congrArg List.length t.covers
  have positive := List.length_pos_iff.mpr t.nonempty
  simp at whole
  omega

def scanString {rest : List Char} (quote : Char) (body : Option (StringBody rest)) :
    Except LexFault (Scanned (quote :: rest)) :=
  match body with
  | none => .error ⟨.unterminatedString quote, 0⟩
  | some b => .ok ⟨.string (String.ofList b.value), quote :: b.text, b.rest, by simp [b.covers], by simp⟩

def scanNumber (c : Char) (rest : List Char) : Scanned (c :: rest) :=
  let digits := c :: rest.takeWhile isDecimalDigit
  ⟨.number (saturate (decimalValue digits)), digits, rest.dropWhile isDecimalDigit, by simp [digits],
    by simp [digits]⟩

def scanPlainName (c : Char) (rest : List Char) : Scanned (c :: rest) :=
  let name := c :: rest.takeWhile isNameChar
  ⟨.name none (String.ofList name), name, rest.dropWhile isNameChar, by simp [name], by simp [name]⟩

def scanName (c : Char) : (rest : List Char) → Scanned (c :: rest)
  | ':' :: d :: tail =>
      match Scope.ofLetter? c, isNameChar d with
      | some scope, true =>
          let name := d :: tail.takeWhile isNameChar
          ⟨.name (some scope) (String.ofList name), c :: ':' :: name, tail.dropWhile isNameChar,
            by simp [name], by simp⟩
      | _, _ => scanPlainName c (':' :: d :: tail)
  | rest => scanPlainName c rest

def scanToken : (c : Char) → (rest : List Char) → Except LexFault (Scanned (c :: rest))
  | '\'', rest => scanString '\'' (literalBody rest)
  | '"', rest => scanString '"' (escapedBody rest)
  | '(', rest => .ok ⟨.leftParen, ['('], rest, rfl, by simp⟩
  | ')', rest => .ok ⟨.rightParen, [')'], rest, rfl, by simp⟩
  | ',', rest => .ok ⟨.comma, [','], rest, rfl, by simp⟩
  | '!', rest => .ok ⟨.bang, ['!'], rest, rfl, by simp⟩
  | '=', rest => .ok ⟨.equals, ['='], rest, rfl, by simp⟩
  | '.', '.' :: '.' :: _ => .error ⟨.unexpectedCharacter '.', 2⟩
  | '.', '.' :: rest => .ok ⟨.dotDot, ['.', '.'], rest, rfl, by simp⟩
  | '.', '=' :: rest => .ok ⟨.dotEquals, ['.', '='], rest, rfl, by simp⟩
  | '.', rest => .ok ⟨.dot, ['.'], rest, rfl, by simp⟩
  | c, rest =>
      if isDecimalDigit c then .ok (scanNumber c rest)
      else if isNameStart c then .ok (scanName c rest)
      else .error ⟨.unexpectedCharacter c, 0⟩

/-- The expression tokens of a text that follows the keyword `k` and starts at `offset`. Once `closed`, a
double quote begins a comment. A function header is closed by its right parenthesis. -/
def scanExpression (k : Keyword) (closed : Bool) (offset : Nat) (s : List Char) :
    Except LexFault (List Lexeme) :=
  match s with
  | [] => .ok []
  | c :: rest =>
      if isBlank c then scanExpression k closed (offset + c.utf8Size) rest
      else if closed && c == '"' then .ok []
      else
        match scanToken c rest with
        | .error fault => .error { fault with offset := offset + fault.offset }
        | .ok t => do
            let closed := closed || (k == .function && t.kind == .rightParen)
            let more ← scanExpression k closed (offset + byteLength t.text) t.rest
            return ⟨t.kind, t.text, offset⟩ :: more
termination_by s.length
decreasing_by
  · simp
  · exact t.rest_shorter

def scanRaw (offset : Nat) (s : List Char) : List Lexeme :=
  match dropBlanksEnd (dropBlanks s) with
  | [] => []
  | raw => [⟨.raw (String.ofList raw), raw, offset + byteLength (s.takeWhile isBlank)⟩]

def scanArguments (offset : Nat) : List Char → List Lexeme
  | '!' :: rest => ⟨.bang, ['!'], offset⟩ :: scanRaw (offset + 1) rest
  | s => scanRaw offset s

def scanSymbol (offset : Nat) : List Char → Except LexFault (List Lexeme)
  | [] => .ok []
  | c :: rest =>
      if isSymbolCommand c then
        .ok (⟨.name none (String.ofList [c]), [c], offset⟩ :: scanRaw (offset + 1) rest)
      else .error ⟨.unexpectedCharacter c, offset⟩

def scanCommand (offset : Nat) (s : List Char) : Except LexFault (List Lexeme) :=
  let word := s.takeWhile isLetter
  let rest := s.dropWhile isLetter
  match Keyword.ofWord? word with
  | some k => do
      let more ← scanExpression k (k == .endfunction) (offset + byteLength word) rest
      return ⟨.keyword k, word, offset⟩ :: more
  | none =>
      if word.isEmpty then scanSymbol offset s
      else .ok (⟨.name none (String.ofList word), word, offset⟩ ::
        scanArguments (offset + byteLength word) rest)

/-- The line range that a text starts with, and what follows it. A quote takes the mark after it along. -/
def spanRange : List Char → List Char × List Char
  | [] => ([], [])
  | '\'' :: mark :: rest => let (range, rest) := spanRange rest; ('\'' :: mark :: range, rest)
  | c :: rest =>
      if isRangeChar c then let (range, rest) := spanRange rest; (c :: range, rest)
      else ([], c :: rest)

def isLineLead (c : Char) : Bool := isBlank c || c == ':'

def scanLine (s : List Char) : Except LexFault (List Lexeme) :=
  match s.dropWhile isLineLead with
  | [] => .ok []
  | '"' :: _ => .ok []
  | body => do
      let start := byteLength (s.takeWhile isLineLead)
      let (range, rest) := spanRange body
      let gap := rest.takeWhile isBlank
      let command ← scanCommand (start + byteLength range + byteLength gap) (dropBlanks rest)
      let ranges := if range.isEmpty then [] else [⟨.range (String.ofList range), range, start⟩]
      return ranges ++ command ++ [⟨.endOfLine, [], byteLength s⟩]

def LogicalLine.token (l : LogicalLine) (x : Lexeme) : Token := ⟨x.kind, x.text, l.position x.offset⟩

def LogicalLine.tokens (l : LogicalLine) : Except LexError (List Token) :=
  match scanLine l.text with
  | .error fault => .error ⟨fault.cause, l.position fault.offset⟩
  | .ok lexemes => .ok (lexemes.map l.token)

def Position.describe (p : Position) : String :=
  "第 " ++ toString p.line ++ " 行第 " ++ toString p.column ++ " 列："

def LexError.message (e : LexError) : String :=
  e.position.describe ++
    match e.cause with
    | .unterminatedString quote => "字符串字面量未闭合，缺少 " ++ String.ofList [quote]
    | .unexpectedCharacter found => "无法识别的字符 '" ++ String.ofList [found] ++ "'"

end ExScript
