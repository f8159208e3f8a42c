import ExScript.Finding
import ExScript.Script.Parser

set_option autoImplicit false

namespace ExScript

inductive Defect where
  | duplicateFunction (name : String)
  | strayReturn
  | argumentOutside (name : String)
  | unknownArgument (function name : String)
  | strayDict (name : String)
deriving DecidableEq, Repr

namespace Defect

def level : Defect → Level
  | duplicateFunction _ | strayReturn => .error
  | argumentOutside _ | unknownArgument .. => .warn
  | strayDict _ => .info

def message : Defect → String
  | duplicateFunction name => "函数 " ++ name ++ " 重复定义"
  | strayReturn => "return 不在函数内"
  | argumentOutside name => "函数外引用了参数 a:" ++ name
  | unknownArgument function name => "函数 " ++ function ++ " 没有参数 " ++ name
  | strayDict name => "函数 " ++ name ++ " 带 dict 标志，但不是字典函数"

def detail : Defect → Option String
  | duplicateFunction _ => some "使用 function! 替换已有定义"
  | _ => none

def finding (d : Defect) (script : String) (line : Option Nat) : Finding :=
  ⟨d.level, script, line, d.message, d.detail⟩

end Defect

def Statement.references : Statement → List Variable
  | .echo exprs => Expr.referencesOf exprs
  | .return value => value.references
  | .assign _ _ value => value.references
  | .call _ _ args => Expr.referencesOf args
  | .function .. | .unlet .. | .delfunction .. | .command _ => []

def argumentDefect? (header : Option FunctionHeader) (v : Variable) : Option Defect :=
  if v.scope = some .argument ∧ v.name ≠ "0" then
    match header with
    | none => some (.argumentOutside v.name)
    | some header =>
        if v.name ∈ header.params then none
        else some (.unknownArgument header.name.text v.name)
  else none

def argumentDefects (header : Option FunctionHeader) (s : Statement) : List Defect :=
  s.references.filterMap (argumentDefect? header)

def dictDefects (header : FunctionHeader) : List Defect :=
  if header.flags.dict && !header.name.isDotted then [.strayDict header.name.text] else []

mutual

def innerDefects (header : FunctionHeader) : Statement → List Defect
  | .function inner body => dictDefects inner ++ bodyDefects inner body
  | s => argumentDefects (some header) s

def bodyDefects (header : FunctionHeader) : List Statement → List Defect
  | [] => []
  | s :: rest => innerDefects header s ++ bodyDefects header rest

end

def FunctionHeader.identity (header : FunctionHeader) : Bool × String :=
  (header.name.scope = some .script, header.name.name)

def topDefects (defined : List (Bool × String)) : Statement → List Defect
  | .function header body =>
      (if header.identity ∈ defined ∧ !header.replace then [.duplicateFunction header.name.text] else []) ++
        dictDefects header ++ bodyDefects header body
  | .return _ => [.strayReturn]
  | s => argumentDefects none s

def definedAfter (defined : List (Bool × String)) : Statement → List (Bool × String)
  | .function header _ => header.identity :: defined
  | _ => defined

def defectsFrom (defined : List (Bool × String)) :
    List Statement → List Nat → List (Option Nat × Defect)
  | [], _ => []
  | s :: rest, lines =>
      (topDefects defined s).map (lines.head?, ·) ++
        defectsFrom (definedAfter defined s) rest lines.tail

namespace Script

def check (s : Script) : Report :=
  (defectsFrom [] s.statements s.lines).map fun (line, d) => d.finding s.id line

def checkText (id : String) (text : List Char) : Report :=
  let (script, errors) := parseLenient id text
  errors.map (Finding.ofParseError id) ++ script.check

def functions (s : Script) : List (FunctionHeader × List Statement) :=
  s.statements.filterMap fun
    | .function header body => some (header, body)
    | _ => none

end Script

end ExScript
