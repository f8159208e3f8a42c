import ExScript.Cli.Outcome
import ExScript.Files
import ExScript.Host.Recorder
import ExScript.Script.Check
import ExScript.Session.Run

set_option autoImplicit false

namespace ExScript

inductive SourceFault where
  | unreadable (path : String) (error : ReadError)
  | unparsed (path : String) (error : ParseError)
  | stopped (path : String) (error : RuntimeError)
  | defective
deriving DecidableEq, Repr

def SourceFault.message : SourceFault → String
  | unreadable path error => "无法读取文件: " ++ path ++ ": " ++ error.message
  | unparsed path error => "解析失败: " ++ path ++ ": " ++ error.message
  | stopped path error => ": ".intercalate (("执行失败: " ++ path) :: error.messages)
  | defective => "脚本检查发现错误"

def settingsAt (files : Files) (path : String) : Settings :=
  match files.read path with
  | .error _ => .default
  | .ok text =>
      match Settings.parse text with
      | .error _ => .default
      | .ok settings => settings

def readScript (files : Files) (path : String) : Except SourceFault (List Char) :=
  (files.read path).mapError (.unreadable path)

def sourceFile (files : Files) (path : String) : EStateM SourceFault (World Recorder) PUnit := fun w =>
  match readScript files path with
  | .error fault => .error fault w
  | .ok text =>
      match Script.parse path text with
      | .error e => .error (.unparsed path e) w
      | .ok script =>
          match source script w with
          | .error e w => .error (.stopped path e) w
          | .ok _ w => .ok ⟨⟩ w

def sourceFiles (files : Files) : List String → EStateM SourceFault (World Recorder) PUnit
  | [] => pure ⟨⟩
  | path :: rest => do
      sourceFile files path
      sourceFiles files rest

def interpreterName : String := "host-cli"

def sourceOutcome (files : Files) (settings : Settings) (paths : List String) : Outcome :=
  match sourceFiles files paths (.start (.ofSettings settings) .empty) with
  | .ok _ w => ⟨0, w.host.messages.reverse, []⟩
  | .error fault w => ⟨1, w.host.messages.reverse, [Outcome.complaint interpreterName fault.message]⟩

def readScripts (files : Files) : List String → Except SourceFault (List (String × List Char))
  | [] => .ok []
  | path :: rest => do
      let text ← readScript files path
      return (path, text) :: (← readScripts files rest)

def checkTexts (scripts : List (String × List Char)) : Report :=
  scripts.flatMap fun (path, text) => Script.checkText path text

def checkOutcome (files : Files) (paths : List String) : Outcome :=
  match readScripts files paths with
  | .error fault => ⟨1, [], [Outcome.complaint interpreterName fault.message]⟩
  | .ok scripts =>
      let report := checkTexts scripts
      let lines := report.map Finding.text ++
        ["检查完成: " ++ toString paths.length ++ " 个脚本, " ++ toString (report.count .error) ++
          " 个错误, " ++ toString (report.count .warn) ++ " 个警告"]
      if report.hasErrors then
        ⟨1, [], lines ++ [Outcome.complaint interpreterName SourceFault.defective.message]⟩
      else ⟨0, [], lines⟩

structure SourceOptions where
  settings : Option String
  check : Bool
  paths : List String
deriving DecidableEq, Repr

namespace SourceOptions

-- Whether a word of its own can be the value of the option before it. A value that is attached to its option may also
-- look like an option.
def isValue (word : String) : Bool := word == "-" || !word.startsWith "-"

def withSettings (o : SourceOptions) (path : String) : Option SourceOptions :=
  if o.settings.isNone && path != "" then some { o with settings := some path } else none

-- A bundle of one-letter options. The option for the settings takes what follows it in the bundle, or else wants the
-- next word, which the flag says.
def bundle (o : SourceOptions) : List Char → Option (SourceOptions × Bool)
  | [] => some (o, false)
  | 'v' :: rest => bundle o rest
  | ['c'] => some (o, true)
  | 'c' :: '=' :: value => (o.withSettings (String.ofList value)).map (·, false)
  | 'c' :: value => (o.withSettings (String.ofList value)).map (·, false)
  | _ => none

def word (o : SourceOptions) (word : String) : Option (SourceOptions × Bool) :=
  match word.toList with
  | ['-'] => some ({ o with paths := o.paths ++ [word] }, false)
  | '-' :: '-' :: _ =>
      if word = "--verbose" then some (o, false)
      else if word = "--check" then if o.check then none else some ({ o with check := true }, false)
      else if word = "--config" then some (o, true)
      else if word.startsWith "--config=" then
        (o.withSettings (String.ofList (word.toList.drop "--config=".length))).map (·, false)
      else none
  | '-' :: letters => bundle o letters
  | _ => some ({ o with paths := o.paths ++ [word] }, false)

def words (o : SourceOptions) : List String → Option SourceOptions
  | [] => some o
  | first :: rest =>
      if first = "--" then some { o with paths := o.paths ++ rest }
      else
        match o.word first with
        | none => none
        | some (o, false) => words o rest
        | some (o, true) =>
            match rest with
            | [] => none
            | value :: rest =>
                if isValue value then (o.withSettings value).bind (words · rest) else none

def parse (args : List String) : Option SourceOptions :=
  (words ⟨none, false, []⟩ args).filter fun o => !o.paths.isEmpty && o.paths.all (· != "")

end SourceOptions

def usage : String := "usage: [-c FILE] [-v]... [--check] FILE..."

def interpreter (files : Files) (args : List String) : Outcome :=
  match SourceOptions.parse args with
  | none => ⟨2, [], [usage]⟩
  | some o =>
      if o.check then checkOutcome files o.paths
      else sourceOutcome files ((o.settings.map (settingsAt files)).getD .default) o.paths

end ExScript
