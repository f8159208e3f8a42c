import ExScript.Cli.Outcome
import ExScript.Files
import ExScript.Script.Check

set_option autoImplicit false

namespace ExScript

inductive TaskFault where
  | unknownTask (name : String)
  | noPath (path : String)
  | noScripts (directory : String)
  | defective
deriving DecidableEq, Repr

def TaskFault.message : TaskFault → String
  | unknownTask name => "unknown xtask subcommand: " ++ name
  | noPath path => "路径不存在: " ++ path
  | noScripts directory =>
      "默认脚本目录不存在: " ++ directory ++ "\n请在 workspace 根目录运行，或指定脚本路径"
  | defective => "脚本检查发现错误"

def scriptsDirectory : String := "scripts"

def scriptPaths (files : Files) : Option String → Except TaskFault (List String)
  | some path =>
      if files.isFile path then .ok [path]
      else if files.isDirectory path then .ok (files.scriptsBelow path)
      else .error (.noPath path)
  | none =>
      if files.has scriptsDirectory then .ok (files.scriptsBelow scriptsDirectory)
      else .error (.noScripts scriptsDirectory)

structure Survey where
  unreadable : List (String × ReadError)
  report : Report

namespace Survey

def empty : Survey := ⟨[], []⟩

def add (s : Survey) (files : Files) (path : String) : Survey :=
  match files.read path with
  | .error e => { s with unreadable := s.unreadable ++ [(path, e)] }
  | .ok text => { s with report := s.report ++ Script.checkText path text }

def of (files : Files) (paths : List String) : Survey :=
  paths.foldl (fun s path => s.add files path) empty

def errors (s : Survey) : Nat := s.unreadable.length + s.report.count .error

def failed (s : Survey) : Bool := !s.unreadable.isEmpty || s.report.hasErrors

def verdict (s : Survey) : String :=
  let warnings := toString (s.report.count .warn) ++ " 个警告"
  if s.errors > 0 then "❌ " ++ toString s.errors ++ " 个错误, " ++ warnings
  else if s.report.count .warn > 0 then "⚠️  0 个错误, " ++ warnings
  else "✅ 检查通过，无错误"

def lines (s : Survey) (paths : List String) : List String :=
  ["==> 检查 " ++ toString paths.length ++ " 个脚本文件...", ""] ++
    s.unreadable.map (fun (path, e) => "[ERROR] " ++ path ++ ": 无法读取文件 - " ++ e.message) ++
    ["─────────────────────────────────────────────────────",
      "检查完成: " ++ toString paths.length ++ " 个脚本", ""] ++
    s.report.map Finding.text ++ ["", s.verdict]

end Survey

def taskName : String := "xtask"

def TaskFault.outcome (fault : TaskFault) (lines : List String) : Outcome :=
  ⟨1, [], lines ++ [Outcome.complaint taskName fault.message]⟩

def scriptCheck (files : Files) (path : Option String) : Outcome :=
  match scriptPaths files path with
  | .error fault => fault.outcome []
  | .ok [] => ⟨0, [], ["未找到脚本文件（.vim）"]⟩
  | .ok paths =>
      let survey := Survey.of files paths
      let lines := survey.lines paths
      if survey.failed then TaskFault.defective.outcome lines else ⟨0, [], lines⟩

def taskHelp : List String :=
  ["xtask - 开发辅助工具",
    "",
    "USAGE:",
    "  cargo xtask <command>",
    "",
    "COMMANDS:",
    "  check-all       运行 fmt、clippy、test 门禁检查",
    "  cov-runtime     运行 vim-script 覆盖率报告",
    "  script-check    检查脚本文件",
    "",
    "SCRIPT-CHECK:",
    "  cargo xtask script-check [path]",
    "",
    "  不带参数：检查 scripts/ 下所有 .vim 文件",
    "  带路径参数：检查指定文件或目录",
    "",
    "  检查内容：",
    "    - 脚本语法错误（宽松解析，报告全部错误）",
    "    - 未使用 ! 的重复函数定义",
    "    - 顶层 return、未声明的 a: 参数引用",
    ""]

def tasks (files : Files) : List String → Outcome
  | [] => ⟨0, [], taskHelp⟩
  | name :: rest =>
      if name = "script-check" then scriptCheck files rest.head?
      else if name ∈ ["help", "-h", "--help"] then ⟨0, [], taskHelp⟩
      else TaskFault.outcome (.unknownTask name) []

end ExScript
