import ExScript.Json.Reader
import ExScript.Json.Record

set_option autoImplicit false

namespace ExScript

structure Settings where
  maxDepth : Nat
  separator : String
deriving DecidableEq, Repr

inductive SettingsError where
  | malformed
  | zeroDepth
deriving DecidableEq, Repr

def SettingsError.message : SettingsError → String
  | malformed => "配置解析失败"
  | zeroDepth => "配置验证失败: max_func_depth 必须大于 0"

namespace Settings

open Json (fieldD isRecord string? nat?)

def default : Settings := ⟨100, " "⟩

instance : Inhabited Settings := ⟨default⟩

def toJson (s : Settings) : Json :=
  .obj [("max_func_depth", .ofNat s.maxDepth), ("echo_separator", .str s.separator)]

def ofJson? (j : Json) : Option Settings :=
  if isRecord 2 j then do
    let maxDepth ← fieldD 0 "max_func_depth" (.ofNat default.maxDepth) j
    let separator ← fieldD 1 "echo_separator" (.str default.separator) j
    return ⟨← nat? maxDepth, ← string? separator⟩
  else none

def parse (text : List Char) : Except SettingsError Settings :=
  match Json.parse? text >>= ofJson? with
  | none => .error .malformed
  | some s => if s.maxDepth = 0 then .error .zeroDepth else .ok s

end Settings

end ExScript
