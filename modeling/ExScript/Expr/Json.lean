import ExScript.Expr
import ExScript.Json.Record

set_option autoImplicit false

namespace ExScript

open Json (field? optional? variant? unitVariant? isRecord string? int64? list? nullable?)

namespace Value

def toJson : Value → Json
  | str s => .obj [("String", .str s)]
  | num n => .obj [("Number", .int n.toInt)]

def ofJson? (j : Json) : Option Value :=
  match variant? j with
  | some ("String", some s) => str <$> string? s.val
  | some ("Number", some n) => num <$> int64? n.val
  | _ => none

end Value

namespace Scope

def jsonName : Scope → String
  | global => "Global"
  | script => "Script"
  | argument => "Argument"
  | function => "Local"
  | buffer => "Buffer"
  | window => "Window"
  | tab => "Tab"
  | vim => "Vim"

def ofJsonName? (name : String) : Option Scope :=
  [global, script, argument, function, buffer, window, tab, vim].find? (·.jsonName = name)

def toJson (s : Scope) : Json := .str s.jsonName

def ofJson? (j : Json) : Option Scope := unitVariant? j >>= ofJsonName?

end Scope

def scopedName? {α : Type} (make : Option Scope → String → α) (j : Json) : Option α :=
  if isRecord 2 j then do
    let scope ← optional? 0 "scope" j >>= nullable? Scope.ofJson?
    let name ← field? 1 "name" j
    return make scope (← string? name.val)
  else none

namespace Variable

def toJson (v : Variable) : Json :=
  .obj [("scope", .ofOption Scope.toJson v.scope), ("name", .str v.name)]

def ofJson? : Json → Option Variable := scopedName? mk

end Variable

namespace FunctionName

def toJson (f : FunctionName) : Json :=
  .obj [("scope", .ofOption Scope.toJson f.scope), ("name", .str f.name)]

def ofJson? : Json → Option FunctionName := scopedName? mk

end FunctionName

namespace Expr

mutual

def toJson : Expr → Json
  | literal value => .obj [("Literal", value.toJson)]
  | .variable v => .obj [("Variable", v.toJson)]
  | concat left right => .obj [("Concat", .arr [left.toJson, right.toJson])]
  | call name args => .obj [("Call", .obj [("name", name.toJson), ("args", .arr (listToJson args))])]

def listToJson : List Expr → List Json
  | [] => []
  | e :: es => e.toJson :: listToJson es

end

mutual

def ofJson? (j : Json) : Option Expr :=
  match variant? j with
  | some ("Literal", some value) => literal <$> Value.ofJson? value.val
  | some ("Variable", some v) => .variable <$> Variable.ofJson? v.val
  | some ("Concat", some ⟨.arr [left, right], _inside⟩) => do
      return concat (← ofJson? left) (← ofJson? right)
  | some ("Call", some ⟨c, _inside⟩) => do
      let (name, args) ← callOfJson? c
      return call name args
  | _ => none
termination_by sizeOf j
decreasing_by
  · simp at _inside
    omega
  · simp at _inside
    omega
  · exact _inside

def callOfJson? (j : Json) : Option (FunctionName × List Expr) :=
  if isRecord 2 j then do
    let name ← field? 0 "name" j
    let args ← field? 1 "args" j
    return (← FunctionName.ofJson? name.val, ← listOfJson? args.val)
  else none
termination_by sizeOf j
decreasing_by exact args.property

def listOfJson? (j : Json) : Option (List Expr) :=
  match j with
  | .arr items => items.attach.mapM fun ⟨item, _inside⟩ => ofJson? item
  | _ => none
termination_by sizeOf j
decreasing_by exact Json.size_of_mem_arr _inside

end

end Expr

end ExScript
