import ExScript.Expr.Json
import ExScript.Statement

set_option autoImplicit false

namespace ExScript

open Json (field? optional? variant? unitVariant? isRecord string? bool? list? nullable?)

namespace Flag

def jsonName : Flag → String
  | range => "Range"
  | abort => "Abort"
  | dict => "Dict"
  | closure => "Closure"

def ofJson? (j : Json) : Option Flag :=
  unitVariant? j >>= fun name => [range, abort, dict, closure].find? (·.jsonName = name)

end Flag

namespace AssignOp

def toJson : AssignOp → Json
  | assign => .str "Assign"
  | append => .str "Append"

def ofJson? (j : Json) : Option AssignOp :=
  match unitVariant? j with
  | some "Assign" => some assign
  | some "Append" => some append
  | _ => none

end AssignOp

namespace HostCommand

def toJson (c : HostCommand) : Json :=
  .obj [("range", .ofOption .str c.range), ("name", .str c.name), ("bang", .bool c.bang),
    ("args", .str c.args)]

def ofJson? (j : Json) : Option HostCommand :=
  if isRecord 4 j then do
    let range ← optional? 0 "range" j >>= nullable? string?
    let name ← field? 1 "name" j
    let bang ← field? 2 "bang" j
    let args ← field? 3 "args" j
    return ⟨range, ← string? name.val, ← bool? bang.val, ← string? args.val⟩
  else none

end HostCommand

namespace Statement

mutual

def toJson : Statement → Json
  | function header body =>
      .obj [("FunctionDeclaration", .obj [("name", .str header.name.name),
        ("scope", .ofOption Scope.toJson header.name.scope), ("args", .arr (header.params.map .str)),
        ("flags", .arr (header.flags.toList.map fun f => .str f.jsonName)),
        ("body", .arr (listToJson body)), ("replace_existing", .bool header.replace)])]
  | echo exprs => .obj [("Echo", .obj [("expressions", .arr (Expr.listToJson exprs))])]
  | .return value => .obj [("Return", .obj [("expression", value.toJson)])]
  | assign target op value =>
      .obj [("Let", .obj [("target", target.toJson), ("operator", op.toJson), ("value", value.toJson)])]
  | unlet bang targets =>
      .obj [("Unlet", .obj [("bang", .bool bang), ("targets", .arr (targets.map Variable.toJson))])]
  | call range name args =>
      .obj [("Call", .obj [("range", .ofOption .str range),
        ("call", .obj [("name", name.toJson), ("args", .arr (Expr.listToJson args))])])]
  | delfunction bang name =>
      .obj [("DelFunction", .obj [("bang", .bool bang), ("name", name.toJson)])]
  | command c => .obj [("Generic", c.toJson)]

def listToJson : List Statement → List Json
  | [] => []
  | s :: ss => s.toJson :: listToJson ss

end

def echoOfJson? (j : Json) : Option Statement :=
  if isRecord 1 j then do
    let exprs ← field? 0 "expressions" j
    return echo (← Expr.listOfJson? exprs.val)
  else none

def returnOfJson? (j : Json) : Option Statement :=
  if isRecord 1 j then do
    let value ← field? 0 "expression" j
    return .return (← Expr.ofJson? value.val)
  else none

def assignOfJson? (j : Json) : Option Statement :=
  if isRecord 3 j then do
    let target ← field? 0 "target" j
    let op ← field? 1 "operator" j
    let value ← field? 2 "value" j
    return assign (← Variable.ofJson? target.val) (← AssignOp.ofJson? op.val) (← Expr.ofJson? value.val)
  else none

def unletOfJson? (j : Json) : Option Statement :=
  if isRecord 2 j then do
    let bang ← field? 0 "bang" j
    let targets ← field? 1 "targets" j
    return unlet (← bool? bang.val) (← list? Variable.ofJson? targets.val)
  else none

def callOfJson? (j : Json) : Option Statement :=
  if isRecord 2 j then do
    let range ← optional? 0 "range" j >>= nullable? string?
    let invocation ← field? 1 "call" j
    let (name, args) ← Expr.callOfJson? invocation.val
    return call range name args
  else none

def delfunctionOfJson? (j : Json) : Option Statement :=
  if isRecord 2 j then do
    let bang ← field? 0 "bang" j
    let name ← field? 1 "name" j
    return delfunction (← bool? bang.val) (← FunctionName.ofJson? name.val)
  else none

mutual

def ofJson? (j : Json) : Option Statement :=
  match variant? j with
  | some ("FunctionDeclaration", some f) => functionOfJson? f.val
  | some ("Echo", some s) => echoOfJson? s.val
  | some ("Return", some s) => returnOfJson? s.val
  | some ("Let", some s) => assignOfJson? s.val
  | some ("Unlet", some s) => unletOfJson? s.val
  | some ("Call", some s) => callOfJson? s.val
  | some ("DelFunction", some s) => delfunctionOfJson? s.val
  | some ("Generic", some s) => command <$> HostCommand.ofJson? s.val
  | _ => none
termination_by sizeOf j
decreasing_by exact f.property

def functionOfJson? (j : Json) : Option Statement :=
  if isRecord 6 j then do
    let name ← field? 0 "name" j
    let scope ← optional? 1 "scope" j >>= nullable? Scope.ofJson?
    let params ← field? 2 "args" j
    let flags ← field? 3 "flags" j
    let body ← field? 4 "body" j
    let replace ← field? 5 "replace_existing" j
    let header : FunctionHeader :=
      ⟨⟨scope, ← string? name.val⟩, ← list? string? params.val,
        Flags.ofList (← list? Flag.ofJson? flags.val), ← bool? replace.val⟩
    return function header (← listOfJson? body.val)
  else none
termination_by sizeOf j
decreasing_by exact body.property

def listOfJson? (j : Json) : Option (List Statement) :=
  match j with
  | .arr items => items.attach.mapM fun ⟨item, _inside⟩ => ofJson? item
  | _ => none
termination_by sizeOf j
decreasing_by exact Json.size_of_mem_arr _inside

end

end Statement

end ExScript
