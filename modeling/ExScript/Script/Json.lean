import ExScript.Script
import ExScript.Statement.Json

set_option autoImplicit false

namespace ExScript.Script

open Json (field? fieldD isRecord string? nat? list?)

def toJson (s : Script) : Json :=
  .obj [("id", .str s.id), ("units", .arr (Statement.listToJson s.statements)),
    ("source_map", .arr (s.lines.map .ofNat))]

def ofJson? (j : Json) : Option Script :=
  if isRecord 3 j then do
    let id ← field? 0 "id" j
    let statements ← field? 1 "units" j
    let lines ← fieldD 2 "source_map" (.arr []) j
    return ⟨← string? id.val, ← Statement.listOfJson? statements.val, ← list? nat? lines⟩
  else none

end ExScript.Script
