import ExScript.ParseError

set_option autoImplicit false

namespace ExScript

inductive Level where
  | info
  | warn
  | error
deriving DecidableEq, Repr

namespace Level

def name : Level → String
  | info => "INFO"
  | warn => "WARN"
  | error => "ERROR"

def rank : Level → Nat
  | info => 0
  | warn => 1
  | error => 2

end Level

structure Finding where
  level : Level
  script : String
  line : Option Nat
  message : String
  detail : Option String
deriving DecidableEq, Repr

namespace Finding

def ofParseError (script : String) (e : ParseError) : Finding :=
  ⟨.error, script, some e.line, e.message, none⟩

def text (f : Finding) : String :=
  let line := match f.line with
    | some line => ":" ++ toString line
    | none => ""
  let detail := match f.detail with
    | some detail => "\n  | " ++ detail
    | none => ""
  "[" ++ f.level.name ++ "] " ++ f.script ++ line ++ ": " ++ f.message ++ detail

end Finding

abbrev Report := List Finding

namespace Report

def count (r : Report) (level : Level) : Nat := r.countP (·.level == level)

def hasErrors (r : Report) : Bool := r.any (·.level == .error)

def atLeast (r : Report) (level : Level) : Report := r.filter fun f => level.rank ≤ f.level.rank

end Report

end ExScript
