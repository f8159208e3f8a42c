import ExScript.Script
import ExScript.Session.Variable

set_option autoImplicit false

namespace ExScript

variable {σ : Type} [Host σ]

-- Evaluation is written over the way to invoke a function; `invoke` closes the circle by recursion on the number of
-- calls that may still nest.
abbrev Invoke (σ : Type) := DefinedFunction → List Value → Run σ Value

inductive Flow where
  | next
  | returned (value : Value)
deriving DecidableEq, Repr

def resolve (name : FunctionName) : Run σ DefinedFunction := do
  let s ← session
  match s.functions.get? (name.key s.currentScript) with
  | some f => return f
  | none => throw (.unknownFunction name.text)

mutual

/-- Evaluates an expression. A call finds its function before it evaluates the arguments. -/
def evaluateWith (invoke : Invoke σ) : Expr → Run σ Value
  | .literal value => return value
  | .variable v => readVariable v
  | .concat left right => do
      let a ← evaluateWith invoke left
      let b ← evaluateWith invoke right
      return a.concat b
  | .call name args => do
      let f ← resolve name
      let values ← evaluateAllWith invoke args
      invoke f values

def evaluateAllWith (invoke : Invoke σ) : List Expr → Run σ (List Value)
  | [] => return []
  | e :: es => do
      let value ← evaluateWith invoke e
      let values ← evaluateAllWith invoke es
      return value :: values

end

def assigned (target : Variable) (op : AssignOp) (value : Value) : Run σ Value :=
  match op with
  | .assign => return value
  | .append => do
      let before ← readVariable target
      return before.concat value

def executeWith (invoke : Invoke σ) : Statement → Run σ Flow
  | .function header body => do
      updateSession ((← session).define header body)
      return .next
  | .echo exprs => do
      let values ← evaluateAllWith invoke exprs
      hostEcho ((← session).settings.separator.intercalate (values.map Value.text))
      return .next
  | .return value => do
      if (← session).callStack.isEmpty then throw .returnOutsideFunction
      else return .returned (← evaluateWith invoke value)
  | .assign target op value => do
      let value ← evaluateWith invoke value
      let value ← assigned target op value
      writeVariable target value
      return .next
  | .unlet bang targets => do
      removeVariables bang targets
      return .next
  | .call _ name args => do
      let f ← resolve name
      let values ← evaluateAllWith invoke args
      let _ ← invoke f values
      return .next
  | .delfunction bang name => do
      updateSession ((← session).delete bang name)
      return .next
  | .command c => do
      hostCommand c
      return .next

def runBody (invoke : Invoke σ) : List Statement → Run σ Value
  | [] => return .num 0
  | s :: rest => do
      match ← executeWith invoke s with
      | .returned value => return value
      | .next => runBody invoke rest

def DefinedFunction.refusal? (f : DefinedFunction) (count : Nat) : Option RuntimeError :=
  if f.header.flags.dict then some (.dictFunction f.header.name.text)
  else if count < f.header.params.length then some (.tooFewArguments f.header.name.text)
  else if count > f.header.params.length then some (.tooManyArguments f.header.name.text)
  else none

-- Runs `body` in a new frame for `f`, which is gone afterwards however it ends.
def inFrame (f : DefinedFunction) (args : List Value) (body : Run σ Value) : Run σ Value := fun w =>
  match body { w with session := w.session.enter f args } with
  | .ok value w => .ok value { w with session := w.session.leave }
  | .error error w =>
      .error (.inFunction f.header.name.text error) { w with session := w.session.leave }

def invokeWithin : Nat → Invoke σ
  | 0, f, args =>
      match f.refusal? args.length with
      | some error => throw error
      | none => do throw (.callDepthExceeded (← session).settings.maxDepth)
  | room + 1, f, args =>
      match f.refusal? args.length with
      | some error => throw error
      | none => inFrame f args (runBody (invokeWithin room) f.body)

def invoke : Invoke σ := fun f args w => invokeWithin w.session.room f args w

def evaluate (e : Expr) : Run σ Value := fun w => evaluateWith (invokeWithin w.session.room) e w

def execute (s : Statement) : Run σ Flow := fun w => executeWith (invokeWithin w.session.room) s w

def callFunction (name : String) (args : List Value) : Run σ Value := do
  match (← session).functions.get? (Session.globalKey name) with
  | some f => invoke f args
  | none => throw (.unknownFunction name)

def executeAll : List Statement → Run σ PUnit
  | [] => pure ⟨⟩
  | s :: rest => do
      let _ ← execute s
      executeAll rest

def whileSourcing {α : Type} (id : String) (body : Run σ α) : Run σ α := fun w =>
  let left (w : World σ) : World σ :=
    { w with session := { w.session with sourcing := w.session.sourcing.tail } }
  match body { w with session := { w.session with sourcing := id :: w.session.sourcing } } with
  | .ok value w => .ok value (left w)
  | .error error w => .error error (left w)

def source (script : Script) : Run σ PUnit := whileSourcing script.id (executeAll script.statements)

end ExScript
