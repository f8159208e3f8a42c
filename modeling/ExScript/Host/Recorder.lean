import ExScript.Host
import ExScript.Table

set_option autoImplicit false

namespace ExScript

structure Recorder where
  -- both latest first
  messages : List String
  commands : List HostCommand
  held : Table (Scope × String) Value
  rejected : List String
  failing : List (String × String)

namespace Recorder

def empty : Recorder := ⟨[], [], .empty, [], []⟩

def withVariable (r : Recorder) (scope : Scope) (name : String) (value : Value) : Recorder :=
  { r with held := r.held.insert (scope, name) value }

def rejecting (r : Recorder) (command : String) : Recorder :=
  { r with rejected := command :: r.rejected }

def failingWith (r : Recorder) (command text : String) : Recorder :=
  { r with failing := (command, text) :: r.failing }

def echo (r : Recorder) (message : String) : Recorder := { r with messages := message :: r.messages }

def refusal? (r : Recorder) (c : HostCommand) : Option HostError :=
  match r.failing.find? (·.1 = c.name) with
  | some (_, text) => some (.failed text)
  | none => if c.name ∈ r.rejected then some (.unsupportedCommand c.name) else none

def command (r : Recorder) (c : HostCommand) : Option HostError × Recorder :=
  match r.refusal? c with
  | some error => (some error, r)
  | none => (none, { r with commands := c :: r.commands })

def read (r : Recorder) (scope : Scope) (name : String) : Option Value :=
  r.held.get? (scope, name)

def write (r : Recorder) (scope : Scope) (name : String) (value : Value) : Option HostError × Recorder :=
  if scope = .vim then (some (.readOnlyVariable (scope.mark ++ name)), r)
  else (none, { r with held := r.held.insert (scope, name) value })

def remove (r : Recorder) (scope : Scope) (name : String) : Bool × Recorder :=
  if r.held.contains (scope, name) then
    (true, { r with held := r.held.erase (scope, name) })
  else (false, r)

theorem read_write (r : Recorder) (scope : Scope) (name : String) (value : Value) (scope' : Scope) (name' : String) :
    (r.write scope name value).2.read scope' name' =
      if scope ≠ .vim ∧ (scope', name') = (scope, name) then some value else r.read scope' name' := by
  unfold write
  by_cases vim : scope = .vim
  · rw [if_pos vim, if_neg fun both => both.1 vim]
  · rw [if_neg vim]
    simp only [read, Table.get?_insert, ne_eq, vim, not_false_eq_true, true_and]

@[simp]
theorem read_command (r : Recorder) (c : HostCommand) (scope : Scope) (name : String) :
    (r.command c).2.read scope name = r.read scope name := by
  unfold command
  cases r.refusal? c <;> rfl

theorem read_remove (r : Recorder) (scope : Scope) (name : String) (scope' : Scope) (name' : String) :
    (r.remove scope name).2.read scope' name' =
      if (scope', name') = (scope, name) then none else r.read scope' name' := by
  unfold remove
  by_cases held : r.held.contains (scope, name) = true
  · rw [if_pos held]
    exact Table.get?_erase r.held _ _
  · rw [if_neg held]
    exact Table.get?_absent held _

instance : Host Recorder := ⟨echo, command, read, write, remove⟩

end Recorder

end ExScript
