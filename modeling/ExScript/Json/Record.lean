import ExScript.Json

set_option autoImplicit false

namespace ExScript.Json

abbrev Part (whole : Json) := { part : Json // sizeOf part < sizeOf whole }

def membersAt (name : String) (members : List (String × Json)) : List Json :=
  (members.filter (·.1 = name)).map Prod.snd

theorem size_of_mem_arr {items : List Json} {item : Json} (inside : item ∈ items) :
    sizeOf item < sizeOf (arr items) := by
  have := List.sizeOf_lt_of_mem inside
  simp
  omega

theorem size_of_mem_obj {members : List (String × Json)} {key : String} {value : Json}
    (inside : (key, value) ∈ members) : sizeOf value < sizeOf (obj members) := by
  have := List.sizeOf_lt_of_mem inside
  simp at this ⊢
  omega

theorem size_of_members_at {name : String} {members : List (String × Json)} {value : Json}
    (inside : value ∈ membersAt name members) : sizeOf value < sizeOf (obj members) := by
  simp only [membersAt, List.mem_map, List.mem_filter] at inside
  obtain ⟨⟨key, _⟩, ⟨member, _⟩, rfl⟩ := inside
  exact size_of_mem_obj member

def isRecord (width : Nat) : Json → Bool
  | obj _ => true
  | arr items => items.length ≤ width
  | _ => false

/-- A field of a record, by its name in an object and by its place in an array; no field, if it is
missing or stands there twice. -/
def field? (place : Nat) (name : String) : (whole : Json) → Option (Part whole)
  | obj members =>
      match found : membersAt name members with
      | [value] => some ⟨value, size_of_members_at (found ▸ List.mem_singleton_self value)⟩
      | _ => none
  | arr items =>
      match found : items[place]? with
      | some value => some ⟨value, size_of_mem_arr (List.mem_of_getElem? found)⟩
      | none => none
  | _ => none

def optional? (place : Nat) (name : String) : Json → Option Json
  | obj members =>
      match membersAt name members with
      | [] => some null
      | [value] => some value
      | _ => none
  | arr items => items[place]?
  | _ => none

def fieldD (place : Nat) (name : String) (default : Json) : Json → Option Json
  | obj members =>
      match membersAt name members with
      | [] => some default
      | [value] => some value
      | _ => none
  | arr items => some (items[place]?.getD default)
  | _ => none

def variant? : (whole : Json) → Option (String × Option (Part whole))
  | str name => some (name, none)
  | obj [(name, value)] => some (name, some ⟨value, size_of_mem_obj (List.mem_singleton_self _)⟩)
  | _ => none

def unitVariant? (j : Json) : Option String :=
  match j with
  | str name => some name
  | obj [(name, null)] => some name
  | _ => none

def string? : Json → Option String
  | str value => some value
  | _ => none

def bool? : Json → Option Bool
  | bool value => some value
  | _ => none

def nat? : Json → Option Nat
  | int value => if 0 ≤ value ∧ value < 18446744073709551616 then some value.toNat else none
  | _ => none

def int64? : Json → Option Int64
  | int value =>
      if -9223372036854775808 ≤ value ∧ value ≤ 9223372036854775807 then some (Int64.ofInt value) else none
  | _ => none

def list? {α : Type} (item? : Json → Option α) : Json → Option (List α)
  | arr items => items.mapM item?
  | _ => none

def nullable? {α : Type} (value? : Json → Option α) : Json → Option (Option α)
  | null => some none
  | j => some <$> value? j

end ExScript.Json
