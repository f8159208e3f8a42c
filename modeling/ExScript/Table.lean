set_option autoImplicit false

namespace ExScript

structure Table (κ ν : Type) [DecidableEq κ] where
  entries : List (κ × ν)
  distinct : (entries.map Prod.fst).Nodup

namespace Table

variable {κ ν : Type} [DecidableEq κ]

def empty : Table κ ν := ⟨[], by simp⟩

instance : Inhabited (Table κ ν) := ⟨empty⟩

def without (entries : List (κ × ν)) (key : κ) : List (κ × ν) :=
  entries.filter fun entry => entry.1 ≠ key

def get? (t : Table κ ν) (key : κ) : Option ν :=
  (t.entries.find? fun entry => entry.1 = key).map Prod.snd

def contains (t : Table κ ν) (key : κ) : Bool := (t.get? key).isSome

def size (t : Table κ ν) : Nat := t.entries.length

theorem distinct_without (t : Table κ ν) (key : κ) : ((without t.entries key).map Prod.fst).Nodup :=
  t.distinct.sublist (List.filter_sublist.map Prod.fst)

def erase (t : Table κ ν) (key : κ) : Table κ ν := ⟨without t.entries key, t.distinct_without key⟩

def insert (t : Table κ ν) (key : κ) (value : ν) : Table κ ν :=
  ⟨(key, value) :: without t.entries key, by
    rw [List.map_cons, List.nodup_cons]
    exact ⟨by simp [without], t.distinct_without key⟩⟩

@[simp, grind =]
theorem get?_empty (key : κ) : (empty : Table κ ν).get? key = none := rfl

theorem find?_without (entries : List (κ × ν)) {key other : κ} (different : other ≠ key) :
    (without entries key).find? (fun entry => entry.1 = other) =
      entries.find? fun entry => entry.1 = other := by
  induction entries with
  | nil => rfl
  | cons entry rest ih =>
      unfold without at ih ⊢
      by_cases here : entry.1 = key
      · rw [List.filter_cons_of_neg (by simpa using here), ih,
          List.find?_cons_of_neg (by simpa [here] using Ne.symm different)]
      · rw [List.filter_cons_of_pos (by simpa using here), List.find?_cons, List.find?_cons, ih]

@[simp]
theorem get?_erase_self (t : Table κ ν) (key : κ) : (t.erase key).get? key = none := by
  simp [get?, erase, without]

@[simp]
theorem get?_erase_ne (t : Table κ ν) {key other : κ} (different : other ≠ key) :
    (t.erase key).get? other = t.get? other := by
  simp only [get?, erase, find?_without t.entries different]

@[simp]
theorem get?_insert_self (t : Table κ ν) (key : κ) (value : ν) :
    (t.insert key value).get? key = some value := by
  simp [get?, insert]

@[simp]
theorem get?_insert_ne (t : Table κ ν) {key other : κ} (value : ν) (different : other ≠ key) :
    (t.insert key value).get? other = t.get? other := by
  rw [← get?_erase_ne t different]
  simp [get?, insert, erase, Ne.symm different]

@[grind =]
theorem get?_erase (t : Table κ ν) (key other : κ) :
    (t.erase key).get? other = if other = key then none else t.get? other := by
  by_cases same : other = key <;> simp [same]

theorem get?_absent {t : Table κ ν} {key : κ} (missing : ¬ t.contains key = true) (other : κ) :
    t.get? other = if other = key then none else t.get? other := by
  by_cases same : other = key
  · rw [if_pos same, same]
    exact Option.not_isSome_iff_eq_none.mp missing
  · rw [if_neg same]

@[grind =]
theorem get?_insert (t : Table κ ν) (key other : κ) (value : ν) :
    (t.insert key value).get? other = if other = key then some value else t.get? other := by
  by_cases same : other = key <;> simp [same]

theorem get?_of_erase {t : Table κ ν} {key other : κ} {value : ν} (found : (t.erase key).get? other = some value) :
    t.get? other = some value := by
  grind

theorem get?_of_insert {t : Table κ ν} {key other : κ} {value value' : ν}
    (found : (t.insert key value).get? other = some value') : value' = value ∨ t.get? other = some value' := by
  grind

@[simp]
theorem contains_insert_self (t : Table κ ν) (key : κ) (value : ν) : (t.insert key value).contains key = true := by
  simp [contains]

theorem contains_insert_of_contains (t : Table κ ν) {other : κ} (key : κ) (value : ν)
    (there : t.contains other = true) : (t.insert key value).contains other = true := by
  by_cases same : other = key
  · simp [same]
  · simpa [contains, same] using there

end Table

end ExScript
