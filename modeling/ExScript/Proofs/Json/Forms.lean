import ExScript.Json.Record

set_option autoImplicit false

namespace ExScript.Json

-- A field of a record: what may stand there, and what it means to leave it out, if that is allowed.
structure Field where
  name : String
  Form : Json → Prop
  absent : Option Json

-- Members that give the fields in order, except those left out.
inductive Gives : List Field → List (String × Json) → Prop
  | nil : Gives [] []
  | present {field : Field} {fields : List Field} {value : Json} {members : List (String × Json)}
      (form : field.Form value) (rest : Gives fields members) : Gives (field :: fields) ((field.name, value) :: members)
  | omitted {field : Field} {fields : List Field} {value : Json} {members : List (String × Json)}
      (optional : field.absent = some value) (form : field.Form value) (rest : Gives fields members) :
      Gives (field :: fields) members

-- An object of the fields, in any order and among others that are unknown.
inductive RecordForm (fields : List Field) : Json → Prop
  | object {given unknown members : List (String × Json)} (gives : Gives fields given)
      (others : ∀ member ∈ unknown, member.1 ∉ fields.map Field.name) (order : members.Perm (given ++ unknown)) :
      RecordForm fields (.obj members)

inductive VariantForm (name : String) (Form : Json → Prop) : Json → Prop
  | object {value : Json} (form : Form value) : VariantForm name Form (.obj [(name, value)])

inductive ListForm (Forms : List Json → Prop) : Json → Prop
  | array {items : List Json} (forms : Forms items) : ListForm Forms (.arr items)

section

variable {name : String} {members others : List (String × Json)}

theorem members_at_append (name : String) (members others : List (String × Json)) :
    membersAt name (members ++ others) = membersAt name members ++ membersAt name others := by
  simp [membersAt]

theorem members_at_eq_nil (unnamed : ∀ member ∈ members, member.1 ≠ name) : membersAt name members = [] := by
  simpa [membersAt] using fun key value member => unnamed (key, value) member

theorem members_at_perm (name : String) (order : members.Perm others) :
    (membersAt name members).Perm (membersAt name others) :=
  (order.filter _).map _

end

section

variable {fields : List Field} {members : List (String × Json)}

theorem gives_names (gives : Gives fields members) {member : String × Json} (inside : member ∈ members) :
    member.1 ∈ fields.map Field.name := by
  induction gives with
  | nil => cases inside
  | present form rest ih =>
      rcases List.mem_cons.mp inside with rfl | later
      · exact List.mem_cons_self
      · exact List.mem_cons_of_mem _ (ih later)
  | omitted optional form rest ih => exact List.mem_cons_of_mem _ (ih inside)

-- The values under a field's name: one that the field may be, or none where it may be left out.
def FoundIn (field : Field) (members : List (String × Json)) : Prop :=
  (∃ value, membersAt field.name members = [value] ∧ field.Form value) ∨
    membersAt field.name members = [] ∧ ∃ value, field.absent = some value ∧ field.Form value

theorem gives_found (gives : Gives fields members) (distinct : (fields.map Field.name).Nodup) {field : Field}
    (member : field ∈ fields) : FoundIn field members := by
  induction gives with
  | nil => cases member
  | @present first fields value members form rest ih =>
      obtain ⟨fresh, distinct⟩ := List.nodup_cons.mp distinct
      rcases List.mem_cons.mp member with rfl | later
      · have none_left : membersAt field.name members = [] := members_at_eq_nil fun other inside same =>
          fresh (same ▸ gives_names rest inside)
        exact .inl ⟨value, by simpa [membersAt] using none_left, form⟩
      · have different : first.name ≠ field.name := fun same => fresh (same ▸ List.mem_map_of_mem later)
        have same : membersAt field.name ((first.name, value) :: members) = membersAt field.name members := by
          simp [membersAt, different]
        unfold FoundIn
        rw [same]
        exact ih distinct later
  | @omitted first fields value members optional form rest ih =>
      obtain ⟨fresh, distinct⟩ := List.nodup_cons.mp distinct
      rcases List.mem_cons.mp member with rfl | later
      · refine .inr ⟨members_at_eq_nil fun other inside same => ?_, value, optional, form⟩
        exact fresh (same ▸ gives_names rest inside)
      · exact ih distinct later

theorem record_form_found {j : Json} (record : RecordForm fields j) (distinct : (fields.map Field.name).Nodup)
    {field : Field} (member : field ∈ fields) : ∃ members, j = .obj members ∧ FoundIn field members := by
  cases record with
  | @object given unknown members gives others order =>
      have unnamed : membersAt field.name unknown = [] := members_at_eq_nil fun other inside same =>
        others other inside (same ▸ List.mem_map_of_mem member)
      have reordered := members_at_perm field.name order
      rw [members_at_append, unnamed, List.append_nil] at reordered
      refine ⟨members, rfl, ?_⟩
      unfold FoundIn
      rcases gives_found gives distinct member with ⟨value, single, form⟩ | ⟨missing, absent⟩
      · rw [single] at reordered
        exact .inl ⟨value, List.perm_singleton.mp reordered, form⟩
      · rw [missing] at reordered
        exact .inr ⟨List.perm_nil.mp reordered, absent⟩

end

section

variable {fields : List Field} {j : Json} (record : RecordForm fields j) (distinct : (fields.map Field.name).Nodup)

include record

theorem is_record_of_form (width : Nat) : isRecord width j = true := by
  cases record
  rfl

include distinct

theorem field?_of_form (place : Nat) {name : String} {Form : Json → Prop}
    (here : fields[place]? = some ⟨name, Form, none⟩) : ∃ part, field? place name j = some part ∧ Form part.val := by
  obtain ⟨members, rfl, found⟩ := record_form_found record distinct (List.mem_of_getElem? here)
  rcases found with ⟨value, single, form⟩ | ⟨-, value, optional, -⟩
  · dsimp only at single
    refine ⟨⟨value, size_of_members_at (single ▸ List.mem_singleton_self value)⟩, ?_, form⟩
    dsimp only [field?]
    split
    · rename_i other found
      cases found.symm.trans single
      rfl
    · rename_i several
      exact absurd single (several value)
  · cases optional

theorem field_d_of_form (place : Nat) {name : String} {Form : Json → Prop} {default : Json}
    (here : fields[place]? = some ⟨name, Form, some default⟩) :
    ∃ value, fieldD place name default j = some value ∧ Form value := by
  obtain ⟨members, rfl, found⟩ := record_form_found record distinct (List.mem_of_getElem? here)
  rcases found with ⟨value, single, form⟩ | ⟨missing, value, optional, form⟩
  · exact ⟨value, by simp only [fieldD, single], form⟩
  · cases optional
    exact ⟨default, by simp only [fieldD, missing], form⟩

theorem optional?_of_form (place : Nat) {name : String} {Form : Json → Prop}
    (here : fields[place]? = some ⟨name, Form, some .null⟩) :
    ∃ value, optional? place name j = some value ∧ Form value := by
  obtain ⟨value, found, form⟩ := field_d_of_form record distinct place here
  cases record with
  | object gives others order => exact ⟨value, found, form⟩

end

theorem record_form_written {fields : List Field} {members : List (String × Json)} (gives : Gives fields members) :
    RecordForm fields (.obj members) := by
  have others : ∀ member ∈ ([] : List (String × Json)), member.1 ∉ fields.map Field.name := by simp
  exact .object gives others (.of_eq (List.append_nil members).symm)

end ExScript.Json
