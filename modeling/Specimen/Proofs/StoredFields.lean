import Specimen.Proofs.Lowering
import Specimen.Synthesis.Scan

/-!
# Which fields of a struct are constructed

A field of a struct is constructed unless one of its options or its type takes it out. Read off the
source, that splits the fields into two lists, and `extract_ofItem` says that the constructible
fields and the fillers of the lowered record are those two.
-/

namespace Specimen

/-! ## Fields as written -/

namespace NamedField

def isStored (f : NamedField) : Bool :=
  !(f.options.lazy || f.options.computed || f.options.observed) &&
    !(markerType :: lazyTypes).any f.type.isNamed

def constructible (f : NamedField) : Field :=
  ⟨f.name.text, f.type, f.options.hasDefault, some (.ofModifier f.modifier)⟩

end NamedField

def ItemBody.structFields? : ItemBody → Option (List NamedField)
  | .record (.named fields) => some fields
  | .record .unit => some []
  | _ => none

/-- A unit struct has the fields of a struct without any. -/
theorem ItemBody.namedFields_of_structFields? {body : ItemBody} {fields : List NamedField}
    (h : body.structFields? = some fields) : body.namedFields = fields := by
  unfold structFields? at h
  split at h
  · exact Option.some.inj h
  · exact Option.some.inj h
  · simp at h

/-! ## Lowering -/

/-- What takes a field out of construction gives it another storage. -/
theorem NamedField.storage_eq_stored_iff (f : NamedField) :
    f.storage = .stored ↔ f.isStored = true := by
  rw [storage, FieldOptions.storageOf_eq_stored_iff, isStored, Bool.and_eq_true,
    Bool.not_eq_true', Bool.not_eq_true']

/-- A struct field comes to one constructible field or to one filler. -/
theorem NamedField.contributions (f : NamedField) (inherit : Bool) :
    (f.isStored = true →
      f.member.fields inherit = [f.constructible] ∧ f.member.fillers = []) ∧
    (f.isStored = false →
      f.member.fields inherit = [] ∧ f.member.fillers = [f.name.text]) := by
  have hstored : f.member.storage = .stored ↔ f.isStored = true := f.storage_eq_stored_iff
  constructor
  · intro hf
    have hs := hstored.mpr hf
    rw [Member.fields, if_pos hs, Member.fillers, if_neg fun hother => hother.1 hs]
    -- a group of one takes nothing from its last name, so `inherit` does not matter
    exact ⟨rfl, rfl⟩
  · intro hf
    have hs : f.member.storage ≠ .stored := by
      intro heq
      rw [hstored.mp heq] at hf
      exact Bool.noConfusion hf
    have hinstance : f.member.storage.isInstanceField = true := by
      rw [Storage.isInstanceField, decide_eq_true_iff]
      exact FieldOptions.storageOf_ne_static _ _
    rw [Member.fields, if_neg hs, Member.fillers, if_pos ⟨hs, hinstance⟩]
    exact ⟨rfl, rfl⟩

/-- Members that come from struct fields are constructed or filled as their fields say. -/
theorem extract_members (inherit : Bool) (fields : List NamedField) :
    (extract inherit (fields.map NamedField.member)).fields =
        (fields.filter (·.isStored)).map NamedField.constructible ∧
      (extract inherit (fields.map NamedField.member)).fillers =
        (fields.filter (!·.isStored)).map (·.name.text) := by
  induction fields with
  | nil => exact ⟨rfl, rfl⟩
  | cons f fs ih =>
    obtain ⟨hfields, hfillers⟩ := ih
    obtain ⟨hstored, hother⟩ := f.contributions inherit
    -- the head's own extraction goes in front of the rest's
    have hsplit := extract_append_fields inherit [f.member] (fs.map NamedField.member)
    have hsplit' := extract_append_fillers inherit [f.member] (fs.map NamedField.member)
    rw [List.singleton_append] at hsplit hsplit'
    rw [List.map_cons, hsplit, hsplit', hfields, hfillers]
    cases hf : f.isStored with
    | true =>
      obtain ⟨hm, hm'⟩ := hstored hf
      simp [extract, hm, hm', hf]
    | false =>
      obtain ⟨hm, hm'⟩ := hother hf
      simp [extract, hm, hm', hf]

/-- A struct from source is lowered to a record. -/
theorem Declaration.record_of_structFields? {item : Item} {d : Declaration}
    {fields : List NamedField} (hbody : item.body.structFields? = some fields)
    (h : Declaration.ofItem item = .ok d) : ∃ members, d.kind = .record members := by
  have hkind := (Declaration.ofItem_ok h).2.1
  unfold ItemBody.structFields? at hbody
  split at hbody
  · next list heq =>
    rw [heq, DeclarationKind.ofBody, map_eq_ok] at hkind
    obtain ⟨members, _, hmembers⟩ := hkind
    exact ⟨members, hmembers.symm⟩
  · next heq =>
    rw [heq, DeclarationKind.ofBody, Except.ok.injEq] at hkind
    exact ⟨[], hkind.symm⟩
  · simp at hbody

/-- **Extraction from source.** The constructible fields of a struct are its stored fields, and its
fillers the names of the others, both in the order of the source. -/
theorem extract_ofItem {item : Item} {d : Declaration} {fields : List NamedField}
    {members : List Member} (hbody : item.body.structFields? = some fields)
    (h : Declaration.ofItem item = .ok d) (hkind : d.kind = .record members) (inherit : Bool) :
    (extract inherit members).fields =
        (fields.filter (·.isStored)).map NamedField.constructible ∧
      (extract inherit members).fillers =
        (fields.filter (!·.isStored)).map (·.name.text) := by
  rw [Declaration.ofItem_record h hkind, ItemBody.namedFields_of_structFields? hbody]
  exact extract_members inherit fields

/-- Spelling types out changes no names. -/
theorem Declaration.scan_field_names (d : Declaration) (inherit : Bool) (members : List Member) :
    (d.scan inherit members).fields.map (·.name) =
      (extract inherit members).fields.map (·.name) := by
  rw [scan, spelledFields, List.map_map]
  rfl

end Specimen
