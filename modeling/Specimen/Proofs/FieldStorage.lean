import Specimen.Declaration.Lowering

/-!
# The storage of a field

Options take precedence over the type of a field, and only one of them may name a storage.
`storage?_eq` says so in one equation, and `NamedField.member` is what lowering makes of a field
with a storage.
-/

namespace Specimen

/-! ## Options and types -/

/-- The name of the last segment of a path type. -/
def Ty.lastName? : Ty → Option String
  | .path _ segments => segments.getLast?.map Segment.name
  | .qualified _ _ _ rest => rest.getLast?.map Segment.name
  | _ => none

/-- Both kinds of path are named after their last segment; no other type is named after anything. -/
theorem Ty.isNamed_iff {ty : Ty} {name : String} :
    ty.isNamed name = true ↔ ty.lastName? = some name := by
  have hlast (segments : List Segment) : segments.getLast?.any (·.name = name) = true ↔
      segments.getLast?.map Segment.name = some name := by
    cases segments.getLast? <;> simp
  cases ty with
  | path rooted segments => exact hlast segments
  | qualified self rooted trait rest => exact hlast rest
  | _ => simp [isNamed, lastName?]

namespace FieldOptions

/-- How many of the options that name a storage are set. -/
def namedStorages (o : FieldOptions) : Nat := [o.lazy, o.computed, o.observed].count true

/-- The storage of a field of some type: the one that an option names, or else the one that goes
with the last name of the type. -/
def storageOf (o : FieldOptions) (ty : Ty) : Storage :=
  if o.lazy then .lazy
  else if o.computed then .computed
  else if o.observed then .observed
  else if ∃ name ∈ lazyTypes, ty.lastName? = some name then .lazy
  else if ty.lastName? = some markerType then .computed
  else .stored

/-- The storage that a type suggests, as the rules put it. -/
theorem suggestedStorage_eq (ty : Ty) :
    suggestedStorage ty =
      if ∃ name ∈ lazyTypes, ty.lastName? = some name then .lazy
      else if ty.lastName? = some markerType then .computed
      else .stored := by
  have hlazy : lazyTypes.any ty.isNamed = true ↔ ∃ name ∈ lazyTypes, ty.lastName? = some name := by
    simp only [List.any_eq_true, Ty.isNamed_iff]
  have hmarker : ty.isNamed markerType = true ↔ ty.lastName? = some markerType := Ty.isNamed_iff
  simp only [suggestedStorage, hlazy, hmarker]

/-- A type suggests a stored field unless it is one of the lazy types or the marker. -/
theorem suggestedStorage_eq_stored_iff (ty : Ty) :
    suggestedStorage ty = .stored ↔ (markerType :: lazyTypes).any ty.isNamed = false := by
  rw [suggestedStorage, List.any_cons, Bool.or_eq_false_iff]
  cases lazyTypes.any ty.isNamed <;> cases ty.isNamed markerType <;> simp

/-- A field has no storage exactly if its options name several. -/
theorem storage?_eq (o : FieldOptions) (ty : Ty) :
    o.storage? ty = if 1 < o.namedStorages then none else some (o.storageOf ty) := by
  have hsuggested := suggestedStorage_eq ty
  -- the eight ways to set the three options; the type matters for one of them
  obtain ⟨hasDefault, lazy, computed, observed⟩ := o
  cases lazy <;> cases computed <;> cases observed <;>
    simp [storage?, storages, namedStorages, storageOf, hsuggested]

/-- Static members can be declared, but no field of a struct is one. -/
theorem storageOf_ne_static (o : FieldOptions) (ty : Ty) : o.storageOf ty ≠ .static := by
  unfold storageOf
  repeat' split
  all_goals exact Storage.noConfusion

/-- A field is stored unless an option or its type takes it out. -/
theorem storageOf_eq_stored_iff (o : FieldOptions) (ty : Ty) :
    o.storageOf ty = .stored ↔ (o.lazy || o.computed || o.observed) = false ∧
      (markerType :: lazyTypes).any ty.isNamed = false := by
  rw [storageOf, ← suggestedStorage_eq, ← suggestedStorage_eq_stored_iff]
  cases o.lazy <;> cases o.computed <;> cases o.observed <;> simp

end FieldOptions

/-! ## Fields as written -/

namespace NamedField

def options (f : NamedField) : FieldOptions :=
  (readOptions FieldOptions.keySet f.attributes).toOption.getD ∅

def storage (f : NamedField) : Storage := f.options.storageOf f.type

def member (f : NamedField) : Member where
  bindings := [⟨f.name.text, some f.type, f.options.hasDefault⟩]
  storage := f.storage
  visibility := some (.ofModifier f.modifier)

end NamedField

end Specimen
