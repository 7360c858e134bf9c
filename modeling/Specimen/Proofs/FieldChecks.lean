import Specimen.Proofs.Complaints

/-!
# What is wrong with the fields of a struct

A field is checked in three steps: its options are read, the storages that they name are compared,
and a default has to have a use. The first step that fails is the one that is reported.
`bad_fields_reported` says that a struct is lowered as it stands if all of its fields are good, and
that otherwise each bad field is reported and no good one.
-/

namespace Specimen

/-! ## Fields -/

namespace NamedField

/-- Whether something is wrong with a field: its options do not parse, they name several storages,
or a default is set that is of no use. -/
def IsBad (f : NamedField) : Prop :=
  (∃ r, readOptions FieldOptions.keySet f.attributes = .error r) ∨ 1 < f.options.namedStorages ∨
    (f.options.hasDefault = true ∧ f.storage ≠ .stored)

def storageComplaints (f : NamedField) : List Diagnostic :=
  if 1 < f.options.namedStorages then [⟨.conflictingStorage, f.span, none⟩]
  else if f.options.hasDefault = true ∧ f.storage ≠ .stored then
    [⟨.meaninglessDefault, f.span, none⟩]
  else []

def complaints (f : NamedField) : List Diagnostic :=
  let found := complaintsOf (readOptions FieldOptions.keySet f.attributes)
  if found.isEmpty then f.storageComplaints else found

/-- What a field asks of its storage is wrong in two ways, of which one is reported. -/
theorem storageComplaints_ne_nil_iff (f : NamedField) :
    f.storageComplaints ≠ [] ↔
      1 < f.options.namedStorages ∨ (f.options.hasDefault = true ∧ f.storage ≠ .stored) := by
  rw [storageComplaints]
  split
  · next hmany => simp [hmany]
  -- a default is only looked at where at most one storage is named
  · next hfew =>
    rw [or_iff_right hfew]
    split
    · next hdefault => simp [hdefault]
    · next hdefault => simp [hdefault]

/-- **Bad fields** are those with something to report. -/
theorem complaints_ne_nil_iff (f : NamedField) : f.complaints ≠ [] ↔ f.IsBad := by
  rw [complaints, IsBad]
  cases hoptions : readOptions FieldOptions.keySet f.attributes with
  | ok options =>
    have hnone : complaintsOf (.ok options : Except Report FieldOptions) = [] := rfl
    rw [hnone, List.isEmpty_nil, if_pos rfl, storageComplaints_ne_nil_iff]
    simp
  | error r =>
    -- the report of the options is never empty, so the storages are not looked at
    have hsome : complaintsOf (.error r : Except Report FieldOptions) ≠ [] :=
      readOptions_ne_nil hoptions
    rw [if_neg (by rwa [List.isEmpty_iff])]
    exact ⟨fun _ => .inl ⟨r, rfl⟩, fun _ => hsome⟩

/-- **A field** is lowered to its member, or reported with its complaints. -/
theorem ofField_settles (f : NamedField) : Settles (Member.ofField f) f.complaints f.member := by
  rw [Member.ofField]
  refine (readOptions_settles FieldOptions.keySet f.attributes).bind fun _ => ?_
  have hread : (readOptions FieldOptions.keySet f.attributes).toOption.getD ∅ = f.options := rfl
  rw [hread, FieldOptions.storage?_eq, storageComplaints]
  -- the storages come before the default, as in `storageComplaints`
  by_cases hmany : 1 < f.options.namedStorages
  · rw [if_pos hmany, if_pos hmany]
    exact Settles.about _ _ _
  · rw [if_neg hmany, if_neg hmany]
    show Settles (if f.options.hasDefault = true ∧ f.storage ≠ .stored then _ else _) _ _
    split
    · exact Settles.about _ _ _
    · exact Settles.pure _

end NamedField

/-! ## Structs -/

/-- **Every bad field is reported.** A struct whose fields are all good is lowered to a record with
one member for each field. If some are bad then the complaints of these are reported, in the order
of the source. -/
theorem bad_fields_reported {item : Item} {options : TypeOptions} {fields : List NamedField}
    (hbody : item.body = .record (.named fields))
    (hoptions : readOptions TypeOptions.keySet item.attributes = .ok options) :
    ((∀ f ∈ fields, ¬f.IsBad) → ∃ d, Declaration.ofItem item = .ok d ∧
      d.kind = .record (fields.map NamedField.member)) ∧
    ((∃ f ∈ fields, f.IsBad) → ∃ r, Declaration.ofItem item = .error r ∧
      r.diagnostics = fields.flatMap NamedField.complaints) ∧
    ∀ f ∈ fields, (f.complaints ≠ [] ↔ f.IsBad) := by
  -- one settled computation for the list of fields, and both directions are read off it
  have hall : Settles (Declaration.ofItem item) (fields.flatMap NamedField.complaints)
      (item.declaration options (.record (fields.map NamedField.member))) := by
    refine Declaration.ofItem_settles hoptions ?_
    rw [hbody]
    exact (Settles.collect NamedField.ofField_settles fields).map _
  refine ⟨fun hgood => ?_, fun hbad => ?_, fun f _ => f.complaints_ne_nil_iff⟩
  · have hnone : fields.flatMap NamedField.complaints = [] := by
      rw [List.flatMap_eq_nil_iff]
      intro f hf
      exact Classical.not_not.mp fun hsome => hgood f hf (f.complaints_ne_nil_iff.mp hsome)
    exact ⟨_, hall.passes hnone, rfl⟩
  · obtain ⟨f, hf, hbad⟩ := hbad
    refine hall.fails fun hnil => ?_
    exact f.complaints_ne_nil_iff.mpr hbad (List.flatMap_eq_nil_iff.mp hnil f hf)

/-- A struct with a misspelled option, a good field, a field that names two storages and has a
default besides, and a default on a field that is filled on first use. -/
def accountSource : String :=
  "struct Account \x7b
  #[fixture(defualt)] id: u64,
  owner: String,
  #[fixture(default, lazy, computed)] total: u64,
  #[fixture(default)] cache: std::sync::OnceLock<u8>,
\x7d"

/-- What is wrong with `Account`: one complaint for each bad field. -/
def accountComplaints : List Diagnostic :=
  [⟨.unknownKey "defualt" ["computed", "default", "lazy", "observed"], ⟨⟨2, 12⟩, ⟨2, 19⟩⟩, none⟩,
   ⟨.conflictingStorage, ⟨⟨4, 2⟩, ⟨4, 48⟩⟩, none⟩,
   ⟨.meaninglessDefault, ⟨⟨5, 2⟩, ⟨5, 52⟩⟩, none⟩]

/-- The three bad fields of `Account` are reported, in order. -/
theorem account_fields_reported :
    ∃ item fields options r, Item.read? accountSource = some item ∧
      item.body = .record (.named fields) ∧
      readOptions TypeOptions.keySet item.attributes = .ok options ∧
      (∃ f ∈ fields, f.IsBad) ∧ Declaration.ofItem item = .error r ∧
      r.diagnostics = accountComplaints := by
  have hsource : ((Item.read? accountSource).map fun item =>
      (item.attributes.length, item.body.namedFields.flatMap NamedField.complaints)) =
        some (0, accountComplaints) := by
    decide +kernel
  obtain ⟨item, hread, hitem⟩ := Option.map_eq_some_iff.mp hsource
  obtain ⟨hattributes, hcomplaints⟩ := Prod.mk.inj hitem
  have hoptions : readOptions TypeOptions.keySet item.attributes = .ok ∅ := by
    rw [List.eq_nil_of_length_eq_zero hattributes]
    rfl
  have hbody : item.body = .record (.named item.body.namedFields) := by
    refine ItemBody.eq_record_of_namedFields fun hnil => ?_
    rw [hnil] at hcomplaints
    cases hcomplaints
  obtain ⟨-, hreports, hiff⟩ := bad_fields_reported hbody hoptions
  -- where something is reported, some field is bad
  have hbad : ∃ f ∈ item.body.namedFields, f.IsBad := by
    have hmem : ⟨.conflictingStorage, ⟨⟨4, 2⟩, ⟨4, 48⟩⟩, none⟩ ∈
        item.body.namedFields.flatMap NamedField.complaints := by
      rw [hcomplaints]
      decide
    obtain ⟨f, hf, hreported⟩ := List.mem_flatMap.mp hmem
    exact ⟨f, hf, (hiff f hf).mp (List.ne_nil_of_mem hreported)⟩
  obtain ⟨r, hr, hdiagnostics⟩ := hreports hbad
  exact ⟨item, item.body.namedFields, ∅, r, hread, hbody, hoptions, hbad, hr,
    hdiagnostics.trans hcomplaints⟩

end Specimen
