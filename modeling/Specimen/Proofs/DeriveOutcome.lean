import Specimen.Proofs.FieldChecks
import Specimen.Proofs.OptionProblems
import Specimen.Proofs.StructLiterals
import Specimen.Proofs.VariantChecks

/-!
# What deriving comes to

An item is derived in three stages, and each stage is only reached if the one before has nothing to
complain about: the options of the item are read, its fields or variants are checked, and then code
is generated, which some kinds of items do not allow. `derive_outcome` says for every item which
stage decides and what it reports.
-/

namespace Specimen

/-! ## Bodies of items -/

namespace ItemBody

/-- What is wrong with the parts of an item. The fields of tuple structs and unions are no parts:
whatever they say, nothing is wrong with it. -/
def complaints (options : TypeOptions) : ItemBody → List Diagnostic
  | .record (.named fields) => fields.flatMap NamedField.complaints
  | .record .unit => []
  | .record (.unnamed _) => []
  | .enumeration variants => enumComplaints options variants
  | .union => []

def kind : ItemBody → DeclarationKind
  | .record (.named fields) => .record (fields.map NamedField.member)
  | .record .unit => .record []
  | .record (.unnamed _) => .unsupported .tupleStruct
  | .enumeration variants => .taggedUnion (variants.map Variant.case)
  | .union => .unsupported .untaggedUnion

/-- Why nothing can be generated for an item of some kind, good as its parts may be. -/
def obstacle? : ItemBody → Option SynthesisCause
  | .record (.unnamed _) => some (.unsupported .tupleStruct)
  | .union => some (.unsupported .untaggedUnion)
  | .enumeration [] => some .noCases
  | _ => none

end ItemBody

/-- **The parts of an item** are all checked. -/
theorem DeclarationKind.ofBody_settles (options : TypeOptions) (body : ItemBody) :
    Settles (DeclarationKind.ofBody options body) (body.complaints options) body.kind := by
  cases body with
  | record fields =>
    cases fields with
    | named list => exact (Settles.collect NamedField.ofField_settles list).map _
    | unit => exact Settles.pure _
    | unnamed list => exact Settles.pure _
  | enumeration variants => exact (casesOf_settles options variants).map _
  | union => exact Settles.pure _

/-! ## Generation -/

namespace Deriver

variable (v : Deriver) {d : Declaration} {body : ItemBody}

/-- A kind that allows no code is rejected at the name of the declaration. -/
theorem expand_eq_error (hkind : d.kind = body.kind) {cause : SynthesisCause}
    (hobstacle : body.obstacle? = some cause) : v.expand d = .error ⟨cause, d.name.span⟩ := by
  rw [expand, hkind]
  unfold ItemBody.obstacle? at hobstacle
  -- by the kind of body; the fourth one has no obstacle
  split at hobstacle
  case h_4 => simp at hobstacle
  all_goals
    obtain rfl := Option.some.inj hobstacle
    rfl

/-- All other kinds are expanded. -/
theorem expand_eq_ok (hkind : d.kind = body.kind) (hfree : body.obstacle? = none) :
    ∃ e, v.expand d = .ok e := by
  rw [expand, hkind]
  cases body with
  | record fields =>
    cases fields with
    | named list => exact ⟨_, rfl⟩
    | unit => exact ⟨_, rfl⟩
    | unnamed list => simp [ItemBody.obstacle?] at hfree
  | enumeration variants =>
    cases variants with
    | nil => simp [ItemBody.obstacle?] at hfree
    | cons first others => exact ⟨_, rfl⟩
  | union => simp [ItemBody.obstacle?] at hfree

variable {v} {item : Item}

/-- What is not lowered is not generated either. -/
theorem derive_eq_error {r : Report} (h : Declaration.ofItem item = .error r) :
    v.derive item = .error r := by
  rw [derive, h]
  rfl

/-- What is lowered but cannot be generated for is reported as one error. -/
theorem derive_eq_synthesis {e : SynthesisError} (h : Declaration.ofItem item = .ok d)
    (he : v.expand d = .error e) : v.derive item = .error e.report := by
  rw [derive, h]
  simp only [bind, Except.bind, he]

end Deriver

/-! ## Complaints of the checks -/

/-- A field is complained about for its options or its storage. -/
theorem NamedField.complaints_ne_synthesis (f : NamedField) {x : Diagnostic}
    (hx : x ∈ f.complaints) (cause : SynthesisCause) : x.cause ≠ .synthesis cause := by
  have hoptions := FieldOptions.complaints_isAboutOptions f.attributes x
  rw [complaints] at hx
  split at hx
  · rw [storageComplaints] at hx
    split at hx
    · obtain rfl := List.mem_singleton.mp hx
      exact Cause.noConfusion
    · split at hx
      · obtain rfl := List.mem_singleton.mp hx
        exact Cause.noConfusion
      · simp at hx
  -- the options were complained about for how they are written
  · intro hcause
    have habout := hoptions hx
    rw [hcause] at habout
    exact Bool.noConfusion habout

/-- An enum is complained about for its builder or for a misplaced option. -/
theorem enumComplaints_ne_synthesis {options : TypeOptions} {variants : List Variant}
    {x : Diagnostic} (hx : x ∈ enumComplaints options variants) (cause : SynthesisCause) :
    x.cause ≠ .synthesis cause := by
  rw [enumComplaints] at hx
  -- the builder named on the enumeration first, then what each variant misplaces
  rcases List.mem_append.mp hx with hx | hx
  · obtain ⟨name, -, rfl⟩ := List.mem_map.mp hx
    exact Cause.noConfusion
  · obtain ⟨variant, -, hx⟩ := List.mem_flatMap.mp hx
    rw [Variant.complaints_eq_map_misplaced] at hx
    obtain ⟨a, -, rfl⟩ := List.mem_map.mp hx
    exact Cause.noConfusion

/-- The checks of fields and variants report nothing that generation would. -/
theorem ItemBody.complaints_ne_synthesis {options : TypeOptions} (body : ItemBody) :
    ∀ x ∈ body.complaints options, ∀ cause, x.cause ≠ .synthesis cause := by
  intro x hx
  unfold complaints at hx
  split at hx
  · obtain ⟨f, -, hx⟩ := List.mem_flatMap.mp hx
    exact f.complaints_ne_synthesis hx
  · simp at hx
  · simp at hx
  · exact enumComplaints_ne_synthesis hx
  · simp at hx

/-! ## Items -/

/-- **What deriving an item comes to.** If the options of the item are bad then they are what is
reported, whatever its body holds. With good options, bad fields or variants are reported and no
synthesis error. If these are good too then a tuple struct, a union or an enum without variants has
one error at its name, and for all other items there is code. -/
theorem derive_outcome (v : Deriver) (item : Item) :
    (∀ r, readOptions TypeOptions.keySet item.attributes = .error r →
      v.derive item = .error r ∧ r.diagnostics ≠ []) ∧
    ∀ options, readOptions TypeOptions.keySet item.attributes = .ok options →
      let ds := item.body.complaints options
      (ds ≠ [] → (∃ r, v.derive item = .error r ∧ r.diagnostics = ds) ∧
        ∀ x ∈ ds, ∀ cause, x.cause ≠ .synthesis cause) ∧
      (ds = [] → ∀ cause, item.body.obstacle? = some cause →
        v.derive item = .error (.about (.synthesis cause) item.name.span)) ∧
      (ds = [] → item.body.obstacle? = none → ∃ d e, Declaration.ofItem item = .ok d ∧
        v.expand d = .ok e ∧ v.derive item = .ok e.tokens) := by
  refine ⟨fun r hr => ?_, fun options hoptions => ?_⟩
  · have hitem : Declaration.ofItem item = .error r := by
      rw [Declaration.ofItem, hr]
      rfl
    exact ⟨Deriver.derive_eq_error hitem, readOptions_ne_nil hr⟩
  -- all checks of the body are one check, which settles what is reported
  · have hall := Declaration.ofItem_settles hoptions
      (DeclarationKind.ofBody_settles options item.body)
    refine ⟨fun hsome => ?_, fun hnone cause hcause => ?_, fun hnone hfree => ?_⟩
    · obtain ⟨r, hr, hdiagnostics⟩ := hall.fails hsome
      exact ⟨⟨r, Deriver.derive_eq_error hr, hdiagnostics⟩, item.body.complaints_ne_synthesis⟩
    · exact Deriver.derive_eq_synthesis (hall.passes hnone) (v.expand_eq_error rfl hcause)
    · obtain ⟨e, he⟩ := v.expand_eq_ok (d := item.declaration options item.body.kind) rfl hfree
      exact ⟨_, e, hall.passes hnone, he, Deriver.derive_eq_ok (hall.passes hnone) he⟩

def pairSource : String := "struct Pair(#[fixture = 1] u8);"

/-- The only error of `Pair` is that it is a tuple struct. -/
theorem pair_outcome :
    ∃ item options, Item.read? pairSource = some item ∧
      readOptions TypeOptions.keySet item.attributes = .ok options ∧
      item.body.complaints options = [] ∧
      item.body.obstacle? = some (.unsupported .tupleStruct) ∧
      Deriver.standard.derive item =
        .error (.about (.synthesis (.unsupported .tupleStruct)) ⟨⟨1, 7⟩, ⟨1, 11⟩⟩) := by
  have hsource : ((Item.read? pairSource).map fun item =>
      (item.attributes.length, (item.body.complaints ∅).length, item.body.obstacle?,
        item.name.span)) =
        some (0, 0, some (.unsupported .tupleStruct), ⟨⟨1, 7⟩, ⟨1, 11⟩⟩) := by
    decide +kernel
  obtain ⟨item, hread, hfacts⟩ := Option.map_eq_some_iff.mp hsource
  simp only [Prod.mk.injEq] at hfacts
  obtain ⟨hattributes, hcomplaints, hobstacle, hspan⟩ := hfacts
  -- no attribute leaves the options empty, and no complaint the lowering free
  have hoptions : readOptions TypeOptions.keySet item.attributes = .ok ∅ := by
    rw [List.eq_nil_of_length_eq_zero hattributes]
    rfl
  have hnone : item.body.complaints ∅ = [] := List.eq_nil_of_length_eq_zero hcomplaints
  have hderive := ((derive_outcome .standard item).2 ∅ hoptions).2.1 hnone _ hobstacle
  rw [hspan] at hderive
  exact ⟨item, ∅, hread, hoptions, hnone, hobstacle, hderive⟩

end Specimen
