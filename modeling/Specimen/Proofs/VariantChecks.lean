import Mathlib.Data.List.Forall2
import Specimen.Proofs.Complaints

/-!
# What is wrong with the variants of an enum

An enum takes fewer options than a struct: there is no builder to name, and nothing that a variant
or one of its fields could ask for. Each such option is reported where it stands, and
`misplaced_options_reported` says that there is no other reason to turn an enum down.
-/

namespace Specimen

/-! ## Variants -/

namespace Fields

def types : Fields → List Ty
  | unit => []
  | unnamed list => list.map (·.type)
  | named list => list.map (·.type)

def labels? : Fields → Option (List String)
  | named list => some (list.map (·.name.text))
  | _ => none

end Fields

namespace Variant

/-- A variant declares a case: one of the same name, with values of the same kind and with the same
labels and types in the same order. -/
structure Declares (v : Variant) (c : Case) : Prop where
  name : c.name = v.name.text
  unit : c.payload = .unit ↔ v.fields = .unit
  labels : c.payload.labels = v.fields.labels?
  types : c.payload.types = v.fields.types

def case (v : Variant) : Case := ⟨v.name.text, .ofFields v.fields⟩

/-- The case that a variant is lowered to is one that it declares. -/
theorem declares_case (v : Variant) : v.Declares v.case := by
  obtain ⟨attributes, name, fields⟩ := v
  -- labels are declared exactly where the variant has them
  cases fields with
  | unit => exact ⟨rfl, ⟨fun _ => rfl, fun _ => rfl⟩, rfl, rfl⟩
  | unnamed list => exact ⟨rfl, ⟨nofun, nofun⟩, rfl, rfl⟩
  | named list =>
    refine ⟨rfl, ⟨nofun, nofun⟩, ?_, ?_⟩
    · show some ((list.map fun f => (f.name.text, f.type)).map (·.1)) = _
      rw [List.map_map]
      rfl
    · show (list.map fun f => (f.name.text, f.type)).map (·.2) = _
      rw [List.map_map]
      rfl

end Variant

/-! ## Misplaced options -/

/-- The complaint about an options attribute that stands where options mean nothing. -/
def Attribute.misplacement (a : Attribute) : Diagnostic := ⟨.optionsOnVariant, a.span, none⟩

namespace Variant

/-- What is wrong with a variant: the options on it, and then those on its fields. -/
def complaints (v : Variant) : List Diagnostic :=
  (optionAttributes v.attributes).map Attribute.misplacement ++
    (optionAttributes v.fields.attributes).map Attribute.misplacement

/-- There is one complaint for each misplaced attribute. -/
theorem complaints_eq_map_misplaced (v : Variant) :
    v.complaints = v.misplaced.map Attribute.misplacement := by
  rw [complaints, ← List.map_append, misplaced, optionAttributes, optionAttributes,
    ← List.filter_append]
  rfl

/-- Nothing is wrong with a variant exactly if no attribute on it or on its fields has options. -/
theorem complaints_eq_nil_iff (v : Variant) :
    v.complaints = [] ↔
      ∀ a ∈ v.attributes ++ v.fields.attributes, a.path.ident? ≠ some optionsAttribute := by
  rw [complaints_eq_map_misplaced, List.map_eq_nil_iff, misplaced, optionAttributes,
    List.filter_eq_nil_iff]
  simp only [Attribute.isNamed, decide_eq_true_eq, ne_eq]

end Variant

/-- **A variant** is lowered to its case, or reported with its complaints. -/
theorem Case.ofVariant_settles (v : Variant) :
    Settles (Case.ofVariant v) v.complaints v.case := by
  rw [Case.ofVariant, v.complaints_eq_map_misplaced]
  refine ⟨?_, fun hnil => ?_⟩
  -- with no misplaced option the case is given; else each is reported in order
  · split
    · next hnone =>
      rw [List.isEmpty_iff.mp hnone]
      rfl
    · show (Report.ofList _).diagnostics = _
      rw [Report.diagnostics_ofList, List.flatMap_map, List.map_eq_flatMap]
      rfl
  · rw [if_pos (List.isEmpty_iff.mpr (List.map_eq_nil_iff.mp hnil))]
    rfl

/-! ## Enums -/

/-- What is wrong with an enum: that it names a builder, then what is wrong with its variants. -/
def enumComplaints (options : TypeOptions) (variants : List Variant) : List Diagnostic :=
  (options.builder.toList.map fun name => ⟨.builderOnEnum, name.span, none⟩) ++
    variants.flatMap Variant.complaints

/-- An enum is checked as a whole: what is wrong with one variant does not keep others from being
looked at. -/
theorem casesOf_settles (options : TypeOptions) (variants : List Variant) :
    Settles (casesOf options variants) (enumComplaints options variants)
      (variants.map Variant.case) := by
  have hvariants := Settles.collect Case.ofVariant_settles variants
  rw [enumComplaints, casesOf]
  cases options.builder with
  | none => exact hvariants
  | some name =>
    -- the builder is one more check, before those of the variants
    refine ⟨?_, fun hnil => absurd hnil (List.cons_ne_nil _ _)⟩
    rw [complaintsOf_collect, List.flatMap_append, ← complaintsOf_collect (variants.map _),
      hvariants.reports]
    rfl

/-- **Every misplaced option is reported.** An enum is lowered exactly if it names no builder and no
variant or field of a variant has options. It then has one case for each variant, in order; if it is
not lowered, the complaints are those about the builder and about each of these options, in the
order of the source. -/
theorem misplaced_options_reported {item : Item} {options : TypeOptions} {variants : List Variant}
    (hbody : item.body = .enumeration variants)
    (hoptions : readOptions TypeOptions.keySet item.attributes = .ok options) :
    ((∃ d, Declaration.ofItem item = .ok d) ↔ options.builder = none ∧
      ∀ v ∈ variants, ∀ a ∈ v.attributes ++ v.fields.attributes,
        a.path.ident? ≠ some optionsAttribute) ∧
    (∀ d, Declaration.ofItem item = .ok d →
      ∃ cases, d.kind = .taggedUnion cases ∧ List.Forall₂ Variant.Declares variants cases) ∧
    (∀ r, Declaration.ofItem item = .error r →
      r.diagnostics = enumComplaints options variants) := by
  have hall : Settles (Declaration.ofItem item) (enumComplaints options variants)
      (item.declaration options (.taggedUnion (variants.map Variant.case))) := by
    refine Declaration.ofItem_settles hoptions ?_
    rw [hbody]
    exact (casesOf_settles options variants).map _
  have hnone : enumComplaints options variants = [] ↔ options.builder = none ∧
      ∀ v ∈ variants, v.complaints = [] := by
    rw [enumComplaints, List.append_eq_nil_iff, List.flatMap_eq_nil_iff, List.map_eq_nil_iff,
      Option.toList_eq_nil_iff]
  refine ⟨?_, fun d hd => ?_, fun r hr => ?_⟩
  · rw [hall.ok_iff, hnone]
    simp only [Variant.complaints_eq_nil_iff]
  -- what was lowered had no complaints, so it is the declaration of the good parts
  · have hpass := hall.passes (hall.ok_iff.mp ⟨d, hd⟩)
    have hsame : d = item.declaration options _ := Except.ok.inj (hd.symm.trans hpass)
    refine ⟨variants.map Variant.case, by rw [hsame]; rfl, ?_⟩
    rw [List.forall₂_map_right_iff, List.forall₂_same]
    exact fun v _ => v.declares_case
  · have hreports := hall.reports
    rw [hr] at hreports
    exact hreports

/-- An enum that names a builder, with options on a variant and on fields of two variants. -/
def eventSource : String :=
  "#[fixture(builder = \"EventDraft\")]
enum Event \x7b
  #[fixture(default)] Added \x7b #[fixture(default)] id: u64, #[doc(hidden)] #[fixture] at: u8 \x7d,
  Expired,
  Deleted(#[fixture(lazy)] u64),
\x7d"

/-- The complaints about `Event`. The attribute `#[doc(hidden)]` is none of them. -/
def eventComplaints : List Diagnostic :=
  [⟨.builderOnEnum, ⟨⟨1, 20⟩, ⟨1, 32⟩⟩, none⟩, ⟨.optionsOnVariant, ⟨⟨3, 2⟩, ⟨3, 21⟩⟩, none⟩,
   ⟨.optionsOnVariant, ⟨⟨3, 30⟩, ⟨3, 49⟩⟩, none⟩, ⟨.optionsOnVariant, ⟨⟨3, 74⟩, ⟨3, 84⟩⟩, none⟩,
   ⟨.optionsOnVariant, ⟨⟨5, 10⟩, ⟨5, 26⟩⟩, none⟩]

/-- Everything that is misplaced in `Event` is reported, in order. -/
theorem event_options_reported :
    ∃ item options variants r, Item.read? eventSource = some item ∧
      item.body = .enumeration variants ∧
      readOptions TypeOptions.keySet item.attributes = .ok options ∧
      Declaration.ofItem item = .error r ∧ r.diagnostics = eventComplaints := by
  have hsource : ((Item.read? eventSource).bind fun item =>
      match item.body, readOptions TypeOptions.keySet item.attributes with
      | .enumeration variants, .ok options =>
        some (options.builder.isSome, enumComplaints options variants)
      | _, _ => none) = some (true, eventComplaints) := by
    decide +kernel
  obtain ⟨item, hread, hfacts⟩ := Option.bind_eq_some_iff.mp hsource
  split at hfacts
  · next variants options hbody hoptions =>
    obtain ⟨hbuilder, hcomplaints⟩ := Prod.mk.inj (Option.some.inj hfacts)
    obtain ⟨hlowered, -, hreports⟩ := misplaced_options_reported hbody hoptions
    cases hitem : Declaration.ofItem item with
    | ok d =>
      -- what is lowered names no builder
      rw [(hlowered.mp ⟨d, hitem⟩).1] at hbuilder
      exact Bool.noConfusion hbuilder
    | error r =>
      exact ⟨item, options, variants, r, hread, hbody, hoptions, hitem,
        (hreports r hitem).trans hcomplaints⟩
  · simp at hfacts

end Specimen
