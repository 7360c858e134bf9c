import Specimen.Proofs.CodeContext
import Specimen.Proofs.Target.Reading
import Specimen.Proofs.VariantChecks

/-!
# The first case of a tagged union

A tagged union is sampled by its first case, and what is written for it depends on no other case:
`first_case_decides` says so for declarations, and for enums from source as long as the other
variants ask for nothing.
-/

namespace Specimen

open Token Target

/-! ## The sample -/

/-- `K::Sampleable::sample()` -/
def inferredSample (crate : Path) : Target.Expr :=
  .call (.relative ((crate.join "Sampleable").join "sample")) []

/-- A body ends in a case, written as the case is declared, with an inferred sample for each of its
values. -/
inductive Case.SampledBy (crate : Path) : Case → Tail → Prop where
  | unit (name : String) : SampledBy crate ⟨name, .unit⟩ (.expr (.constant (.own name)))
  | unlabeled (name : String) (types : List Ty) :
    SampledBy crate ⟨name, .unlabeled types⟩
      (.expr (.call (.own name) (List.replicate types.length (inferredSample crate))))
  | labeled (name : String) (params : List (String × Ty)) :
    SampledBy crate ⟨name, .labeled params⟩
      (.caseLiteral name (params.map fun p => (p.1, inferredSample crate)))

/-- The sample of a case is written in the form that its payload is declared in. -/
theorem Case.sampledBy_sample (crate : Path) (c : Case) :
    c.SampledBy crate (c.sample.tail crate) := by
  obtain ⟨name, payload⟩ := c
  cases payload with
  | unit => exact .unit name
  | unlabeled types =>
    -- the payload's types only count how many samples are asked for
    have hargs : (types.map fun _ => Value.inferred).map (Value.expr crate) =
        List.replicate types.length (inferredSample crate) := by
      rw [List.map_const', List.map_replicate]
      rfl
    show SampledBy crate _ (.expr (.call (.own name) _))
    rw [hargs]
    exact .unlabeled name types
  | labeled params =>
    -- a labelled payload keeps its labels and drops its types
    have hinits : (params.map fun p => Init.mk p.1 .inferred).map (Init.entry crate) =
        params.map fun p => (p.1, inferredSample crate) := by
      rw [List.map_map]
      rfl
    show SampledBy crate _ (.caseLiteral name _)
    rw [hinits]
    exact .labeled name params

/-! ## Declarations -/

def Declaration.withCases (d : Declaration) (cases : List Case) : Declaration :=
  { d with kind := .taggedUnion cases }

/-- The later cases are kept in the context of an expansion, and nowhere else. -/
theorem Deriver.expand_withCases (v : Deriver) (d : Declaration) (first : Case)
    (later : List Case) :
    v.expand (d.withCases (first :: later)) =
      .ok { first.expansion (.ofDeclaration v d) with
        context := (Context.ofDeclaration v d).withKind (.taggedUnion (first :: later)) } := rfl

/-! ## Enums -/

def Item.withVariants (item : Item) (variants : List Variant) : Item :=
  { item with body := .enumeration variants }

def ItemBody.variants? : ItemBody → Option (List Variant)
  | .enumeration variants => some variants
  | _ => none

theorem ItemBody.variants?_eq_some {body : ItemBody} {variants : List Variant} :
    body.variants? = some variants ↔ body = .enumeration variants := by
  cases body <;> simp [variants?]

/-- A variant asks for nothing: neither it nor one of its fields has options. -/
def Variant.Plain (v : Variant) : Prop :=
  ∀ a ∈ v.attributes ++ v.fields.attributes, a.path.ident? ≠ some optionsAttribute

/-- A plain variant is lowered to its case, since there is nothing to complain about. -/
theorem Variant.Plain.ofVariant_eq {v : Variant} (h : v.Plain) : Case.ofVariant v = .ok v.case :=
  (Case.ofVariant_settles v).passes (v.complaints_eq_nil_iff.mpr h)

/-- Plain variants add their cases and change nothing about the others, right or wrong. -/
theorem casesOf_append_plain (options : TypeOptions) (variants : List Variant)
    {later : List Variant} (h : ∀ w ∈ later, w.Plain) :
    casesOf options (variants ++ later) =
      (· ++ later.map Variant.case) <$> casesOf options variants := by
  have hlater : later.map Case.ofVariant = (later.map Variant.case).map .ok := by
    rw [List.map_map]
    exact List.map_congr_left fun w hw => (h w hw).ofVariant_eq
  rw [casesOf, casesOf, ← collect_append_ok, List.map_append, hlater, List.append_assoc]

/-- Variants that are lowered without complaints are lowered to their cases. -/
theorem casesOf_ok {options : TypeOptions} {variants : List Variant} {cases : List Case}
    (h : casesOf options variants = .ok cases) : cases = variants.map Variant.case := by
  have hsettles := casesOf_settles options variants
  have hpass := hsettles.passes (hsettles.ok_iff.mp ⟨cases, h⟩)
  exact Except.ok.inj (h.symm.trans hpass)

/-- An enum is lowered by its variants; everything else stands in the item. -/
theorem Declaration.ofItem_withVariants {item : Item} {options : TypeOptions}
    (hoptions : readOptions TypeOptions.keySet item.attributes = .ok options)
    (variants : List Variant) :
    Declaration.ofItem (item.withVariants variants) =
      (fun cases => item.declaration options (.taggedUnion cases)) <$>
        casesOf options variants := by
  have hlowered := @Declaration.ofItem_of_options (item.withVariants variants) options hoptions
  rw [hlowered]
  show _ <$> DeclarationKind.taggedUnion <$> casesOf options variants = _
  cases casesOf options variants <;> rfl

/-- What is derived for an enum is derived for its first variant. -/
theorem Deriver.derive_withVariants (v : Deriver) (item : Item) (first : Variant)
    {later : List Variant} (h : ∀ w ∈ later, w.Plain) :
    v.derive (item.withVariants (first :: later)) = v.derive (item.withVariants [first]) := by
  rw [derive, derive]
  cases hoptions : readOptions TypeOptions.keySet item.attributes with
  | error r =>
    -- the variants are not looked at
    have hfails (variants : List Variant) :
        Declaration.ofItem (item.withVariants variants) = .error r := by
      show (readOptions TypeOptions.keySet item.attributes >>= _) = _
      rw [hoptions]
      rfl
    rw [hfails, hfails]
  | ok options =>
    have hcases := casesOf_append_plain options [first] h
    rw [List.singleton_append] at hcases
    rw [Declaration.ofItem_withVariants hoptions, Declaration.ofItem_withVariants hoptions, hcases]
    -- a complaint about the first variant is reported in both, else the later cases are added
    cases hfirst : casesOf options [first] with
    | error r => rfl
    | ok cases =>
      obtain rfl := casesOf_ok hfirst
      let d := item.declaration options (.taggedUnion [])
      have htokens (later : List Case) :=
        (first.case.expansion (.ofDeclaration v d)).tokens_withKind
          (.taggedUnion (first.case :: later))
      exact congrArg Except.ok ((htokens _).trans (htokens []).symm)

/-! ## Derived code -/

/-- **The first case decides.** Whatever cases follow, a tagged union is expanded to the same code.
It has one function beside that of `Sampleable`: the sample accessor, as visible as the type is,
which gives the first case with inferred samples. Only types of the first case are bounded. An enum
from source is derived, or turned down, like the enum of its first variant alone, as long as the
others are plain. -/
theorem first_case_decides (v : Deriver) :
    (∀ (d : Declaration) (first : Case), ∃ tail written,
      first.SampledBy (d.cratePath v.defaultCrate) tail ∧
      ∀ later, ∃ e, v.expand (d.withCases (first :: later)) = .ok e ∧
        e.tokens = written ∧ e.tokens = e.items.flatMap itemTokens ∧
        e.kinds = [.sampleAccessor] ∧ e.items = [e.inherentImpl, e.conformanceImpl] ∧
        e.generics = d.generics.sampling (d.cratePath v.defaultCrate) first.payload.types ∧
        functionsOf e.items =
          [⟨guardAttributes e.context ++ [docContent ("A sample " ++ code d.name.text ++ ": the " ++
                code first.name ++ " variant with sample values.")],
              (d.typeVisibility.getD (.ofLevel .crate)).modifier,
              ⟨"fixture", [], false, ⟨[], tail⟩⟩⟩,
            ⟨[], .inherited, sampleFunction⟩]) ∧
    ∀ (item : Item) (first : Variant) (later later' : List Variant),
      (∀ w ∈ later ++ later', w.Plain) →
        v.derive (item.withVariants (first :: later)) =
          v.derive (item.withVariants (first :: later')) ∧
        ∀ ts, v.derive (item.withVariants (first :: later)) = .ok ts →
          ∃ d c e, Declaration.ofItem (item.withVariants [first]) = .ok d ∧
            d.kind = .taggedUnion [c] ∧ first.Declares c ∧ v.expand d = .ok e ∧ ts = e.tokens := by
  refine ⟨fun d first => ?_, fun item first later later' hplain => ?_⟩
  · refine ⟨first.sample.tail _, (first.expansion (.ofDeclaration v d)).tokens,
      first.sampledBy_sample _, fun later => ⟨_, v.expand_withCases d first later,
        Expansion.tokens_withKind _ _, (Expansion.items_tokens _).symm, rfl, rfl, rfl, rfl⟩⟩
  -- both items are compared with the one that has the first variant alone
  · have hlater := v.derive_withVariants item first fun w hw => hplain w (List.mem_append_left _ hw)
    have hlater' := v.derive_withVariants item first fun w hw =>
      hplain w (List.mem_append_right _ hw)
    refine ⟨hlater.trans hlater'.symm, fun ts hts => ?_⟩
    rw [hlater, Deriver.derive, bind_eq_ok] at hts
    obtain ⟨d, hd, hts⟩ := hts
    have hbody := (Declaration.ofItem_ok hd).2.1
    obtain ⟨cases, hcases, hkind⟩ := map_eq_ok.mp hbody
    -- a successful lowering of `[first]` has no other case to offer
    obtain rfl := casesOf_ok hcases
    have hexpand : v.expand d = .ok (first.case.expansion (.ofDeclaration v d)) := by
      rw [Deriver.expand, ← hkind]
      rfl
    rw [hexpand] at hts
    exact ⟨d, first.case, _, hd, hkind.symm, first.declares_case, hexpand,
      (Except.ok.inj hts).symm⟩

/-- A generic enum of which only the first variant holds a value of its parameter. -/
def signalSource : String :=
  "pub enum Signal<T: Copy> \x7b
    Ready \x7b level: T, at: u8 \x7d, #[default] Lost(String), Off
  \x7d"

/-- `Signal` is derived like the enum of `Ready` alone. -/
theorem signal_first_case :
    ∃ item first later, Item.read? signalSource = some item ∧
      item.body = .enumeration (first :: later) ∧ later.length = 2 ∧
      (∀ w ∈ later ++ [], w.Plain) ∧
      Deriver.standard.derive item = Deriver.standard.derive (item.withVariants [first]) := by
  have hsource : ((Item.read? signalSource).bind fun item => item.body.variants?.map
      fun variants => variants.map Variant.complaints) = some [[], [], []] := by
    decide +kernel
  simp only [Option.bind_eq_some_iff, Option.map_eq_some_iff] at hsource
  obtain ⟨item, hread, variants, hvariants, hcomplaints⟩ := hsource
  obtain ⟨first, later, rfl, -, hlater⟩ := List.map_eq_cons_iff.mp hcomplaints
  have hbody := ItemBody.variants?_eq_some.mp hvariants
  -- a later variant is plain where it has no complaint, and those were computed
  have hplain : ∀ w ∈ later ++ [], w.Plain := by
    intro w hw
    rw [List.append_nil] at hw
    have hnone : w.complaints ∈ later.map Variant.complaints := List.mem_map_of_mem hw
    rw [hlater] at hnone
    refine w.complaints_eq_nil_iff.mp ?_
    simpa using hnone
  have hlength : later.length = 2 := by
    rw [← List.length_map (f := Variant.complaints), hlater]
    rfl
  have hself : item.withVariants (first :: later) = item := by
    rw [Item.withVariants, ← hbody]
  have hderive := ((first_case_decides .standard).2 item first later [] hplain).1
  rw [hself] at hderive
  exact ⟨item, first, later, hread, hbody, hlength, hplain, hderive⟩

end Specimen
