import Specimen.Proofs.CopiedTypes
import Specimen.Proofs.Lowering
import Specimen.Proofs.SampledTypes

/-!
# `Self` in the generics of a builder

The parameters and the where clause of a declaration are copied to three items of the builder: its
struct, its `Default` impl and the impl of `new`. There `Self` is the builder, and unlike field
types the bounds are copied word for word. `builder_headers_free_iff` says when no `Self` is copied.
-/

namespace Specimen

open Token Target

/-! ## Generics -/

/-- A where clause says `Self` if one of its predicates does. -/
theorem WhereClause.namesSelf_tokens (w : WhereClause) :
    namesSelf w.tokens = w.predicates.any fun p => namesSelf p.tokens := by
  rw [tokens]
  split
  · next h => simp [List.isEmpty_iff.mp h]
  · simp [List.any_map, Function.comp_def]

/-- There may be no where clause, and then there are no predicates. -/
theorem Generics.namesSelf_whereTokens (g : Generics) :
    namesSelf g.whereTokens = g.predicates.any fun p => namesSelf p.tokens := by
  rw [whereTokens, predicates]
  cases g.whereClause with
  | none => rfl
  | some w => exact w.namesSelf_tokens

/-- A parameter that is called `Self` is so wherever it is declared. -/
theorem GenericParam.namesSelf_boundedTokens_of_isCalledSelf {p : GenericParam}
    (h : p.isCalledSelf = true) : namesSelf p.boundedTokens = true := by
  cases p with
  | lifetime attributes n list trailing => simp [isCalledSelf, isLifetime] at h
  | type attributes n list trailing default =>
    have hn : n = "Self" := of_decide_eq_true h
    simp [boundedTokens, hn]
  | const attributes n ty default =>
    have hn : n = "Self" := of_decide_eq_true h
    simp [boundedTokens, words, hn]

/-- A path says `Self` after another name is put behind it if it did before. -/
theorem Path.namesSelf_join (p : Path) (name : String) (h : name ≠ "Self") :
    namesSelf (p.join name).tokens = namesSelf p.tokens := by
  simp [Path.tokens, Path.join, Segment.tokensEach_eq_map, Segment.tokens, h]

/-- A predicate for sampling says `Self` if the sampled type or the crate does. -/
theorem Predicate.namesSelf_sampleable (crate : Path) (ty : Ty) :
    namesSelf (Predicate.sampleable crate ty).tokens =
      (namesSelf ty.tokens || namesSelf crate.tokens) := by
  have htrait := crate.namesSelf_join "Sampleable" (by decide)
  rw [sampleable_tokens, namesSelf_append, namesSelf_append, htrait, namesSelf_sym, Bool.or_false]

/-! ## The items of a builder -/

/-- Both impls of a builder have the same header, since it has one list of parameters for them. -/
theorem Builder.header_impl (b : Builder) (cx : Context) (trait : List Token)
    (f : Declared Function) :
    (b.impl cx trait f).item.header =
      b.generics.implTokens ++ b.generics.argTokens ++ b.generics.whereTokens := by
  rw [impl, Block.header, Generics.applied_tokens, List.tail_cons]

/-- The headers of a builder's items are free of `Self` if those of its struct and of its impls
are. -/
theorem Builder.headers_free_iff (b : Builder) (cx : Context) :
    (∀ x ∈ b.items cx, namesSelf x.item.header = false) ↔
      namesSelf (cx.declaration.generics.declTokens ++ cx.declaration.generics.whereTokens) =
          false ∧
        namesSelf (b.generics.implTokens ++ b.generics.argTokens ++ b.generics.whereTokens) =
          false := by
  have hseeding : (b.seedingImpl cx).item.header = _ := b.header_impl cx _ _
  rw [items, List.forall_mem_append, List.forall_mem_cons, List.forall_mem_singleton, hseeding,
    and_assoc]
  -- the struct comes first, and then the impls
  refine and_congr_right fun _ => and_iff_left_of_imp fun himpl x hx => ?_
  -- an impl of `new` adds nothing, as the `Default` impl is there in any case
  rw [newImpl?] at hx
  split at hx
  · obtain rfl := List.mem_singleton.mp hx
    rw [b.header_impl]
    exact himpl
  · cases hx

/-- A type comes out of spelling without `Self` if it does not keep any, and gets none. -/
theorem Declaration.replaceSelf_free_iff (d : Declaration) (ty : Ty) :
    namesSelf (ty.replaceSelf d.selfType).tokens = false ↔
      ty.hasSelf false true = false ∧ (ty.hasSelf true false = true → d.isCalledSelf = false) := by
  rw [Ty.namesSelf_replaceSelf, namesSelf_selfType, Bool.or_eq_false_iff, Bool.and_eq_false_imp]

/-- The header of the struct is free of `Self` if the declared parameters and predicates are. -/
theorem Generics.declared_free_iff (g : Generics) :
    namesSelf (g.declTokens ++ g.whereTokens) = false ↔
      (∀ p ∈ g.params, namesSelf p.declTokens = false) ∧
        ∀ q ∈ g.predicates, namesSelf q.tokens = false := by
  rw [namesSelf_append, Bool.or_eq_false_iff, declTokens, namesSelf_angled, namesSelf_whereTokens,
    List.any_eq_false, List.any_eq_false]
  simp only [Bool.not_eq_true]

/-- Where the declared parameters and predicates are free of `Self`, so is the header of an impl,
unless something is sampled that is not. -/
theorem Generics.sampling_free_iff {g : Generics}
    (hparams : ∀ p ∈ g.params, namesSelf p.declTokens = false)
    (hpredicates : ∀ q ∈ g.predicates, namesSelf q.tokens = false) (crate : Path)
    (sampled : List Ty) :
    let impl := g.sampling crate sampled
    namesSelf (impl.implTokens ++ impl.argTokens ++ impl.whereTokens) = false ↔
      g.params = [] ∨
        ∀ ty ∈ sampled, namesSelf ty.tokens = false ∧ namesSelf crate.tokens = false := by
  intro impl
  have hbounded : ∀ p ∈ g.params, namesSelf p.boundedTokens = false := by
    intro p hp
    have hdecl := hparams p hp
    rw [GenericParam.declTokens, namesSelf_append, Bool.or_eq_false_iff] at hdecl
    exact hdecl.1
  have himpl : namesSelf impl.implTokens = false := by
    rw [implTokens, namesSelf_angled, sampling_params, List.any_eq_false]
    intro p hp
    rw [hbounded p hp]
    exact Bool.false_ne_true
  -- an argument is the name that its parameter is declared with
  have hargs : namesSelf impl.argTokens = false := by
    rw [argTokens, namesSelf_angled, sampling_params, List.any_eq_false]
    intro p hp hcalled
    rw [GenericParam.namesSelf_argument] at hcalled
    have hfree := hbounded p hp
    rw [GenericParam.namesSelf_boundedTokens_of_isCalledSelf hcalled] at hfree
    exact Bool.noConfusion hfree
  have hown : g.predicates.any (fun q => namesSelf q.tokens) = false := by
    rw [List.any_eq_false]
    intro q hq
    rw [hpredicates q hq]
    exact Bool.false_ne_true
  rw [namesSelf_append, namesSelf_append, himpl, hargs, Bool.false_or, Bool.false_or,
    namesSelf_whereTokens, predicates_sampling, List.any_append, hown, Bool.false_or]
  -- what remains are the predicates for sampling, which only parameters bring in
  cases hp : g.params with
  | nil => simp
  | cons p ps => simp [Predicate.namesSelf_sampleable]

/-- **`Self` in a builder's headers.** The items of a record's expansion are the impl of the record,
those of its builder and the impl of `Sampleable`. For a record from source, the parameters,
arguments and where clauses of the builder's items are free of `Self` exactly if the parameters and
predicates of the source are, and if, where there are parameters, nothing with `Self` in it is
sampled. -/
theorem builder_headers_free_iff (v : Deriver) {item : Item} {d : Declaration}
    {members : List Member} (h : Declaration.ofItem item = .ok d)
    (hkind : d.kind = .record members) :
    let cx := Context.ofDeclaration v d
    let e := (d.scan v.inherit members).expansion cx
    let b := (d.scan v.inherit members).builderIn cx
    v.expand d = .ok e ∧ e.tokens = e.items.flatMap itemTokens ∧
      e.items = e.inherentImpl :: b.items cx ++ [e.conformanceImpl] ∧
      ((∀ x ∈ b.items cx, namesSelf x.item.header = false) ↔
        (∀ p ∈ item.generics.params, namesSelf p.declTokens = false) ∧
        (∀ q ∈ item.generics.predicates, namesSelf q.tokens = false) ∧
        (item.generics.params = [] ∨
          ∀ f ∈ (extract v.inherit members).fields, namesSelf cx.crate.tokens = false ∧
            f.type.hasSelf false true = false ∧
            (f.type.hasSelf true false = true → d.isCalledSelf = false))) := by
  intro cx e b
  have hgenerics : cx.declaration.generics = item.generics := (Declaration.ofItem_ok h).2.2.2.1
  have hsampling : b.generics =
      item.generics.sampling cx.crate (d.scan v.inherit members).sampled := by
    rw [← hgenerics]
    rfl
  refine ⟨v.expand_record hkind, e.items_tokens.symm, RecordScan.expansion_items _ _, ?_⟩
  rw [Builder.headers_free_iff, hgenerics, hsampling, Generics.declared_free_iff, and_assoc]
  -- what is copied once is copied to the impls too, so only sampling can add to it
  refine and_congr_right fun hparams => and_congr_right fun hpredicates => ?_
  refine (Generics.sampling_free_iff hparams hpredicates cx.crate _).trans ?_
  rw [d.scan_sampled, List.forall_mem_map]
  refine or_congr_right (forall₂_congr fun f _ => ?_)
  rw [d.replaceSelf_free_iff, and_comm]

/-- `struct Node<T> where T: bound { value: T, next: Box<Self> }` -/
def nodeItem (bound : Path) : Item where
  attributes := []
  modifier := .pub
  name := ⟨"Node", .nowhere⟩
  generics := ⟨[.type [] "T" [] false none], false,
    some ⟨[.type [] (.named "T") [.trait false false [] bound.rooted bound.segments] false], false⟩⟩
  body := .record (.named
    [⟨[], .pub, ⟨"value", .nowhere⟩, .named "T", .nowhere⟩,
     ⟨[], .pub, ⟨"next", .nowhere⟩,
      .path false [.angled "Box" false [.type (.named "Self")] false], .nowhere⟩])

/-- `Into<Self>` -/
def intoSelf : Path := ⟨false, [.angled "Into" false [.type (.named "Self")] false]⟩

/-- A bound without `Self` leaves the builder of `Node` without it, although a field is of type
`Box<Self>`. -/
theorem plain_bound_headers_free :
    ∃ d members, Declaration.ofItem (nodeItem (.ofNames false ["Clone"])) = .ok d ∧
      d.kind = .record members ∧
      let cx := Context.ofDeclaration .standard d
      ∀ x ∈ ((d.scan true members).builderIn cx).items cx, namesSelf x.item.header = false := by
  refine ⟨_, _, rfl, rfl, ?_⟩
  have hitem : Declaration.ofItem (nodeItem (.ofNames false ["Clone"])) = .ok _ := rfl
  obtain ⟨-, -, -, hfree⟩ := builder_headers_free_iff .standard hitem rfl
  -- parameters, then predicates, then what sampling adds to them
  refine hfree.mpr ⟨?_, ?_, ?_⟩
  · decide
  · decide
  · decide

/-- A bound with `Self` in it is copied into the builder of `Node`. -/
theorem self_bound_in_headers :
    ¬ ∀ (v : Deriver) (item : Item) (d : Declaration) (members : List Member),
      Declaration.ofItem item = .ok d → d.kind = .record members →
        let cx := Context.ofDeclaration v d
        ∀ x ∈ ((d.scan v.inherit members).builderIn cx).items cx,
          namesSelf x.item.header = false := by
  intro h
  have hstruct := h .standard (nodeItem intoSelf) _ _ rfl rfl _ List.mem_cons_self
  revert hstruct
  decide

end Specimen
