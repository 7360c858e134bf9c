import Specimen.Proofs.CopiedTypes
import Specimen.Proofs.Readers
import Specimen.Proofs.SamplingBounds
import Specimen.Proofs.StoredFields
import Specimen.Proofs.Target.Types

/-!
# Generic arguments

Generated code names the declared type and its builder in many places, and declares parameters for
each of its items. `arguments_match_parameters` says that all of these lists are the declared one:
names where a type is used, bounds after `impl`, and everything on the builder struct.
-/

namespace Specimen

open Token Target

/-! ## Parameter lists -/

/-- A list in angle brackets; nothing if it is empty. -/
def Target.angleTokens (pieces : List (List Token)) (trailing : Bool) : List Token :=
  if pieces.isEmpty then [] else sym "<" ++ punctuated (sym ",") pieces trailing ++ sym ">"

namespace GenericParam

/-- The parameter with its attributes and bounds, but without its default. -/
def withoutDefault : GenericParam → GenericParam
  | type attributes n list trailing _ => type attributes n list trailing none
  | const attributes n ty _ => const attributes n ty none
  | p => p

def nameToken (p : GenericParam) : Token :=
  if p.isLifetime then .lifetime p.name else .ident p.name

/-- Only the default is left out in front of an impl. -/
theorem boundedTokens_eq (p : GenericParam) : p.boundedTokens = p.withoutDefault.declTokens := by
  cases p <;> exact (List.append_nil _).symm

/-- An argument is one token, whatever is declared about the parameter. -/
theorem argument_tokens (p : GenericParam) : p.argument.tokens = [p.nameToken] := by
  have hnamed (n : String) : (Ty.named n).tokens = [ident n] := by
    simp [Ty.named, Ty.tokens, Segment.tokensEach, Segment.tokens, separated, root]
  cases p with
  | lifetime attributes n list trailing => simp [argument, nameToken, isLifetime, name, Arg.tokens]
  | type attributes n list trailing default => exact hnamed n
  | const attributes n ty default => exact hnamed n

end GenericParam

namespace Generics

variable (g : Generics)

theorem angled_eq (write : GenericParam → List Token) :
    g.angled write = angleTokens (g.params.map write) g.trailing := by
  rw [angled, angleTokens, List.isEmpty_map]

/-- An impl declares its parameters without defaults. -/
theorem implTokens_eq :
    g.implTokens = angleTokens (g.params.map (·.withoutDefault.declTokens)) g.trailing := by
  rw [implTokens, angled_eq, funext GenericParam.boundedTokens_eq]

/-- The arguments are the names of the parameters. -/
theorem argTokens_eq : g.argTokens = angleTokens (g.params.map ([·.nameToken])) g.trailing := by
  rw [argTokens, angled_eq, funext GenericParam.argument_tokens]

end Generics

/-- An impl declares all parameters, with bounds and without defaults; a struct declares them as
they are written. -/
def Target.Block.DeclaresParams (own : Generics) : Block → Prop
  | .impl params .. =>
    params = angleTokens (own.params.map (·.withoutDefault.declTokens)) own.trailing
  | .struct _ params .. => params = angleTokens (own.params.map (·.declTokens)) own.trailing

/-- An item with the head of generics declares their parameters. -/
theorem Target.Block.HeadedBy.declaresParams {impls declared : Generics} {b : Block}
    (h : b.HeadedBy impls declared) (himpls : impls.implTokens = declared.implTokens) :
    b.DeclaresParams declared := by
  cases b with
  | impl params trait ty bounds functions => exact h.1.trans (himpls.trans declared.implTokens_eq)
  | struct name params bounds fields trailing => exact h.1.trans (declared.angled_eq _)

/-! ## The declared type for `Self` -/

/-- No parameter that was read is called `Self`. -/
theorem GenericParam.Readable.isCalledSelf_eq {p : GenericParam} (h : p.Readable) :
    p.isCalledSelf = false := by
  rw [isCalledSelf]
  rcases h with hlifetime | hname
  · rw [hlifetime]
    rfl
  · rw [decide_eq_false hname, Bool.and_false]

section

variable (self base : Ty)

/-- A named type is left as it is, unless it is `Self`. -/
theorem Ty.spell_named {n : String} (h : n ≠ "Self") :
    (Ty.named n).mapPaths (spellPath self base) = .named n := by
  simp only [named, mapPaths, Segment.mapPathsEach, Segment.mapPaths]
  exact spellPath_of_not_startsWithSelf (decide_eq_false h)

/-- So is an argument, which is a lifetime or a named type. -/
theorem GenericParam.spell_argument {p : GenericParam} (h : p.isCalledSelf = false) :
    p.argument.mapPaths (spellPath self base) = p.argument := by
  cases p with
  | lifetime attributes n list trailing => simp [argument, Arg.mapPaths]
  | type attributes n list trailing default =>
    have hn : n ≠ "Self" := of_decide_eq_false h
    rw [argument, Arg.mapPaths, Ty.spell_named self base hn]
  | const attributes n ty default =>
    have hn : n ≠ "Self" := of_decide_eq_false h
    rw [argument, Arg.mapPaths, Ty.spell_named self base hn]

end

/-- The declared type has no `Self` to be spelled out. -/
theorem Generics.spell_applied {g : Generics} (h : ∀ p ∈ g.params, p.Readable) (name : String) :
    (g.applied name).spell (g.applied name) (g.applied name) = g.applied name := by
  -- none of the arguments is `Self`
  have hargs (self base : Ty) :
      Arg.mapPathsEach (spellPath self base) (g.params.map GenericParam.argument) =
        g.params.map GenericParam.argument := by
    rw [Arg.mapPathsEach_eq_map, List.map_map]
    exact List.map_congr_left fun p hp => GenericParam.spell_argument _ _ (h p hp).isCalledSelf_eq
  rw [applied]
  split
  · by_cases hname : name = "Self"
    · -- a type of this name would stand for itself
      rw [hname]
      exact (Ty.named "Self").replaceSelf_self
    · exact Ty.spell_named _ _ hname
  · simp only [Ty.spell, Ty.mapPaths, Segment.mapPathsEach, Segment.mapPaths, hargs]
    exact spellPath_of_not_startsWithSelf rfl

/-- Generics with parameters that were read, with an item or on their own. -/
inductive Generics.Read : Generics → Prop where
  | item {source : String} {item : Item} (h : Item.read? source = some item) : Read item.generics
  | params {source : String} {written : List GenericParam} {trailing : Bool}
    (clause : Option WhereClause) (h : GenericParam.readList? source = some (written, trailing)) :
    Read (.ofParams written trailing clause)

/-- What was read has only parameters that could be. -/
theorem Generics.Read.readable {g : Generics} (h : g.Read) : ∀ p ∈ g.params, p.Readable := by
  cases h with
  | item h => exact (Reader.readWith_gives Grammar.gives_item_parts h).2
  | params clause h =>
    exact readable_ofParams (Reader.readWith_gives Grammar.gives_paramList h) _ clause

/-! ## Derived code -/

/-- Types in generated items are the declared one, the builder, or sampled ones. -/
theorem Deriver.expand_mentions {v : Deriver} {d : Declaration} {e : Expansion}
    (h : v.expand d = .ok e) : ∀ x ∈ e.items, x.item.Mentions d (v.sampledTypes d) := by
  obtain ⟨members, hkind, rfl⟩ | ⟨c, cs, -, rfl⟩ := v.expand_cases h
  · rw [sampledTypes, hkind]
    exact RecordScan.items_mention _ (.ofDeclaration v d)
  · exact c.items_mention (.ofDeclaration v d) _

/-- The types that impls are for, in the order of the items. -/
theorem Deriver.expand_targets {v : Deriver} {d : Declaration} {e : Expansion}
    (h : v.expand d = .ok e) :
    (∀ cases, d.kind = .taggedUnion cases → targetsOf e.items = [d.selfType, d.selfType]) ∧
      ∀ members, d.kind = .record members →
        targetsOf e.items = [d.selfType, d.builderType] ++
          (if Level.workspace ≤ (d.scan v.inherit members).effective.level then [d.builderType]
            else []) ++ [d.selfType] := by
  obtain ⟨ms, hkind, rfl⟩ | ⟨c, cs, hkind, rfl⟩ := v.expand_cases h
  · refine ⟨fun cases hcases => ?_, fun members hmembers => ?_⟩
    · rw [hkind] at hcases
      cases hcases
    · obtain rfl := DeclarationKind.record.inj (hkind.symm.trans hmembers)
      exact RecordScan.targets_expansion _ (.ofDeclaration v d)
  · refine ⟨fun cases hcases => ?_, fun members hmembers => ?_⟩
    -- bounds for sampling are not part of an applied type
    · have hrecord : (c.expansion (.ofDeclaration v d)).generics.applied d.name.text =
          d.selfType := Generics.sampling_applied _ _ _ _
      rw [← hrecord]
      rfl
    · rw [hkind] at hmembers
      cases hmembers

/-- **Generic arguments are the parameters.** The impls and the builder struct of a derived type
declare the parameters of the declaration, the impls without defaults. The types in these items are
the declared type and the builder, both with the names of the parameters as their arguments, and
types that are copied from the declaration. In those of a record the declared type takes the place
of `Self`, at the start of a longer path too, unless a parameter is called `Self`. None is that was
read. -/
theorem arguments_match_parameters (v : Deriver) {d : Declaration}
    (hkind : (∃ members, d.kind = .record members) ∨ ∃ c cs, d.kind = .taggedUnion (c :: cs)) :
    let own := d.generics
    let arguments := angleTokens (own.params.map ([·.nameToken])) own.trailing
    ∃ e, v.expand d = .ok e ∧ e.tokens = e.items.flatMap itemTokens ∧ e.HasItemsOf d.kind ∧
      e.generics = own.sampling (d.cratePath v.defaultCrate) (v.sampledTypes d) ∧
      (∀ x ∈ e.items, x.item.HeadedBy e.generics own ∧ x.item.DeclaresParams own ∧
        x.item.Mentions d (v.sampledTypes d)) ∧
      (∀ cases, d.kind = .taggedUnion cases → targetsOf e.items = [d.selfType, d.selfType]) ∧
      (∀ members, d.kind = .record members →
        targetsOf e.items = [d.selfType, d.builderType] ++
          (if Level.workspace ≤ (d.scan v.inherit members).effective.level then [d.builderType]
            else []) ++ [d.selfType] ∧
        (∃ f ∈ functionsOf e.items, f.item.name = "fixture_with" ∧
          f.item.params = [.callback "configure" d.builderType] ∧
          f.item.body.statements =
            [.letMut "builder" (.call (.associated d.builderType defaultTrait "default") []),
              .lend "configure" "builder"]) ∧
        v.sampledTypes d =
          (extract v.inherit members).fields.map fun f => f.type.replaceSelf d.selfType) ∧
      d.selfType.tokens = ident d.name.text :: arguments ∧
      d.builderType.tokens = ident d.builder :: arguments ∧
      (own.params = [] → arguments = [] ∧ own.implTokens = [] ∧ own.declTokens = []) ∧
      (∀ written trailing clause, own = .ofParams written trailing clause →
        own.params = written.filter (·.isLifetime) ++ written.filter (!·.isLifetime)) ∧
      (own.Read → ∀ p ∈ own.params, p.Readable) ∧
      ∃ base, (∀ ty : Ty, ty.replaceSelf d.selfType = ty.spell d.selfType base) ∧
        ((∀ p ∈ own.params, p.Readable) → base = d.selfType) := by
  intro own arguments
  obtain ⟨e, hexpand, hcx, hgenerics⟩ := v.expand_ok hkind
  -- the generics for sampling have the declared parameters
  have himpls : e.generics.implTokens = own.implTokens := by
    rw [hgenerics]
    exact Generics.sampling_angled _ _ _ _
  have harguments : own.argTokens = arguments := own.argTokens_eq
  have hitems : ∀ x ∈ e.items, x.item.HeadedBy e.generics own ∧ x.item.DeclaresParams own ∧
      x.item.Mentions d (v.sampledTypes d) := by
    intro x hx
    have hheaded := v.expand_headedBy hexpand x hx
    exact ⟨hheaded, hheaded.declaresParams himpls, v.expand_mentions hexpand x hx⟩
  obtain ⟨hunion, hrecord⟩ := v.expand_targets hexpand
  refine ⟨e, hexpand, e.items_tokens.symm, v.expand_hasItemsOf hexpand, hgenerics, hitems, hunion,
    fun members hmembers => ⟨hrecord members hmembers, ?_, ?_⟩, ?_, ?_, ?_, ?_,
    Generics.Read.readable, _, fun _ => rfl, fun hparams => Generics.spell_applied hparams _⟩
  · obtain rfl := Except.ok.inj ((v.expand_record hmembers).symm.trans hexpand)
    exact ⟨_, RecordScan.factory_mem_expansion _ _, rfl, rfl, rfl⟩
  · exact v.sampledTypes_record hmembers
  · rw [Declaration.selfType, Generics.applied_tokens, harguments]
  · rw [Declaration.builderType, Generics.applied_tokens, harguments]
  · intro hnone
    rw [← harguments, Generics.argTokens, Generics.implTokens, Generics.declTokens]
    simp [Generics.angled, hnone]
  · rintro written trailing clause hown
    rw [hown]
    rfl

/-- A struct with parameters of all three kinds, the lifetime not first, and with a field that
mentions the struct. -/
def gridSource : String :=
  "pub struct Grid<T: Copy = u8, 'a, #[allow(dead_code)] const N: usize = 4> \x7b
    pub cells: &'a [T; N], pub(crate) next: Option<Box<Self>>
  \x7d"

/-- Code for `Grid` declares its parameters in three ways, and lists them in one order. -/
theorem grid_arguments :
    ∃ item d e, Item.read? gridSource = some item ∧ Declaration.ofItem item = .ok d ∧
      ((∃ members, d.kind = .record members) ∨ ∃ c cs, d.kind = .taggedUnion (c :: cs)) ∧
      Deriver.standard.expand d = .ok e ∧
      (∀ x ∈ e.items, x.item.DeclaresParams d.generics) ∧
      text d.generics.declTokens =
        "< 'a , T : Copy = u8 , # [allow (dead_code)] const N : usize = 4 >" ∧
      text d.generics.implTokens =
        "< 'a , T : Copy , # [allow (dead_code)] const N : usize >" ∧
      text (angleTokens (d.generics.params.map ([·.nameToken])) d.generics.trailing) =
        "< 'a , T , N >" ∧
      (∀ ty : Ty, ty.replaceSelf d.selfType = ty.spell d.selfType d.selfType) := by
  -- the three lists are read off the text by one closed computation
  have hsource : ((Item.read? gridSource).bind fun item => item.body.structFields?.bind
      fun _ => (Declaration.ofItem item).toOption.map fun d =>
        (text d.generics.declTokens, text d.generics.implTokens,
          text (angleTokens (d.generics.params.map ([·.nameToken])) d.generics.trailing))) =
      some ("< 'a , T : Copy = u8 , # [allow (dead_code)] const N : usize = 4 >",
        "< 'a , T : Copy , # [allow (dead_code)] const N : usize >", "< 'a , T , N >") := by
    decide +kernel
  simp only [Option.bind_eq_some_iff, Option.map_eq_some_iff] at hsource
  obtain ⟨item, hread, fields, hbody, d, hlowered, hlists⟩ := hsource
  obtain ⟨hdecl, hothers⟩ := Prod.mk.inj hlists
  obtain ⟨himpl, hnames⟩ := Prod.mk.inj hothers
  have hd : Declaration.ofItem item = .ok d := toOption_eq_some.mp hlowered
  have hkind : (∃ members, d.kind = .record members) ∨ ∃ c cs, d.kind = .taggedUnion (c :: cs) :=
    .inl (Declaration.record_of_structFields? hbody hd)
  obtain ⟨e, hexpand, -, -, -, hitems, -, -, -, -, -, -, hreadable, base, hself, hbase⟩ :=
    arguments_match_parameters .standard hkind
  have hfrom : d.generics.Read := by
    rw [(Declaration.ofItem_ok hd).2.2.2.1]
    exact .item hread
  -- for parameters read from a text the base is the type itself
  obtain rfl := hbase (hreadable hfrom)
  exact ⟨item, d, e, hread, hd, hkind, hexpand, fun x hx => (hitems x hx).2.1, hdecl, himpl,
    hnames, hself⟩

end Specimen
