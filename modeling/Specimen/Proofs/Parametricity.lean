import Specimen.Proofs.SamplingBounds
import Specimen.Proofs.Target.Template

/-!
# Names that can be chosen

A type can say which crate `Sampleable` comes from and what its builder is called. Everything that
is generated for it is `Templated` in these two names, piece by piece from values up to expansions;
`expansion_parametric` puts the pieces together.
-/

namespace Specimen

open Token Target

variable {own : List Token} {base : Context}

/-- What all parts take together has what each part takes. -/
theorem subset_of_flatMap_subset {α : Type} {f : α → List Token} {xs : List α}
    (h : xs.flatMap f ⊆ own) {x : α} (hx : x ∈ xs) : f x ⊆ own :=
  fun _ ht => h (List.mem_flatMap.mpr ⟨x, hx, ht⟩)

/-! ## Values and bodies -/

def Value.material : Value → List Token
  | sample ty => ty.tokens
  | inferred => []
  | param name => [ident name]
  | paramOrSample name ty => ident name :: ty.tokens
  | default => []
  | none => []
  | built field => [ident field]
  | someBuilt field => [ident field]

namespace Value

/-- The crate comes in through the path of the trait; the rest is the type and marks. -/
theorem templated_sampleable {ty : Ty} (h : ty.tokens ⊆ own) :
    Templated own base fun cx => sampleable cx.crate ty := by
  refine ((((Templated.words ?_).append (.given h)).append (.words ?_)).append .sampleable).append
    (.words ?_)
  all_goals repeat constructor

/-- A built field is read from the builder, which is a local variable. -/
theorem templated_built {field : String} (h : ident field ∈ own) :
    Templated own base fun _ => builtTokens field := by
  refine (Templated.words ?_).append (.name h)
  repeat constructor

/-- Values are written with the trait, with words, and with what they take. -/
theorem templated (v : Value) (h : v.material ⊆ own) :
    Templated own base fun cx => v.tokens cx.crate := by
  cases v with
  | sample ty =>
    have hsample : Templated own base fun cx => sampleable cx.crate ty := templated_sampleable h
    refine ((hsample.append (.words ?_)).append (.words ?_)).append (.words ?_)
    all_goals repeat constructor
  | inferred =>
    -- the path of the trait is followed by the name of its function
    have hpath (cx : Context) : ((cx.crate.join "Sampleable").join "sample").tokens =
        (cx.crate.join "Sampleable").tokens ++ sym "::" ++ [ident "sample"] :=
      Path.join_tokens (List.append_ne_nil_of_right_ne_nil _ (List.cons_ne_nil _ _)) "sample"
    simp only [tokens, hpath]
    refine ((Templated.sampleable.append (.words ?_)).append (.words ?_)).append (.words ?_)
    all_goals repeat constructor
  | param name => exact .given h
  | paramOrSample name ty =>
    obtain ⟨hname, hty⟩ := List.cons_subset.mp h
    have harg : Templated own base fun cx =>
        sampleable cx.crate ty ++ sym "::" ++ [ident "sample"] := by
      refine ((templated_sampleable hty).append (.words ?_)).append (.words ?_)
      all_goals repeat constructor
    refine (((Templated.name hname).cons (.words ?_)).append (.words ?_)).append harg.parens
    all_goals repeat constructor
  | default =>
    refine .words ?_
    repeat constructor
  | none =>
    refine .words ?_
    repeat constructor
  | built field => exact templated_built (h List.mem_cons_self)
  | someBuilt field =>
    refine (Templated.words ?_).append (templated_built (h List.mem_cons_self)).parens
    repeat constructor

theorem templatedEach {args : List Value} (h : args.flatMap material ⊆ own) :
    TemplatedEach own base fun cx => args.map (tokens cx.crate) :=
  .map fun v hv => v.templated (subset_of_flatMap_subset h hv)

end Value

def Init.material (i : Init) : List Token := ident i.field :: i.value.material

namespace Init

theorem templated (i : Init) (h : i.material ⊆ own) :
    Templated own base fun cx => i.tokens cx.crate := by
  obtain ⟨hfield, hvalue⟩ := List.cons_subset.mp h
  refine ((Templated.name hfield).cons (.words ?_)).append (i.value.templated hvalue)
  repeat constructor

theorem templatedEach {inits : List Init} (h : inits.flatMap material ⊆ own) :
    TemplatedEach own base fun cx => inits.map (tokens cx.crate) :=
  .map fun i hi => i.templated (subset_of_flatMap_subset h hi)

end Init

def Instance.material : Instance → List Token
  | constructed args => args.flatMap Value.material
  | literal inits => inits.flatMap Init.material
  | unitCase name => [ident name]
  | unlabeledCase name args => ident name :: args.flatMap Value.material
  | labeledCase name inits => ident name :: inits.flatMap Init.material

namespace Instance

/-- A case is written behind `Self`, so the name of its type is not needed. -/
theorem templated_case {name : String} (h : ident name ∈ own) :
    Templated own base fun _ => caseTokens name := by
  refine (Templated.words ?_).append (.name h)
  repeat constructor

/-- An instance is written with its fields and arguments, in the brackets that its form asks for. -/
theorem templated (i : Instance) (h : i.material ⊆ own) :
    Templated own base fun cx => i.tokens cx.crate := by
  cases i with
  | constructed args =>
    refine (Templated.words ?_).append (Value.templatedEach h).commaSeparated.parens
    repeat constructor
  | literal inits =>
    refine Templated.cons (.words ?_) (Init.templatedEach h).commaSeparated.braces
    repeat constructor
  | unitCase name => exact templated_case (h List.mem_cons_self)
  | unlabeledCase name args =>
    obtain ⟨hname, hargs⟩ := List.cons_subset.mp h
    exact (templated_case hname).append (Value.templatedEach hargs).commaSeparated.parens
  | labeledCase name inits =>
    obtain ⟨hname, hinits⟩ := List.cons_subset.mp h
    exact (templated_case hname).append (Init.templatedEach hinits).commaSeparated.braces

end Instance

/-! ## Heads of items -/

/-- Some tokens have all that the head of a declaration consists of: its name, and its generics in
each form in which they are written. -/
structure Target.Covers (own : List Token) (d : Declaration) : Prop where
  name : ident d.name.text ∈ own
  declared : d.generics.declTokens ⊆ own
  parameters : d.generics.implTokens ⊆ own
  arguments : d.generics.argTokens ⊆ own
  predicates : d.generics.predicates.flatMap Predicate.tokens ⊆ own

/-- The guard is the same for all names, and it consists of words. -/
theorem Context.templated_guard : Templated own base guard := by
  have hwords : Spelled base.guard := by
    rw [guard]
    split
    · repeat constructor
    · exact .nil
  exact Templated.congr (.words hwords) fun _ _ _ => rfl

/-- Documentation may mention anything of the declaration but the two names. -/
theorem templated_documented {doc : Context → String}
    (h : ∀ path crate builder, doc (base.withNames path crate builder) = doc base) :
    Templated own base fun cx => cx.guard ++ docAttribute (doc cx) := by
  -- the documentation is a literal, whatever it says
  have hspelled : Spelled (docAttribute (doc base)) := by repeat constructor
  have hdoc : Templated own base fun _ => docAttribute (doc base) := .words hspelled
  refine Context.templated_guard.append (hdoc.congr fun path crate builder => ?_)
  rw [h]

/-- A where clause is nothing, or `where` and its pieces. -/
theorem templated_clause {pieces : Context → List (List Token)}
    (h : TemplatedEach own base pieces) (trailing : Bool) :
    Templated own base fun cx => clauseTokens (pieces cx) trailing := by
  refine h.orNothing (Templated.cons (.words ?_) (h.punctuated ?_ trailing))
  all_goals repeat constructor

theorem templated_bound {ty : Ty} (h : ty.tokens ⊆ own) :
    Templated own base fun cx => boundTokens cx.crate ty := by
  refine ((Templated.given h).append (.words ?_)).append .sampleable
  repeat constructor

namespace Target.Covers

variable (h : Covers own base.declaration)
include h

theorem templated_name : Templated own base fun cx => [ident cx.declaration.name.text] :=
  Templated.congr (.name h.name) fun _ _ _ => rfl

theorem templated_declared : Templated own base fun cx => cx.declaration.generics.declTokens :=
  Templated.congr (.given h.declared) fun _ _ _ => rfl

theorem templated_arguments : Templated own base fun cx => cx.declaration.generics.argTokens :=
  Templated.congr (.given h.arguments) fun _ _ _ => rfl

/-- The declared predicates, written one by one. -/
theorem templatedEach_predicates :
    TemplatedEach own base fun _ => base.declaration.generics.predicates.map Predicate.tokens :=
  .map fun _ hp => .given (subset_of_flatMap_subset h.predicates hp)

/-- The declared predicates mention neither of the two names. -/
theorem templated_where : Templated own base fun cx => cx.declaration.generics.whereTokens := by
  refine (templated_clause h.templatedEach_predicates
    base.declaration.generics.endsInComma).congr fun path crate builder => ?_
  exact base.declaration.generics.whereTokens_eq

section Sampling

variable {sampled : List Ty}

/-- Bounds for sampling are written in the where clause, so the parameters stay as they are. -/
theorem templated_impl : Templated own base fun cx =>
    (cx.declaration.generics.sampling cx.crate sampled).implTokens := by
  refine Templated.congr (.given h.parameters) fun path crate builder => ?_
  exact Generics.sampling_angled _ _ _ _

theorem templated_args : Templated own base fun cx =>
    (cx.declaration.generics.sampling cx.crate sampled).argTokens := by
  refine h.templated_arguments.congr fun path crate builder => ?_
  exact Generics.sampling_angled _ _ _ _

/-- The crate path stands in the bounds for sampling, if there are parameters and hence bounds. -/
theorem templated_bounds (hsampled : sampled.flatMap Ty.tokens ⊆ own) :
    Templated own base fun cx =>
      (cx.declaration.generics.sampling cx.crate sampled).whereTokens := by
  -- without parameters no bounds are written, and the clause is the declared one
  by_cases hparams : base.declaration.generics.params = []
  · refine h.templated_where.congr fun path crate builder => ?_
    have hsampling : base.declaration.generics.sampling path sampled =
        base.declaration.generics := by
      rw [Generics.sampling, hparams]
      rfl
    exact congrArg Generics.whereTokens hsampling
  · have hbounds : TemplatedEach own base fun cx => sampled.map (boundTokens cx.crate) :=
      .map fun _ hty => templated_bound (subset_of_flatMap_subset hsampled hty)
    refine (templated_clause (h.templatedEach_predicates.append hbounds)
      (base.declaration.generics.endsInComma && sampled.isEmpty)).congr
        fun path crate builder => ?_
    exact Generics.sampling_whereTokens hparams path sampled

end Sampling

end Target.Covers

/-! ## Fragments -/

def Param.material (p : Param) : List Token := ident p.name :: p.type.tokens

/-- A parameter is its name and its type, which is wrapped if the field has a default. -/
theorem Param.templated (p : Param) (h : p.material ⊆ own) :
    Templated own base fun _ => p.tokens := by
  obtain ⟨hname, htype⟩ := List.cons_subset.mp h
  refine ((Templated.name hname).cons (.words ?_)).append ?_
  · repeat constructor
  · cases p.optional with
    | true =>
      refine (((Templated.words ?_).append (.words ?_)).append (.given htype)).append (.words ?_)
      all_goals repeat constructor
    | false => exact .given htype

/-- The constructor mentions the crate in the values that its fields are set to. -/
theorem Constructor.templated (c : Constructor) (hvisibility : c.visibility.tokens ⊆ own)
    (hparams : c.params.flatMap Param.material ⊆ own)
    (hinits : (c.inits ++ c.fillers).flatMap Init.material ⊆ own) :
    Templated own base fun cx => c.tokens cx := by
  have hlist : TemplatedEach own base fun _ => c.params.map Param.tokens :=
    .map fun p hp => p.templated (subset_of_flatMap_subset hparams hp)
  have hbody : Templated own base fun cx => ident "Self" ::
      braces (commaTerminated ((c.inits ++ c.fillers).map (Init.tokens cx.crate))) := by
    refine Templated.cons (.words ?_) (Init.templatedEach hinits).commaTerminated.braces
    repeat constructor
  refine (((templated_documented fun _ _ _ => rfl).append (.words ?_)).append
    (.given hvisibility)).append (.fnTokens ?_ hlist.commaSeparated hbody)
  all_goals repeat constructor

/-- The accessor mentions the crate in its body. -/
theorem SampleAccessor.templated (a : SampleAccessor) (hvisibility : a.visibility.tokens ⊆ own)
    (hbody : a.body.material ⊆ own) : Templated own base fun cx => a.tokens cx := by
  refine ((templated_documented fun _ _ _ => rfl).append (.given hvisibility)).append
    (.fnTokens ?_ (.words .nil) (a.body.templated hbody))
  repeat constructor

/-- The factory mentions the builder twice: it lends one to its argument, and starts with one. -/
theorem Factory.templated (f : Factory) (h : Covers own base.declaration)
    (hvisibility : f.visibility.tokens ⊆ own) (hbody : f.body.material ⊆ own) :
    Templated own base fun cx => f.tokens cx := by
  have hbuilder : Templated own base fun cx =>
      ident cx.declaration.builder :: cx.declaration.generics.argTokens :=
    Templated.builder.cons h.templated_arguments
  have hlent : Templated own base fun cx => sym "&" ++ ident "mut" ::
      ident cx.declaration.builder :: cx.declaration.generics.argTokens := by
    refine (Templated.words ?_).append (Templated.cons (.words ?_) hbuilder)
    all_goals repeat constructor
  have hparam : Templated own base fun cx => ident "configure" :: sym ":" ++ [ident "impl"] ++
      corePath ["ops", "FnOnce"] ++ parens (sym "&" ++ ident "mut" ::
        ident cx.declaration.builder :: cx.declaration.generics.argTokens) ++ sym "," := by
    refine ((Templated.words ?_).append hlent.parens).append (.words ?_)
    all_goals repeat constructor
  have hstart : Templated own base fun cx => words ["let", "mut", "builder"] ++ sym "=" ++
      sym "<" ++ ident cx.declaration.builder :: cx.declaration.generics.argTokens ++
      [ident "as"] ++ corePath ["default", "Default"] ++ sym ">" ++ sym "::" ++
      [ident "default"] ++ parens [] ++ sym ";" := by
    -- all that follows the builder type is words
    simp only [List.append_assoc]
    refine (Templated.words ?_).append ((Templated.words ?_).append ((Templated.words ?_).append
      (hbuilder.append (.words ?_))))
    all_goals repeat constructor
  have hadjust : Spelled (ident "configure" ::
      parens (sym "&" ++ words ["mut", "builder"]) ++ sym ";") := by repeat constructor
  refine ((templated_documented fun _ _ _ => rfl).append (.given hvisibility)).append
    (.fnTokens ?_ hparam ((hstart.append (.words hadjust)).append (f.body.templated hbody)))
  repeat constructor

def Seed.material (s : Seed) : List Token := ident s.field :: s.type.tokens

namespace Builder

variable (b : Builder) (h : Covers own base.declaration)
include h

/-- The struct of a builder has no bounds for sampling, so there is no crate in it. -/
theorem templated_struct (hvisibility : b.visibility.tokens ⊆ own)
    (hseeds : b.seeds.flatMap Seed.material ⊆ own) (hmarker : ∀ m ∈ b.marker, ident m ∈ own) :
    Templated own base fun cx => b.structTokens cx := by
  have hfields : TemplatedEach own base fun _ => b.seeds.map fun s =>
      b.visibility.tokens ++ ident s.field :: sym ":" ++ s.type.tokens := by
    refine .map fun s hs => ?_
    obtain ⟨hname, htype⟩ := List.cons_subset.mp (subset_of_flatMap_subset hseeds hs)
    refine ((Templated.given hvisibility).append
      ((Templated.name hname).cons (.words ?_))).append (.given htype)
    repeat constructor
  have hself : Templated own base fun cx => cx.declaration.selfType.tokens := by
    simp only [Declaration.selfType, Generics.applied_tokens]
    exact h.templated_name.cons h.templated_arguments
  have hname : Templated own base fun cx => words ["struct", cx.declaration.builder] := by
    refine Templated.cons (.words ?_) .builder
    repeat constructor
  refine ((((((templated_documented fun _ _ _ => rfl).append (.words ?_)).append
    (.given hvisibility)).append hname).append h.templated_declared).append
      h.templated_where).append (hfields.commaTerminated.append ?_).braces
  · repeat constructor
  · cases hm : b.marker with
    | none => exact .words .nil
    | some m =>
      -- around the declared type the marker's type is words
      refine (((Templated.name (hmarker m hm)).cons (.words ?_)).append hself).append (.words ?_)
      all_goals repeat constructor

section Bounded

variable {sampled : List Ty} (hsampled : sampled.flatMap Ty.tokens ⊆ own)
include hsampled

/-- An impl for the builder is written with the bounds for sampling. -/
theorem templated_impl {trait : List Token} (htrait : Spelled trait)
    {body : Context → List Token} (hbody : Templated own base body) :
    Templated own base fun cx => Builder.implTokens cx
      { b with generics := cx.declaration.generics.sampling cx.crate sampled } trait (body cx) := by
  have htarget : Templated own base fun cx => ident cx.declaration.builder ::
      (cx.declaration.generics.sampling cx.crate sampled).argTokens :=
    Templated.builder.cons h.templated_args
  refine ((((((Context.templated_guard.append (.words ?_)).append (.words ?_)).append
    h.templated_impl).append (.words htrait)).append htarget).append
      (h.templated_bounds hsampled)).append hbody.braces
  all_goals repeat constructor

/-- Each field of the builder starts as a sample. -/
theorem templated_default (hseeds : b.seeds.flatMap Seed.material ⊆ own)
    (hmarker : ∀ m ∈ b.marker, ident m ∈ own) :
    Templated own base fun cx => Builder.defaultTokens cx
      { b with generics := cx.declaration.generics.sampling cx.crate sampled } := by
  have hinits : TemplatedEach own base fun cx =>
      b.seeds.map fun s => (Init.mk s.field (.sample s.type)).tokens cx.crate :=
    .map fun s hs => Init.templated _ (subset_of_flatMap_subset hseeds hs)
  refine b.templated_impl h hsampled ?_ (.fnTokens ?_ (.words .nil)
    (Templated.cons (.words ?_) (hinits.commaTerminated.append ?_).braces))
  · repeat constructor
  · repeat constructor
  · repeat constructor
  · cases hm : b.marker with
    | none => exact .words .nil
    | some m =>
      refine ((Templated.name (hmarker m hm)).cons (.words ?_)).append (.words ?_)
      all_goals repeat constructor

/-- How far the builder is seen decides whether `new` is written, and the names do not. -/
theorem templated_new (hvisibility : b.visibility.tokens ⊆ own) :
    Templated own base fun cx => Builder.newTokens cx
      { b with generics := cx.declaration.generics.sampling cx.crate sampled } := by
  -- a builder within the crate is made by its `Default` only
  by_cases hlevel : Level.workspace ≤ b.visibility.level
  · simp only [newTokens, hlevel, if_true]
    refine b.templated_impl h hsampled .nil ((Templated.given hvisibility).append
      (.fnTokens ?_ (.words .nil) (.words ?_)))
    all_goals repeat constructor
  · simp only [newTokens, hlevel, if_false]
    exact .words .nil

/-- A builder is its struct with two impls, or three where it goes beyond the crate. -/
theorem templated (hvisibility : b.visibility.tokens ⊆ own)
    (hseeds : b.seeds.flatMap Seed.material ⊆ own) (hmarker : ∀ m ∈ b.marker, ident m ∈ own) :
    Templated own base fun cx => Builder.tokens cx
      { b with generics := cx.declaration.generics.sampling cx.crate sampled } :=
  ((b.templated_struct h hvisibility hseeds hmarker).append
    (b.templated_default h hsampled hseeds hmarker)).append
      (b.templated_new h hsampled hvisibility)

end Bounded

end Builder

/-! ## Expansions -/

/-- An expansion is templated if its fragments are: both impls are written around them. -/
theorem Expansion.templated {e : Context → Expansion} {sampled : List Ty}
    (hcontext : ∀ cx, (e cx).context = cx)
    (hgenerics : ∀ cx, (e cx).generics = cx.declaration.generics.sampling cx.crate sampled)
    (h : Covers own base.declaration) (hsampled : sampled.flatMap Ty.tokens ⊆ own)
    (hmembers : Templated own base fun cx => (e cx).tokensOf (·.isMember))
    (hbeside : Templated own base fun cx => (e cx).tokensOf (!·.isMember)) :
    Templated own base fun cx => (e cx).tokens := by
  -- the printed parts one by one, then their concatenation in the order they are written
  have himpl : Templated own base fun cx => (e cx).generics.implTokens := by
    simp only [hgenerics]
    exact h.templated_impl
  have htarget : Templated own base fun cx => (e cx).target := by
    simp only [target, hcontext, hgenerics]
    exact (h.templated_name.cons h.templated_args).append (h.templated_bounds hsampled)
  have hinherent : Templated own base fun cx => (e cx).inherent := by
    refine (((Templated.words ?_).append himpl).append htarget).append hmembers.braces
    repeat constructor
  have hconformance : Templated own base fun cx => (e cx).conformance := by
    simp only [conformance, hcontext]
    refine ((((((Context.templated_guard.append (.words ?_)).append (.words ?_)).append
      himpl).append .sampleable).append (.words ?_)).append htarget).append (.words ?_)
    all_goals repeat constructor
  exact (hinherent.append hbeside).append hconformance

/-- What a field takes from the declaration: its name, that of its parameter, and its type. -/
def Field.material (f : Field) : List Token := words [f.name, f.parameter] ++ f.type.tokens

/-- What is made of fields one by one takes no more than they do. -/
theorem Field.map_material_subset {fields : List Field} (h : fields.flatMap material ⊆ own)
    {α : Type} {make : Field → α} {taken : α → List Token}
    (hmake : ∀ f, taken (make f) ⊆ f.material) : (fields.map make).flatMap taken ⊆ own := by
  intro t ht
  rw [List.flatMap_map] at ht
  obtain ⟨f, hf, ht⟩ := List.mem_flatMap.mp ht
  exact subset_of_flatMap_subset h hf (hmake f ht)

namespace RecordScan

def material (s : RecordScan) : List Token :=
  s.fields.flatMap Field.material ++ words s.fillers ++ s.typeVisibility.tokens ++
    s.effective.tokens ++ [ident (markerName (s.fields.map (·.name)))]

structure Within (s : RecordScan) (own : List Token) : Prop where
  fields : s.fields.flatMap Field.material ⊆ own
  fillers : words s.fillers ⊆ own
  typeVisibility : s.typeVisibility.tokens ⊆ own
  effective : s.effective.tokens ⊆ own
  marker : ident (markerName (s.fields.map (·.name))) ∈ own

variable (s : RecordScan)

/-! ### The fragments of a record -/

theorem fillerInits_material : s.fillerInits.flatMap Init.material = words s.fillers := by
  rw [fillerInits, List.flatMap_map]
  exact List.map_eq_flatMap.symm

variable {s}

/-- What a record is built from is its arguments and its fillers, by name or in order. -/
theorem Within.construct {args : List Value} (hs : s.Within own)
    (hargs : args.flatMap Value.material ⊆ own) : (s.construct args).material ⊆ own := by
  rw [RecordScan.construct]
  split
  · exact hargs
  · rw [Instance.material, fillerInits_material]
    exact hs.fillers

theorem Within.sampled (hs : s.Within own) : s.sampled.flatMap Ty.tokens ⊆ own :=
  Field.map_material_subset hs.fields fun _ => List.subset_append_right _ _

theorem Within.templated_constructor (hs : s.Within own) :
    Templated own base fun cx => s.constructor.tokens cx := by
  refine s.constructor.templated hs.effective ?_ ?_
  · refine Field.map_material_subset hs.fields fun f => ?_
    simp [Field.param, Param.material, Field.material, words]
  · rw [List.flatMap_append, List.append_subset]
    refine ⟨Field.map_material_subset hs.fields fun f => ?_, ?_⟩
    · cases h : f.hasDefault <;>
        simp [Field.init, Init.material, Value.material, Field.material, words, h]
    · exact s.fillerInits_material.symm ▸ hs.fillers

theorem Within.templated_sampleAccessor (hs : s.Within own) :
    Templated own base fun cx => (s.sampleAccessor cx.declaration.name.text).tokens cx := by
  have hargs : (s.fields.map (·.sampleArg)).flatMap Value.material ⊆ own := by
    refine Field.map_material_subset hs.fields fun f => ?_
    cases h : f.hasDefault <;> simp [Field.sampleArg, Value.material, Field.material, h]
  refine ((s.sampleAccessor base.declaration.name.text).templated hs.typeVisibility
    (hs.construct hargs)).congr fun path crate builder => rfl

/-- The factory passes each field on from the builder, named twice if it has a default. -/
theorem Within.templated_factory (hs : s.Within own) (h : Covers own base.declaration) :
    Templated own base fun cx => s.factory.tokens cx := by
  have hargs : (s.fields.map (·.builtArg)).flatMap Value.material ⊆ own := by
    refine Field.map_material_subset hs.fields fun f => ?_
    cases hd : f.hasDefault <;> simp [Field.builtArg, Value.material, Field.material, words, hd]
  exact s.factory.templated h hs.effective (hs.construct hargs)

/-- The parameters of a declaration decide on the marker of its builder, the crate does not. -/
theorem builderIn_withNames (path : Path) (crate : Option Path) (builder : Option Ident) :
    s.builderIn (base.withNames path crate builder) =
      { s.builderIn base with generics := base.declaration.generics.sampling path s.sampled } := by
  have hmarker : (s.builderIn (base.withNames path crate builder)).marker =
      (s.builderIn base).marker := by
    rw [builderIn_marker, builderIn_marker]
    rfl
  show Builder.mk _ _ (s.builderIn (base.withNames path crate builder)).marker _ = _
  rw [hmarker]
  rfl

theorem Within.templated_builder (hs : s.Within own) (h : Covers own base.declaration) :
    Templated own base fun cx => (s.builderIn cx).tokens cx := by
  have hseeds : (s.builderIn base).seeds.flatMap Seed.material ⊆ own := by
    refine Field.map_material_subset hs.fields fun f => ?_
    simp [Seed.material, Field.material, words]
  have hmarker : ∀ m ∈ (s.builderIn base).marker, ident m ∈ own := by
    intro m hm
    rw [builderIn_marker] at hm
    split at hm
    · cases hm
    · rw [← Option.some.inj hm]
      exact hs.marker
  -- the builder of another context has the same seeds and marker, only its name differs
  refine ((s.builderIn base).templated h hs.sampled hs.effective hseeds hmarker).congr
    fun path crate builder => ?_
  rw [builderIn_withNames]
  rfl

/-! ### All of a record -/

/-- The functions of a record. -/
theorem expansion_members (cx : Context) :
    (s.expansion cx).tokensOf (·.isMember) =
      (if s.hasConstructor then s.constructor.tokens cx else []) ++
        (s.sampleAccessor cx.declaration.name.text).tokens cx ++ s.factory.tokens cx := by
  cases h : s.hasConstructor <;>
    simp [Expansion.tokensOf, expansion, h, Fragment.kind, FragmentKind.isMember, Fragment.tokens]

/-- The items beside a record. -/
theorem expansion_beside (cx : Context) :
    (s.expansion cx).tokensOf (!·.isMember) = (s.builderIn cx).tokens cx := by
  cases h : s.hasConstructor <;>
    simp [Expansion.tokensOf, expansion, h, Fragment.kind, FragmentKind.isMember, Fragment.tokens,
      builderIn]

/-- All fragments of a record take what the record takes. -/
theorem Within.templated (hs : s.Within own) (h : Covers own base.declaration) :
    Templated own base fun cx => (s.expansion cx).tokens := by
  refine Expansion.templated (fun _ => rfl) (fun _ => rfl) h hs.sampled ?_ ?_
  · simp only [expansion_members]
    refine (Templated.append ?_ hs.templated_sampleAccessor).append (hs.templated_factory h)
    cases s.hasConstructor with
    | true => exact hs.templated_constructor
    | false => exact .words .nil
  · simp only [expansion_beside]
    exact hs.templated_builder h

end RecordScan

namespace Case

/-- What the sample of a case takes from the declaration, and the types that it samples. -/
def material (c : Case) : List Token :=
  ident c.name :: words (c.payload.labels.getD []) ++ c.payload.types.flatMap Ty.tokens

/-- A sample names its case and its labels. Its types are only sampled. -/
theorem sample_material_subset (c : Case) : c.sample.material ⊆ c.material := by
  rw [sample, material]
  cases c.payload with
  | unit => simp [Instance.material]
  | unlabeled types =>
    have hargs : (types.map fun _ => Value.inferred).flatMap Value.material = [] := by
      rw [List.flatMap_map]
      exact List.flatMap_eq_nil_iff.mpr fun _ _ => rfl
    rw [Instance.material, hargs]
    simp
  | labeled params =>
    have hinits : (params.map fun p => Init.mk p.1 .inferred).flatMap Init.material =
        words (params.map (·.1)) := by
      rw [List.flatMap_map, words, List.map_map]
      exact List.map_eq_flatMap.symm
    show ident c.name :: (params.map fun p => Init.mk p.1 .inferred).flatMap Init.material ⊆ _
    rw [hinits]
    exact List.subset_append_left _ _

/-- The expansion of a case has one fragment, and bounds for the types that it samples. -/
theorem templated (c : Case) (h : Covers own base.declaration) (hc : c.material ⊆ own)
    (hvisibility : (base.declaration.typeVisibility.getD .unstated).tokens ⊆ own) :
    Templated own base fun cx => (c.expansion cx).tokens := by
  have hsampled : c.payload.types.flatMap Ty.tokens ⊆ own :=
    List.Subset.trans (List.subset_append_right _ _) hc
  have haccessor : Templated own base fun cx =>
      (c.sampleAccessor cx.declaration).tokens cx := by
    refine ((c.sampleAccessor base.declaration).templated hvisibility
      (List.Subset.trans c.sample_material_subset hc)).congr fun path crate builder => rfl
  refine Expansion.templated (fun _ => rfl) (fun _ => rfl) h hsampled ?_ ?_
  · have hmembers (cx : Context) : (c.expansion cx).tokensOf (·.isMember) =
        (c.sampleAccessor cx.declaration).tokens cx := List.append_nil _
    simp only [hmembers]
    exact haccessor
  · exact .words .nil

end Case

/-! ## Words of the generator -/

/-- All that a declaration brings into its code, other than by its options: its name and generics,
and what is taken from its fields or its first case. -/
def Declaration.material (d : Declaration) (inherit : Bool) : List Token :=
  ident d.name.text :: d.generics.declTokens ++ d.generics.implTokens ++ d.generics.argTokens ++
    d.generics.predicates.flatMap Predicate.tokens ++
      match d.kind with
      | .record members => (d.scan inherit members).material
      | .taggedUnion (c :: _) => c.material ++ (d.typeVisibility.getD .unstated).tokens
      | _ => []

end Specimen
