import Specimen.Proofs.Target.Reading

/-!
# The types in generated code

The types in generated items are of two kinds: the declared type and its builder, which the code is
about, and types that are copied from the declaration. `RecordScan.items_mention` and
`Case.items_mention` say where each of them stands.
-/

namespace Specimen

open Token Target

def Declaration.builderType (d : Declaration) : Ty := d.generics.applied d.builder

/-! ## Where types stand -/

namespace Target

def Callee.types : Callee → List Ty
  | associated ty _ _ => [ty]
  | _ => []

mutual

def Expr.types : Expr → List Ty
  | .variable _ => []
  | .field .. => []
  | .constant c => c.types
  | .call c args => c.types ++ Expr.typesEach args
  | .method receiver _ arg => receiver.types ++ arg.types

def Expr.typesEach : List Expr → List Ty
  | [] => []
  | e :: es => e.types ++ Expr.typesEach es

end

theorem Expr.typesEach_eq_flatMap (es : List Expr) : Expr.typesEach es = es.flatMap Expr.types := by
  induction es with
  | nil => simp [Expr.typesEach]
  | cons e es ih => simp [Expr.typesEach, ih]

def Statement.types : Statement → List Ty
  | letMut _ e => e.types
  | lend .. => []

def Tail.types : Tail → List Ty
  | expr e => e.types
  | literal entries _ => entries.flatMap (·.2.types)
  | caseLiteral _ entries => entries.flatMap (·.2.types)

/-- A parameter takes a value of a type from the list `copied`, or lends `builder` to a callback. -/
def Parameter.Mentions (builder : Ty) (copied : List Ty) : Parameter → Prop
  | value p => p.type ∈ copied
  | callback _ target => target = builder

/-- All types in a function are copied, but for the builder in statements and for callbacks, and for
`Self`. -/
structure Function.Mentions (builder : Ty) (copied : List Ty) (f : Function) : Prop where
  params : ∀ p ∈ f.params, p.Mentions builder copied
  statements : ∀ s ∈ f.body.statements, ∀ ty ∈ s.types, ty = builder
  tail : ∀ ty ∈ f.body.tail.types, ty ∈ copied ∨ ty = .named "Self"

/-- An impl is for the declared type or for its builder. A struct is the builder; its fields are of
copied types, and after them there is a marker for the declared type if there are parameters. -/
def Block.Mentions (d : Declaration) (copied : List Ty) : Block → Prop
  | .impl _ _ ty _ functions =>
    (ty = d.selfType ∨ ty = d.builderType) ∧
      ∀ f ∈ functions, f.item.Mentions d.builderType copied
  | .struct name _ _ fields _ =>
    name = d.builder ∧ ∃ slots marker, fields.map (·.item) =
        slots ++ (if d.generics.params.isEmpty then [] else [(marker, markerOf d.selfType)]) ∧
      ∀ slot ∈ slots, slot.2 ∈ copied

def Block.target? : Block → Option Ty
  | impl _ _ ty _ _ => some ty
  | struct .. => none

def targetsOf (items : List (Declared Block)) : List Ty := items.filterMap (·.item.target?)

end Target

/-! ## Types in generated functions -/

def Value.types : Value → List Ty
  | sample ty => [ty]
  | paramOrSample _ ty => [ty]
  | _ => []

/-- To write a value as an expression adds no types. -/
theorem Value.types_expr (crate : Path) (v : Value) : (v.expr crate).types = v.types := by
  cases v <;> simp [expr, types, Target.Expr.types, Target.Expr.typesEach, Callee.types]

def Instance.types : Instance → List Ty
  | constructed args => args.flatMap (·.types)
  | literal inits => inits.flatMap (·.value.types)
  | unitCase _ => []
  | unlabeledCase _ args => args.flatMap (·.types)
  | labeledCase _ inits => inits.flatMap (·.value.types)

/-- The end of a body has the types of the instance that it is written for. -/
theorem Instance.types_tail (crate : Path) (i : Instance) : (i.tail crate).types = i.types := by
  cases i <;>
    simp [tail, types, Tail.types, Target.Expr.types, Target.Expr.typesEach_eq_flatMap,
      Callee.types, Init.entry, Value.types_expr, List.flatMap_map]

namespace Field

/-- The constructor mentions the type of a field only to sample a default. -/
theorem init_types {f : Field} {ty : Ty} (h : ty ∈ f.init.value.types) : ty = f.type := by
  rw [init] at h
  split at h
  · exact List.mem_singleton.mp h
  · cases h

/-- The sample accessor mentions it only where it does not leave it to the constructor. -/
theorem sampleArg_types {f : Field} {ty : Ty} (h : ty ∈ f.sampleArg.types) : ty = f.type := by
  rw [sampleArg] at h
  split at h
  · cases h
  · exact List.mem_singleton.mp h

/-- What the builder holds is passed on without its type. -/
theorem builtArg_types (f : Field) : f.builtArg.types = [] := by
  rw [builtArg]
  split <;> rfl

end Field

section

variable (builder : Ty) {copied : List Ty}

/-- There are types in the body alone. -/
theorem SampleAccessor.function_mentions (crate : Path) (a : SampleAccessor)
    (h : ∀ ty ∈ a.body.types, ty ∈ copied) : (a.function crate).Mentions builder copied := by
  refine ⟨nofun, nofun, fun ty hty => .inl (h ty ?_)⟩
  rwa [← a.body.types_tail crate]

/-- The function of the trait calls the sample accessor, whose type is `Self`. -/
theorem sampleFunction_mentions : sampleFunction.Mentions builder copied := by
  refine ⟨nofun, nofun, ?_⟩
  simp [sampleFunction, Tail.types, Target.Expr.types, Target.Expr.typesEach, Callee.types]

theorem Builder.newFunction_mentions : newFunction.Mentions builder copied := by
  refine ⟨nofun, nofun, ?_⟩
  simp [newFunction, Tail.types, Target.Expr.types, Target.Expr.typesEach, Callee.types]

/-- The fields are sampled by their types. -/
theorem Builder.seeding_mentions (crate : Path) (b : Builder) (h : ∀ s ∈ b.seeds, s.type ∈ copied) :
    (b.seeding crate).Mentions builder copied := by
  refine ⟨nofun, nofun, fun ty hty => .inl ?_⟩
  obtain ⟨entry, hentry, hty⟩ := List.mem_flatMap.mp hty
  -- a type stands only in a seed's request for a sample
  rcases List.mem_append.mp hentry with hseed | hmarker
  · obtain ⟨s, hs, rfl⟩ := List.mem_map.mp hseed
    rw [Init.entry, Value.types_expr] at hty
    rw [List.mem_singleton.mp hty]
    exact h s hs
  · -- the marker's value is written without its type
    obtain ⟨m, -, rfl⟩ := List.mem_map.mp hmarker
    simp [Target.Expr.types, Callee.types] at hty

/-- The factory names the builder twice, and has the types of its body otherwise. -/
theorem Factory.function_mentions (crate : Path) (f : Factory)
    (h : ∀ ty ∈ f.body.types, ty ∈ copied) :
    (f.function crate builder).Mentions builder copied := by
  refine ⟨?_, ?_, fun ty hty => .inl (h ty ?_)⟩
  · intro p hp
    rw [List.mem_singleton.mp hp]
    rfl
  · simp [function, Statement.types, Target.Expr.types, Target.Expr.typesEach, Callee.types]
  · rwa [← f.body.types_tail crate]

/-- The parameters bring types, and so do the values that the fields are set to. -/
theorem Constructor.function_mentions (crate : Path) (c : Constructor)
    (hparams : ∀ p ∈ c.params, p.type ∈ copied)
    (hinits : ∀ i ∈ c.inits ++ c.fillers, ∀ ty ∈ i.value.types, ty ∈ copied) :
    (c.function crate).Mentions builder copied := by
  refine ⟨?_, nofun, fun ty hty => .inl ?_⟩
  · intro p hp
    obtain ⟨param, hparam, rfl⟩ := List.mem_map.mp hp
    exact hparams param hparam
  · obtain ⟨entry, hentry, hty⟩ := List.mem_flatMap.mp hty
    obtain ⟨i, hi, rfl⟩ := List.mem_map.mp hentry
    rw [Init.entry, Value.types_expr] at hty
    exact hinits i hi ty hty

end

/-! ## Types in items -/

/-- An impl of the builder is for the builder type. -/
theorem Builder.impl_mentions {b : Builder} {cx : Context} {copied : List Ty}
    (hgenerics : b.generics.applied cx.declaration.builder = cx.declaration.builderType)
    (trait : List Token) {f : Declared Function}
    (hf : f.item.Mentions cx.declaration.builderType copied) :
    (b.impl cx trait f).item.Mentions cx.declaration copied := by
  refine ⟨.inr hgenerics, fun g hg => ?_⟩
  rwa [List.mem_singleton.mp hg]

/-- The two impls of the declared type, which all expansions have. -/
theorem Expansion.impls_mention {e : Expansion} {copied : List Ty}
    (hgenerics : e.generics.applied e.context.declaration.name.text =
      e.context.declaration.selfType)
    (hfunctions : ∀ f ∈ e.functions, f.item.Mentions e.context.declaration.builderType copied) :
    ∀ x ∈ [e.inherentImpl, e.conformanceImpl], x.item.Mentions e.context.declaration copied := by
  intro x hx
  rcases List.mem_cons.mp hx with rfl | hx
  · exact ⟨.inl hgenerics, hfunctions⟩
  · rw [List.mem_singleton.mp hx]
    refine ⟨.inl hgenerics, fun f hf => ?_⟩
    rw [List.mem_singleton.mp hf]
    exact sampleFunction_mentions _

namespace RecordScan

variable (s : RecordScan) (cx : Context)

theorem fillerInits_types : ∀ i ∈ s.fillerInits, i.value.types = [] := by
  intro i hi
  obtain ⟨name, -, rfl⟩ := List.mem_map.mp hi
  rfl

/-- An instance has the types of its arguments; fillers have none. -/
theorem construct_types {args : List Value} {copied : List Ty}
    (h : ∀ a ∈ args, ∀ ty ∈ a.types, ty ∈ copied) :
    ∀ ty ∈ (s.construct args).types, ty ∈ copied := by
  intro ty hty
  rw [construct] at hty
  split at hty
  · obtain ⟨a, ha, hty⟩ := List.mem_flatMap.mp hty
    exact h a ha ty hty
  · obtain ⟨i, hi, hty⟩ := List.mem_flatMap.mp hty
    rw [s.fillerInits_types i hi] at hty
    cases hty

/-- The type of a field is sampled. -/
theorem type_mem_sampled {f : Field} (hf : f ∈ s.fields) : f.type ∈ s.sampled :=
  List.mem_map_of_mem hf

/-- All types in the constructor are those of fields. -/
theorem constructor_mentions (builder : Ty) :
    (s.constructor.function cx.crate).Mentions builder s.sampled := by
  refine Constructor.function_mentions _ _ _ (fun p hp => ?_) (fun i hi ty hty => ?_)
  · obtain ⟨f, hf, rfl⟩ := List.mem_map.mp hp
    exact s.type_mem_sampled hf
  · rcases List.mem_append.mp hi with hinit | hfiller
    · obtain ⟨f, hf, rfl⟩ := List.mem_map.mp hinit
      rw [Field.init_types hty]
      exact s.type_mem_sampled hf
    · rw [s.fillerInits_types i hfiller] at hty
      cases hty

/-- All types in the functions of a record are those of fields. -/
theorem functions_mention :
    ∀ f ∈ (s.expansion cx).functions,
      f.item.Mentions cx.declaration.builderType s.sampled := by
  intro f hf
  rw [expansion_functions] at hf
  rcases List.mem_append.mp hf with hconstructor | hf
  · split at hconstructor
    · rw [List.mem_singleton.mp hconstructor]
      exact s.constructor_mentions cx _
    · cases hconstructor
  -- the sample accessor samples its arguments, the factory takes them from the builder
  rcases List.mem_cons.mp hf with rfl | hfactory
  · refine SampleAccessor.function_mentions _ _ _ (s.construct_types fun a ha ty hty => ?_)
    obtain ⟨g, hg, rfl⟩ := List.mem_map.mp ha
    rw [Field.sampleArg_types hty]
    exact s.type_mem_sampled hg
  · rw [List.mem_singleton.mp hfactory]
    refine Factory.function_mentions _ _ _ (s.construct_types fun a ha ty hty => ?_)
    obtain ⟨g, -, rfl⟩ := List.mem_map.mp ha
    rw [g.builtArg_types] at hty
    cases hty

/-- The struct of the builder holds the fields and the marker. -/
theorem struct_mentions :
    ((s.builderIn cx).struct cx).item.Mentions cx.declaration s.sampled := by
  refine ⟨rfl, (s.builderIn cx).seeds.map fun seed => (seed.field, seed.type),
    markerName (s.fields.map (·.name)), ?_, fun slot hslot => ?_⟩
  · show ((s.builderIn cx).fields cx.declaration.selfType).map (·.item) = _
    rw [Builder.map_item_fields, Builder.slots, builderIn_marker]
    cases cx.declaration.generics.params.isEmpty <;> rfl
  · obtain ⟨seed, hseed, rfl⟩ := List.mem_map.mp hslot
    obtain ⟨g, hg, rfl⟩ := List.mem_map.mp hseed
    exact s.type_mem_sampled hg

/-- **The items of a record** name the declared type, its builder and the sampled types only. -/
theorem items_mention :
    ∀ x ∈ (s.expansion cx).items, x.item.Mentions cx.declaration s.sampled := by
  have hbuilder : (s.builderIn cx).generics.applied cx.declaration.builder =
      cx.declaration.builderType := Generics.sampling_applied _ _ _ _
  have himpls := Expansion.impls_mention (e := s.expansion cx) (Generics.sampling_applied _ _ _ _)
    (s.functions_mention cx)
  intro x hx
  rw [expansion_items] at hx
  simp only [List.mem_append, List.mem_cons, List.not_mem_nil, or_false, Option.mem_toList] at hx
  -- the inherent impl, the builder's struct, its seeding, its `new`, the conformance
  rcases hx with ((rfl | rfl | rfl) | hnew) | rfl
  · exact himpls _ List.mem_cons_self
  · exact s.struct_mentions cx
  · refine Builder.impl_mentions hbuilder _ (Builder.seeding_mentions _ _ _ fun seed hseed => ?_)
    obtain ⟨g, hg, rfl⟩ := List.mem_map.mp hseed
    exact s.type_mem_sampled hg
  · rw [Builder.newImpl?] at hnew
    split at hnew
    · rw [← Option.some.inj hnew]
      exact Builder.impl_mentions hbuilder _ (Builder.newFunction_mentions _)
    · cases hnew
  · exact himpls _ (List.mem_cons_of_mem _ List.mem_cons_self)

/-- The impls of a record, by what they are for. -/
theorem targets_expansion :
    targetsOf (s.expansion cx).items =
      [cx.declaration.selfType, cx.declaration.builderType] ++
        (if Level.workspace ≤ s.effective.level then [cx.declaration.builderType] else []) ++
        [cx.declaration.selfType] := by
  have hrecord : (s.expansion cx).generics.applied cx.declaration.name.text =
      cx.declaration.selfType := Generics.sampling_applied _ _ _ _
  have hbuilder : (s.builderIn cx).generics.applied cx.declaration.builder =
      cx.declaration.builderType := Generics.sampling_applied _ _ _ _
  -- `new` adds an impl of its own only from the workspace level on
  have hnew : targetsOf ((s.builderIn cx).newImpl? cx).toList =
      if Level.workspace ≤ s.effective.level then [cx.declaration.builderType] else [] := by
    have heffective : (s.builderIn cx).visibility = s.effective := rfl
    rw [← hbuilder, Builder.newImpl?, heffective]
    split <;> rfl
  rw [expansion_items, targetsOf, List.filterMap_append, List.filterMap_append, ← targetsOf,
    ← targetsOf, ← targetsOf, hnew, ← hrecord, ← hbuilder]
  rfl

theorem factory_mem_expansion :
    s.factory.declared cx ∈ functionsOf (s.expansion cx).items := by
  refine List.mem_flatMap.mpr ⟨(s.expansion cx).inherentImpl, List.mem_cons_self, ?_⟩
  show _ ∈ (s.expansion cx).functions
  rw [expansion_functions]
  simp

end RecordScan

/-- A case is sampled without a type being named. -/
theorem Case.items_mention (c : Case) (cx : Context) (copied : List Ty) :
    ∀ x ∈ (c.expansion cx).items, x.item.Mentions cx.declaration copied := by
  refine Expansion.impls_mention (e := c.expansion cx) (Generics.sampling_applied _ _ _ _) ?_
  intro f hf
  rw [List.mem_singleton.mp hf]
  refine SampleAccessor.function_mentions _ _ _ fun ty hty => ?_
  obtain ⟨name, payload⟩ := c
  -- a case's arguments are inferred, so no type stands in them
  cases payload with
  | unit => cases hty
  | unlabeled types =>
    obtain ⟨v, hv, hty⟩ := List.mem_flatMap.mp hty
    obtain ⟨t, -, rfl⟩ := List.mem_map.mp hv
    cases hty
  | labeled params =>
    obtain ⟨i, hi, hty⟩ := List.mem_flatMap.mp hty
    obtain ⟨p, -, rfl⟩ := List.mem_map.mp hi
    cases hty

end Specimen
