import Specimen.Proofs.Target.Items
import Specimen.Synthesis.Deriver

/-!
# Reading the expansion of a record as a program

Each template of generation is matched with the syntax tree of `Target.Syntax` whose tokens it
writes, from single values up to whole items. `Expansion.items_tokens` says that an expansion is its
items one after the other, and `RecordScan.program_prints` that those of a record are the program
`RecordScan.program`. What an expansion declares or computes is then a question about syntax trees
and no longer about token lists.
-/

namespace Specimen

open Token Target

/-! ## Values, literals and bodies -/

def Value.expr (crate : Path) : Value → Target.Expr
  | sample ty => .call (.associated ty (crate.join "Sampleable") "sample") []
  | inferred => .call (.relative ((crate.join "Sampleable").join "sample")) []
  | param name => .variable name
  | paramOrSample name ty =>
    .method (.variable name) "unwrap_or_else"
      (.associated ty (crate.join "Sampleable") "sample")
  | default => .call (.absolute ["core", "default", "Default", "default"]) []
  | none => .constant (.absolute ["core", "option", "Option", "None"])
  | built f => .field "builder" f
  | someBuilt f => .call (.absolute ["core", "option", "Option", "Some"]) [.field "builder" f]

/-- Each value is written as the expression that it is read as. -/
theorem Value.expr_tokens (crate : Path) (v : Value) :
    (v.expr crate).tokens = v.tokens crate := by
  cases v <;>
    simp [Value.expr, Value.tokens, Value.sampleable, Value.builtTokens, Target.Expr.tokens,
      Target.Expr.tokensEach, Callee.tokens, corePath, commaSeparated, separated]

def Init.entry (crate : Path) (i : Init) : Entry := (i.field, i.value.expr crate)

/-- The name of an entry stays, and its value is written as an expression. -/
theorem Init.entryTokens_comp_entry (crate : Path) :
    entryTokens ∘ Init.entry crate = Init.tokens crate := by
  funext i
  show ident i.field :: sym ":" ++ (i.value.expr crate).tokens = i.tokens crate
  rw [Value.expr_tokens]
  rfl

def Instance.tail (crate : Path) : Instance → Tail
  | constructed args => .expr (.call (.own "fixture_new") (args.map (Value.expr crate)))
  | literal inits => .literal (inits.map (Init.entry crate)) false
  | unitCase name => .expr (.constant (.own name))
  | unlabeledCase name args => .expr (.call (.own name) (args.map (Value.expr crate)))
  | labeledCase name inits => .caseLiteral name (inits.map (Init.entry crate))

/-- Each of the five forms of an instance is the end of a body. -/
theorem Instance.tail_tokens (crate : Path) (i : Instance) :
    (i.tail crate).tokens = i.tokens crate := by
  have hargs (args : List Value) :
      Target.Expr.tokensEach (args.map (Value.expr crate)) = args.map (Value.tokens crate) := by
    rw [Target.Expr.tokensEach_eq_map, List.map_map]
    exact List.map_congr_left fun v _ => v.expr_tokens crate
  have hinits (inits : List Init) :
      (inits.map (Init.entry crate)).map entryTokens = inits.map (Init.tokens crate) := by
    rw [List.map_map, Init.entryTokens_comp_entry]
  -- the two list lemmas carry every case that has arguments or initializers
  cases i with
  | constructed args =>
    simp only [tail, Tail.tokens, Target.Expr.tokens, hargs]
    rfl
  | literal inits =>
    simp only [tail, Tail.tokens, hinits, punctuated]
    simp [tokens, commaSeparated]
  | unitCase name => rfl
  | unlabeledCase name args =>
    simp only [tail, Tail.tokens, Target.Expr.tokens, hargs]
    rfl
  | labeledCase name inits =>
    simp only [tail, Tail.tokens, hinits]
    rfl

/-! ## Functions -/

def Constructor.function (crate : Path) (c : Constructor) : Function where
  name := "fixture_new"
  params := c.params.map .value
  trailing := false
  body := ⟨[], .literal ((c.inits ++ c.fillers).map (Init.entry crate)) true⟩

def SampleAccessor.function (crate : Path) (a : SampleAccessor) : Function where
  name := "fixture"
  params := []
  trailing := false
  body := ⟨[], a.body.tail crate⟩

/-- The factory as a function; `builder` is the type that it adjusts. -/
def Factory.function (crate : Path) (builder : Ty) (f : Factory) : Function where
  name := "fixture_with"
  params := [.callback "configure" builder]
  trailing := true
  body :=
    ⟨[.letMut "builder" (.call (.associated builder defaultTrait "default") []),
      .lend "configure" "builder"], f.body.tail crate⟩

/-- `::core::marker::PhantomData<fn() -> T>` -/
def markerOf (ty : Ty) : Ty :=
  .path true [.plain "core", .plain "marker", .angled "PhantomData" false
    [.type (.function [] [] [] false [] (some ty))] false]

def Builder.slots (b : Builder) (record : Ty) : List (String × Ty) :=
  (b.seeds.map fun s => (s.field, s.type)) ++ b.marker.toList.map fun m => (m, markerOf record)

def Builder.seeding (crate : Path) (b : Builder) : Function where
  name := "default"
  params := []
  trailing := false
  body :=
    ⟨[], .literal
      ((b.seeds.map fun s => (Init.mk s.field (.sample s.type)).entry crate) ++
        b.marker.toList.map fun m => (m, .constant (.absolute ["core", "marker", "PhantomData"])))
      b.marker.isNone⟩

def sampleFunction : Function where
  name := "sample"
  params := []
  trailing := false
  body := ⟨[], .expr (.call (.own "fixture") [])⟩

/-- The builder of a record under what generation knows about its declaration. -/
def RecordScan.builderIn (s : RecordScan) (cx : Context) : Builder :=
  s.builder (cx.declaration.generics.sampling cx.crate s.sampled)

/-- The program of a record. -/
def RecordScan.program (s : RecordScan) (cx : Context) : Program :=
  let d := cx.declaration
  let builder := d.generics.applied d.builder
  { crate := cx.crate
    record := d.selfType
    builderName := d.builder
    builder
    slots := (s.builderIn cx).slots d.selfType
    members :=
      (if s.hasConstructor then [s.constructor.function cx.crate] else []) ++
        [(s.sampleAccessor d.name.text).function cx.crate, s.factory.function cx.crate builder]
    seeding := (s.builderIn cx).seeding cx.crate
    conformance := sampleFunction }

/-! ## What stands in front of a function -/

/-- The template of the constructor writes a function without statements. -/
theorem Constructor.function_tokens (crate : Path) (c : Constructor) :
    (c.function crate).tokens =
      fnTokens "fixture_new" (commaSeparated (c.params.map Param.tokens))
        (ident "Self" ::
          braces (commaTerminated ((c.inits ++ c.fillers).map (Init.tokens crate)))) := by
  have hparams : (c.params.map Parameter.value).map Parameter.tokens =
      c.params.map Param.tokens := by
    rw [List.map_map]
    rfl
  rw [commaTerminated_eq_punctuated, ← Init.entryTokens_comp_entry, ← List.map_map, ← hparams]
  simp only [commaSeparated]
  -- a list without a comma at its end is punctuated by one that is empty
  rw [← List.append_nil (separated _ _)]
  rfl

def Constructor.declared (cx : Context) (c : Constructor) : Declared Function where
  attributes := guardAttributes cx ++ [docContent (c.doc cx.declaration.name.text),
    lintContent [(Path.ofNames false ["clippy", "too_many_arguments"]).tokens,
      [ident "non_snake_case"]]]
  modifier := c.visibility.modifier
  item := c.function cx.crate

/-- In front of the constructor stand the guard, its documentation and two lints. -/
theorem Constructor.declared_tokens (cx : Context) (c : Constructor) :
    (c.declared cx).tokens Function.tokens = c.tokens cx := by
  have hfront : (c.declared cx).attributes.flatMap hashAttribute =
      cx.guard ++ docAttribute (c.doc cx.declaration.name.text) ++
        allowAttribute [(Path.ofNames false ["clippy", "too_many_arguments"]).tokens,
          [ident "non_snake_case"]] := by
    rw [declared, List.flatMap_append, flatMap_guardAttributes, List.append_assoc]
    rfl
  rw [Declared.tokens, hfront, Constructor.tokens, ← Constructor.function_tokens]
  rfl

def SampleAccessor.declared (cx : Context) (a : SampleAccessor) : Declared Function where
  attributes := guardAttributes cx ++ [docContent a.doc]
  modifier := a.visibility.modifier
  item := a.function cx.crate

/-- The sample accessor has no lints to silence. -/
theorem SampleAccessor.declared_tokens (cx : Context) (a : SampleAccessor) :
    (a.declared cx).tokens Function.tokens = a.tokens cx := by
  have hfn : (a.function cx.crate).tokens = fnTokens "fixture" [] (a.body.tokens cx.crate) := by
    rw [← Instance.tail_tokens]
    rfl
  rw [Declared.tokens, declared, List.flatMap_append, flatMap_guardAttributes, hfn,
    SampleAccessor.tokens, List.flatMap_singleton]
  rfl

def Factory.declared (cx : Context) (f : Factory) : Declared Function where
  attributes := guardAttributes cx ++ [docContent (Factory.doc cx.declaration.name.text)]
  modifier := f.visibility.modifier
  item := f.function cx.crate (cx.declaration.generics.applied cx.declaration.builder)

/-- The template of the factory writes two statements and an instance. -/
theorem Factory.declared_tokens (cx : Context) (f : Factory) :
    (f.declared cx).tokens Function.tokens = f.tokens cx := by
  have hparams (ty : Ty) : punctuated (sym ",") ([Parameter.callback "configure" ty].map
      Parameter.tokens) true = ident "configure" :: sym ":" ++ [ident "impl"] ++
        corePath ["ops", "FnOnce"] ++ parens (sym "&" ++ ident "mut" :: ty.tokens) ++ sym "," := by
    simp [punctuated, separated, Parameter.tokens]
  have hcall (ty : Ty) : (Target.Expr.call (.associated ty defaultTrait "default") []).tokens =
      sym "<" ++ ty.tokens ++ [ident "as"] ++ corePath ["default", "Default"] ++ sym ">" ++
        sym "::" ++ [ident "default"] ++ parens [] := rfl
  rw [Declared.tokens, declared, List.flatMap_append, flatMap_guardAttributes,
    List.flatMap_singleton, Function.tokens]
  -- the statements are the template's start and adjustment, the tail is its instance
  simp only [Factory.function, hparams, Body.tokens, Statement.tokens, List.flatMap_cons,
    List.flatMap_nil, hcall, Instance.tail_tokens, Generics.applied_tokens]
  simp only [Factory.tokens, List.append_assoc, List.append_nil]
  rfl

/-- Pieces with a comma after each, and a last one without if there is one. -/
theorem commaTerminated_append_marker (xs : List (List Token)) (marker : Option String)
    (write : String → List Token) :
    commaTerminated xs ++ (marker.map write).getD [] =
      punctuated (sym ",") (xs ++ marker.toList.map write) marker.isNone := by
  cases marker with
  | none => simp [commaTerminated_eq_punctuated]
  | some m =>
    -- the marker is the last piece, so every comma of the others stands before a piece
    induction xs with
    | nil => simp [commaTerminated, punctuated, separated]
    | cons x xs ih =>
      simp only [punctuated, commaTerminated, List.flatMap_cons] at ih ⊢
      rw [List.append_assoc, ih, List.cons_append]
      cases xs <;> simp [separated]

/-! ## Items -/

namespace Builder

/-- The marker's type is written as a type. -/
theorem slotTokens_markerOf (m : String) (ty : Ty) :
    slotTokens (m, markerOf ty) =
      ident m :: sym ":" ++ phantom ++ sym "<" ++ [ident "fn"] ++ parens [] ++ sym "->" ++
        ty.tokens ++ sym ">" := by
  simp [slotTokens, markerOf, Ty.tokens, Segment.tokensEach, Segment.tokens, Arg.tokensEach,
    Arg.tokens, Ty.tokensOfOutput, FnParam.tokensEach, Piece.tokensOf, root, separated, punctuated,
    phantom, corePath, Path.tokens, Path.ofNames]

def fields (b : Builder) (record : Ty) : List (Declared (String × Ty)) :=
  (b.seeds.map fun s => ⟨[], b.visibility.modifier, (s.field, s.type)⟩) ++
    b.marker.toList.map fun m => ⟨[], .inherited, (m, markerOf record)⟩

/-- Modifiers aside, the fields are the slots. -/
theorem map_item_fields (b : Builder) (record : Ty) :
    (b.fields record).map (·.item) = b.slots record := by
  simp [fields, slots, Function.comp_def]

def struct (b : Builder) (cx : Context) : Declared Block where
  attributes := guardAttributes cx ++ [docContent (doc cx.declaration.name.text),
    lintContent [[ident "non_snake_case"]]]
  modifier := b.visibility.modifier
  item := .struct cx.declaration.builder cx.declaration.generics.declTokens
    cx.declaration.generics.whereTokens (b.fields cx.declaration.selfType) b.marker.isNone

/-- The struct is written the same way with a marker and without, up to the last comma. -/
theorem struct_tokens (b : Builder) (cx : Context) :
    itemTokens (b.struct cx) = b.structTokens cx := by
  -- the slots are the seeds in order, with the marker after them
  have hfields : (b.fields cx.declaration.selfType).map (Declared.tokens slotTokens) =
      (b.seeds.map fun s => b.visibility.tokens ++ slotTokens (s.field, s.type)) ++
        b.marker.toList.map fun m => slotTokens (m, markerOf cx.declaration.selfType) := by
    rw [fields, List.map_append, List.map_map, List.map_map]
    rfl
  rw [itemTokens, Declared.tokens, struct, List.flatMap_append, flatMap_guardAttributes,
    Block.tokens, hfields, ← commaTerminated_append_marker]
  simp only [slotTokens_markerOf]
  -- the marker is an option, and the printed comma after it depends on it
  cases hm : b.marker with
  | none =>
    simp only [structTokens, hm, structBlock, slotTokens, List.append_assoc]
    rfl
  | some m =>
    simp only [structTokens, hm, structBlock, slotTokens, List.append_assoc]
    rfl

/-- An impl block for the builder with one function. -/
def impl (b : Builder) (cx : Context) (trait : List Token) (f : Declared Function) :
    Declared Block where
  attributes := guardAttributes cx ++ [derivedContent]
  modifier := .inherited
  item := .impl b.generics.implTokens trait (b.generics.applied cx.declaration.builder)
    b.generics.whereTokens [f]

/-- All impls of a builder come from one template. -/
theorem impl_tokens (b : Builder) (cx : Context) (trait : List Token) (f : Declared Function) :
    itemTokens (b.impl cx trait f) = b.implTokens cx trait (f.tokens Function.tokens) := by
  rw [itemTokens, Declared.tokens, impl, List.flatMap_append, flatMap_guardAttributes,
    Block.tokens, implBlock, Generics.applied_tokens, List.flatMap_singleton,
    List.flatMap_singleton]
  simp only [implTokens, List.append_assoc]
  rfl

/-- The marker is the last entry, and the only one without a comma behind it. -/
theorem seeding_tokens (b : Builder) (crate : Path) :
    (b.seeding crate).tokens =
      fnTokens "default" [] (ident "Self" ::
        braces (commaTerminated
            (b.seeds.map fun s => (Init.mk s.field (.sample s.type)).tokens crate) ++
          (b.marker.map fun m => ident m :: sym ":" ++ phantom).getD [])) := by
  -- an initializer prints as the entry that it stands for
  have hentries : (b.seeds.map fun s => (Init.mk s.field (.sample s.type)).tokens crate) =
      (b.seeds.map fun s => (Init.mk s.field (.sample s.type)).entry crate).map entryTokens := by
    rw [List.map_map, ← Init.entryTokens_comp_entry]
    rfl
  rw [commaTerminated_append_marker, hentries]
  simp only [Function.tokens, seeding, Body.tokens, Tail.tokens, List.map_append, List.map_map]
  rfl

def seedingImpl (b : Builder) (cx : Context) : Declared Block :=
  b.impl cx (defaultTrait.tokens ++ [ident "for"]) ⟨[], .inherited, b.seeding cx.crate⟩

theorem seedingImpl_tokens (b : Builder) (cx : Context) :
    itemTokens (b.seedingImpl cx) = b.defaultTokens cx := by
  have hseeding : (Declared.mk [] .inherited (b.seeding cx.crate)).tokens Function.tokens = _ :=
    b.seeding_tokens cx.crate
  rw [seedingImpl, impl_tokens, hseeding, defaultTokens]
  cases b.marker <;> rfl

/-- The named constructor of a builder: `<Self as ::core::default::Default>::default()` -/
def newFunction : Function where
  name := "new"
  params := []
  trailing := false
  body := ⟨[], .expr (.call (.associated (.named "Self") defaultTrait "default") [])⟩

def newImpl? (b : Builder) (cx : Context) : Option (Declared Block) :=
  if Level.workspace ≤ b.visibility.level then
    some (b.impl cx [] ⟨[], b.visibility.modifier, newFunction⟩)
  else none

/-- The template leaves `new` out for the same levels. -/
theorem newImpl?_tokens (b : Builder) (cx : Context) :
    (b.newImpl? cx).toList.flatMap itemTokens = b.newTokens cx := by
  rw [newImpl?, newTokens]
  split
  · rw [Option.toList_some, List.flatMap_singleton, impl_tokens]
    rfl
  · rfl

def items (b : Builder) (cx : Context) : List (Declared Block) :=
  [b.struct cx, b.seedingImpl cx] ++ (b.newImpl? cx).toList

theorem items_tokens (b : Builder) (cx : Context) :
    (b.items cx).flatMap itemTokens = b.tokens cx := by
  rw [items, List.flatMap_append, newImpl?_tokens, List.flatMap_cons, List.flatMap_singleton,
    struct_tokens, seedingImpl_tokens, tokens]

end Builder

namespace Fragment

/-- The modifier in front of a fragment; the builder's is in front of its struct. -/
def modifier : Fragment → Modifier
  | constructor c => c.visibility.modifier
  | sampleAccessor a => a.visibility.modifier
  | builder b => b.visibility.modifier
  | factory f => f.visibility.modifier

/-- The functions that a fragment adds to the declared type. -/
def functions (cx : Context) : Fragment → List (Declared Function)
  | constructor c => [c.declared cx]
  | sampleAccessor a => [a.declared cx]
  | builder _ => []
  | factory f => [f.declared cx]

/-- The items that a fragment puts beside the declared type. -/
def items (cx : Context) : Fragment → List (Declared Block)
  | builder b => b.items cx
  | _ => []

/-- The code of a member is its function; a builder is written elsewhere. -/
theorem functions_tokens (cx : Context) (f : Fragment) :
    (f.functions cx).flatMap (Declared.tokens Function.tokens) =
      if f.kind.isMember then f.tokens cx else [] := by
  cases f with
  | constructor c =>
    rw [functions, List.flatMap_singleton, c.declared_tokens]
    rfl
  | sampleAccessor a =>
    rw [functions, List.flatMap_singleton, a.declared_tokens]
    rfl
  | builder b => rfl
  | factory f =>
    rw [functions, List.flatMap_singleton, f.declared_tokens]
    rfl

/-- The code of a builder is its items; members are written elsewhere. -/
theorem items_tokens (cx : Context) (f : Fragment) :
    (f.items cx).flatMap itemTokens = if !f.kind.isMember then f.tokens cx else [] := by
  cases f with
  | builder b =>
    rw [items, b.items_tokens]
    rfl
  | constructor c => rfl
  | sampleAccessor a => rfl
  | factory f => rfl

end Fragment

namespace Expansion

variable (e : Expansion)

def functions : List (Declared Function) := e.fragments.flatMap (·.functions e.context)

def inherentImpl : Declared Block where
  attributes := [derivedContent]
  modifier := .inherited
  item := .impl e.generics.implTokens [] (e.generics.applied e.context.declaration.name.text)
    e.generics.whereTokens e.functions

def conformanceImpl : Declared Block where
  attributes := guardAttributes e.context ++ [derivedContent]
  modifier := .inherited
  item := .impl e.generics.implTokens ((e.context.crate.join "Sampleable").tokens ++ [ident "for"])
    (e.generics.applied e.context.declaration.name.text) e.generics.whereTokens
    [⟨[], .inherited, sampleFunction⟩]

def items : List (Declared Block) :=
  e.inherentImpl :: e.fragments.flatMap (·.items e.context) ++ [e.conformanceImpl]

/-- Code that is written for fragments of some kinds and left out for the others. -/
theorem flatMap_eq_tokensOf {keep : FragmentKind → Bool} {write : Fragment → List Token}
    (h : ∀ f, write f = if keep f.kind then f.tokens e.context else []) :
    e.fragments.flatMap write = e.tokensOf keep := by
  rw [tokensOf]
  induction e.fragments with
  | nil => rfl
  | cons f fs ih =>
    rw [List.flatMap_cons, ih, h, List.filter_cons]
    split <;> rfl

/-- Inside of the impl of the declared type stand the members, in their order. -/
theorem functions_tokens :
    e.functions.flatMap (Declared.tokens Function.tokens) = e.tokensOf (·.isMember) := by
  rw [functions, List.flatMap_assoc]
  exact e.flatMap_eq_tokensOf fun f => f.functions_tokens e.context

/-- Behind that impl stand the builders, in their order. -/
theorem beside_tokens :
    (e.fragments.flatMap (·.items e.context)).flatMap itemTokens = e.tokensOf (!·.isMember) := by
  rw [List.flatMap_assoc]
  exact e.flatMap_eq_tokensOf fun f => f.items_tokens e.context

theorem inherentImpl_tokens : itemTokens e.inherentImpl = e.inherent := by
  rw [itemTokens, Declared.tokens, inherentImpl, Block.tokens, implBlock, functions_tokens,
    Generics.applied_tokens, inherent, target]
  simp only [List.append_assoc]
  rfl

/-- The impl of `Sampleable` is guarded like the functions, and calls the sample accessor. -/
theorem conformanceImpl_tokens : itemTokens e.conformanceImpl = e.conformance := by
  rw [itemTokens, Declared.tokens, conformanceImpl, List.flatMap_append, flatMap_guardAttributes,
    Block.tokens, implBlock, Generics.applied_tokens, conformance, target]
  simp only [List.append_assoc]
  rfl

/-- **The code of an expansion** is its items, one after the other. -/
theorem items_tokens : e.items.flatMap itemTokens = e.tokens := by
  rw [items, List.flatMap_append, List.flatMap_cons, beside_tokens, inherentImpl_tokens,
    List.flatMap_singleton, conformanceImpl_tokens, tokens]

end Expansion

/-! ## The program of a record -/

/-- Bounds for sampling leave the arguments of the declared type alone. -/
theorem Generics.sampling_applied (g : Generics) (crate : Path) (sampled : List Ty)
    (name : String) : (g.sampling crate sampled).applied name = g.applied name := by
  unfold sampling
  split <;> rfl

namespace RecordScan

variable (s : RecordScan) (cx : Context)

/-- Bounds for sampling add no parameters, so the declared ones decide about the marker. -/
theorem builderIn_marker :
    (s.builderIn cx).marker =
      if cx.declaration.generics.params.isEmpty then none
      else some (markerName (s.fields.map (·.name))) := by
  show (if (cx.declaration.generics.sampling cx.crate s.sampled).params.isEmpty then none
    else some _) = _
  rw [Generics.sampling_params]

/-- The functions of a record, in the order of its fragments. -/
theorem expansion_functions :
    (s.expansion cx).functions =
      (if s.hasConstructor then [s.constructor.declared cx] else []) ++
        [(s.sampleAccessor cx.declaration.name.text).declared cx, s.factory.declared cx] := by
  cases h : s.hasConstructor <;>
    simp [Expansion.functions, expansion, h, Fragment.functions]

/-- The items of a record: those of the builder stand between the two impls of the declared type. -/
theorem expansion_items :
    (s.expansion cx).items =
      [(s.expansion cx).inherentImpl, (s.builderIn cx).struct cx,
          (s.builderIn cx).seedingImpl cx] ++
        ((s.builderIn cx).newImpl? cx).toList ++ [(s.expansion cx).conformanceImpl] := by
  cases h : s.hasConstructor <;>
    simp [Expansion.items, expansion, h, Fragment.items, builderIn, Builder.items]

/-- The only struct of a record's expansion is that of its builder. -/
theorem expansion_structs :
    structsOf (s.expansion cx).items =
      [(s.effective.modifier, (s.builderIn cx).fields cx.declaration.selfType)] := by
  have hnew : structsOf ((s.builderIn cx).newImpl? cx).toList = [] := by
    rw [Builder.newImpl?]
    split <;> rfl
  rw [expansion_items, structsOf_append, structsOf_append, hnew]
  rfl

/-- The struct of a builder declares its fields, the marker last. -/
theorem printsStruct :
    (s.program cx).PrintsStruct (itemTokens ((s.builderIn cx).struct cx)) := by
  refine ⟨_, _, _, _, _, Declared.declares _ _, ?_⟩
  have hslots : (s.program cx).slots = _ := ((s.builderIn cx).map_item_fields _).symm
  rw [hslots]
  exact Declared.declareEach _ _

/-- The builder is seeded by its `Default` impl. -/
theorem printsSeeding :
    (s.program cx).PrintsSeeding (itemTokens ((s.builderIn cx).seedingImpl cx)) := by
  refine ⟨(s.builderIn cx).generics.implTokens, (s.builderIn cx).generics.whereTokens, ?_⟩
  -- the impl is for the declared arguments, which the bounds for sampling do not change
  have hbuilder : (s.program cx).builder =
      (s.builderIn cx).generics.applied cx.declaration.builder :=
    (Generics.sampling_applied _ _ _ _).symm
  rw [hbuilder]
  have hfunction : (s.program cx).seeding.tokens =
      [Declared.mk [] .inherited ((s.builderIn cx).seeding cx.crate)].flatMap
        (Declared.tokens Function.tokens) := by
    rw [List.flatMap_singleton]
    rfl
  rw [hfunction]
  exact Declared.declares _ _

/-- The members of the program are the functions in the impl of the declared type. -/
theorem printsInherent :
    (s.program cx).PrintsInherent (itemTokens (s.expansion cx).inherentImpl) := by
  refine ⟨(s.expansion cx).generics.implTokens, (s.expansion cx).generics.whereTokens,
    (s.expansion cx).functions.map (Declared.tokens Function.tokens), ?_, ?_⟩
  · have hrecord : (s.program cx).record =
        (s.expansion cx).generics.applied cx.declaration.name.text :=
      (Generics.sampling_applied _ _ _ _).symm
    rw [hrecord, ← List.flatMap_def]
    exact Declared.declares _ _
  · have hmembers : (s.program cx).members = (s.expansion cx).functions.map (·.item) := by
      rw [expansion_functions]
      cases h : s.hasConstructor <;> simp only [program, h] <;> rfl
    rw [hmembers]
    exact Declared.declareEach _ _

theorem printsConformance :
    (s.program cx).PrintsConformance (itemTokens (s.expansion cx).conformanceImpl) := by
  refine ⟨(s.expansion cx).generics.implTokens, (s.expansion cx).generics.whereTokens, ?_⟩
  have hrecord : (s.program cx).record =
      (s.expansion cx).generics.applied cx.declaration.name.text :=
    (Generics.sampling_applied _ _ _ _).symm
  rw [hrecord]
  exact Declared.declares _ _

/-- **The expansion of a record is its program.** -/
theorem program_prints : (s.program cx).Prints (s.expansion cx).tokens := by
  refine ⟨_, _, _, ((s.builderIn cx).newImpl? cx).toList.flatMap itemTokens, _, ?_,
    printsInherent s cx, printsStruct s cx, printsSeeding s cx, printsConformance s cx⟩
  rw [← Expansion.items_tokens, expansion_items]
  simp only [List.flatMap_append, List.flatMap_cons, List.flatMap_nil, List.append_nil,
    List.append_assoc]

end RecordScan

/-! ## Derived code -/

/-- A record is scanned once, and always has an expansion. -/
theorem Deriver.expand_record (v : Deriver) {d : Declaration} {members : List Member}
    (hkind : d.kind = .record members) :
    v.expand d = .ok ((d.scan v.inherit members).expansion (.ofDeclaration v d)) := by
  rw [Deriver.expand, hkind]

/-- What has an expansion is a record, or a tagged union of which the first case is expanded. -/
theorem Deriver.expand_cases {v : Deriver} {d : Declaration} {e : Expansion}
    (h : v.expand d = .ok e) :
    (∃ members, d.kind = .record members ∧
        e = (d.scan v.inherit members).expansion (.ofDeclaration v d)) ∨
      ∃ c cs, d.kind = .taggedUnion (c :: cs) ∧ e = c.expansion (.ofDeclaration v d) := by
  rw [expand] at h
  cases hkind : d.kind with
  | record members =>
    rw [hkind] at h
    exact .inl ⟨members, rfl, (Except.ok.inj h).symm⟩
  | taggedUnion cases =>
    rw [hkind] at h
    cases cases with
    | nil => cases h
    | cons c cs => exact .inr ⟨c, cs, rfl, (Except.ok.inj h).symm⟩
  | unsupported kind =>
    rw [hkind] at h
    cases h

/-- The context of an expansion is that of its declaration. -/
theorem Deriver.expand_context {v : Deriver} {d : Declaration} {e : Expansion}
    (h : v.expand d = .ok e) : e.context = .ofDeclaration v d := by
  obtain ⟨members, -, rfl⟩ | ⟨c, cs, -, rfl⟩ := v.expand_cases h
  · rfl
  · rfl

/-- The items of a declaration's kind: beside the two impls of the declared type, a record has the
struct and the impls of its builder. -/
def Expansion.HasItemsOf (e : Expansion) : DeclarationKind → Prop
  | .record _ => ∃ b : Builder,
    e.items = [e.inherentImpl, b.struct e.context, b.seedingImpl e.context] ++
      (b.newImpl? e.context).toList ++ [e.conformanceImpl]
  | _ => e.items = [e.inherentImpl, e.conformanceImpl]

theorem Deriver.expand_hasItemsOf {v : Deriver} {d : Declaration} {e : Expansion}
    (h : v.expand d = .ok e) : e.HasItemsOf d.kind := by
  obtain ⟨members, hkind, rfl⟩ | ⟨c, cs, hkind, rfl⟩ := v.expand_cases h
  · rw [hkind]
    exact ⟨_, RecordScan.expansion_items _ _⟩
  · rw [hkind]
    rfl

end Specimen
