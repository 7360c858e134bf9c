import Specimen.Proofs.SampledTypes

/-!
# Source order

Arguments have no names, so the lists that a record's functions are made of have to agree place by
place: two fields of one type that change places in one of them still give code that compiles.
`Expansion.Follows` says what each list is for one and the same sequence of names, and
`lists_in_source_order` that the stored names that can be constructed are such a sequence.
-/

namespace Specimen

open Target

/-! ## Names of groups -/

/-- A stored name with the last name of its group, which a type may be taken from. -/
structure StoredName where
  binding : Binding
  last : Binding

namespace StoredName

/-- The type of a name: its own, or else that of the group where types are inherited. -/
def type? (n : StoredName) (inherit : Bool) : Option Ty :=
  n.binding.type.or (if inherit then n.last.type else none)

/-- A name that takes the type of its group takes its default along. -/
def hasDefault (n : StoredName) : Bool :=
  n.binding.hasDefault || n.binding.type.isNone && n.last.hasDefault

/-- Resolving a name gives the type that the rules say, together with its default. -/
theorem resolve_eq (n : StoredName) (inherit : Bool) :
    n.binding.resolve inherit n.last = (n.type? inherit).map (·, n.hasDefault) := by
  rw [Binding.resolve, type?, hasDefault]
  cases n.binding.type with
  | some ty => simp
  | none => cases inherit <;> simp

end StoredName

def Member.names (m : Member) : List StoredName :=
  match m.bindings.getLast? with
  | none => []
  | some last => m.bindings.map (⟨·, last⟩)

/-- No name of a group is left out or moved. -/
theorem Member.map_binding_names (m : Member) : m.names.map (·.binding) = m.bindings := by
  rw [names]
  cases hlast : m.bindings.getLast? with
  | none => exact (List.getLast?_eq_none_iff.mp hlast).symm
  | some last => simp [Function.comp_def]

def storedMembers (members : List Member) : List Member := members.filter (·.storage = .stored)

def unstoredNames (members : List Member) : List String :=
  (members.filter fun m => m.storage ≠ .stored ∧ m.storage ≠ .static).flatMap fun m =>
    m.bindings.map (·.name)

/-- The setting for groups has no part in which names are fillers. -/
theorem unstoredNames_eq_fillers (inherit : Bool) (members : List Member) :
    unstoredNames members = (extract inherit members).fillers := by
  show _ = members.flatMap (·.fillers)
  induction members with
  | nil => rfl
  | cons m ms ih =>
    rw [List.flatMap_cons, ← ih, Member.fillers, unstoredNames, unstoredNames, List.filter_cons]
    by_cases h : m.storage ≠ .stored ∧ m.storage ≠ .static
    · simp [h, Storage.isInstanceField]
    · simp [h, Storage.isInstanceField]

/-! ## Constructed names -/

/-- A name that is constructed, with its type spelled out and whether it has a default. -/
structure ConstructedName where
  binding : Binding
  type : Ty
  hasDefault : Bool

/-- What a stored name of a declaration is constructed with. A name without a type is not. -/
def StoredName.constructed? (n : StoredName) (d : Declaration) (inherit : Bool) :
    Option ConstructedName :=
  (n.type? inherit).map fun ty => ⟨n.binding, ty.replaceSelf d.selfType, n.hasDefault⟩

def Declaration.constructedNames (d : Declaration) (inherit : Bool) (members : List Member) :
    List ConstructedName :=
  ((storedMembers members).flatMap (·.names)).filterMap (·.constructed? d inherit)

/-- Names drop out of a list, but none changes its place. -/
theorem filterMap_constructed?_sublist (d : Declaration) (inherit : Bool) (ns : List StoredName) :
    ((ns.filterMap (·.constructed? d inherit)).map (·.binding)).Sublist (ns.map (·.binding)) := by
  induction ns with
  | nil => exact List.Sublist.refl []
  | cons n ns ih =>
    rw [List.filterMap_cons, List.map_cons, StoredName.constructed?]
    cases n.type? inherit with
    | none => exact ih.cons n.binding
    | some ty => exact ih.cons_cons n.binding

/-- Constructed names stand as they do in the source, with some of them left out. -/
theorem Declaration.constructedNames_sublist (d : Declaration) (inherit : Bool)
    (members : List Member) :
    ((d.constructedNames inherit members).map (·.binding)).Sublist
      ((storedMembers members).flatMap (·.bindings)) := by
  have hbindings : ((storedMembers members).flatMap (·.names)).map (·.binding) =
      (storedMembers members).flatMap (·.bindings) := by
    rw [List.map_flatMap]
    exact List.flatMap_congr fun m _ => m.map_binding_names
  rw [← hbindings]
  exact filterMap_constructed?_sublist d inherit _

/-- The field that a scan has for a name; the modifier is that of the group. -/
def ConstructedName.field (n : ConstructedName) (visibility : Option Visibility) : Field :=
  ⟨n.binding.name, n.type, n.hasDefault, visibility⟩

def Field.StandsFor (f : Field) (n : ConstructedName) : Prop := ∃ visibility, f = n.field visibility

/-- The stored fields of a group are its constructed names, one for one. -/
theorem Member.forall₂_storedFields (d : Declaration) (inherit : Bool) (m : Member) :
    List.Forall₂ Field.StandsFor
      ((m.storedFields inherit).map fun f => { f with type := f.type.replaceSelf d.selfType })
      (m.names.filterMap (·.constructed? d inherit)) := by
  rw [storedFields, names]
  cases m.bindings.getLast? with
  | none => exact List.Forall₂.nil
  | some last =>
    show List.Forall₂ _ (List.map _ (List.filterMap _ _)) (List.filterMap _ (List.map _ _))
    rw [List.map_filterMap, List.filterMap_map]
    refine List.rel_filterMap (R := Eq) ?_ (List.forall₂_same.mpr fun _ _ => rfl)
    rintro b _ rfl
    -- both sides fail where the name has no type
    have hresolve := (StoredName.mk b last).resolve_eq inherit
    show Option.Rel _ (((b.resolve inherit last).map _).map _)
      ((StoredName.mk b last).constructed? d inherit)
    rw [hresolve, StoredName.constructed?]
    cases (StoredName.mk b last).type? inherit with
    | none => exact .none
    | some ty => exact .some ⟨m.visibility, rfl⟩

/-- **The fields of a scan** are the constructed names, place by place. -/
theorem Declaration.forall₂_scan_fields (d : Declaration) (inherit : Bool)
    (members : List Member) :
    List.Forall₂ Field.StandsFor (d.scan inherit members).fields
      (d.constructedNames inherit members) := by
  show List.Forall₂ _ ((members.flatMap (·.fields inherit)).map _) _
  induction members with
  | nil => exact List.Forall₂.nil
  | cons m ms ih =>
    rw [List.flatMap_cons, List.map_append, Member.fields]
    by_cases h : m.storage = .stored
    · have hnames : d.constructedNames inherit (m :: ms) =
          m.names.filterMap (·.constructed? d inherit) ++ d.constructedNames inherit ms := by
        simp [constructedNames, storedMembers, h]
      rw [if_pos h, hnames]
      exact List.rel_append (m.forall₂_storedFields d inherit) ih
    · have hnames : d.constructedNames inherit (m :: ms) = d.constructedNames inherit ms := by
        simp [constructedNames, storedMembers, h]
      rw [if_neg h, hnames]
      exact ih

/-- What is written for each field of a scan is written for each constructed name. -/
theorem Declaration.scan_fields_map {γ : Type} (d : Declaration) (inherit : Bool)
    (members : List Member) {forField : Field → γ} {forName : ConstructedName → γ}
    (h : ∀ n visibility, forField (n.field visibility) = forName n) :
    (d.scan inherit members).fields.map forField =
      (d.constructedNames inherit members).map forName := by
  rw [← List.forall₂_eq_eq_eq, List.forall₂_map_left_iff, List.forall₂_map_right_iff]
  refine (d.forall₂_scan_fields inherit members).imp ?_
  rintro f n ⟨visibility, rfl⟩
  exact h n visibility

/-! ## What is written for a name -/

namespace ConstructedName

variable (crate : Path) (n : ConstructedName)

/-- `fixturename: T`, or `fixturename: ::core::option::Option<T>` with a default -/
def parameter : Parameter := .value ⟨parameterName n.binding.name, n.type, n.hasDefault⟩

/-- `<T as K::Sampleable>::sample` -/
def sampler : Callee := .associated n.type (crate.join "Sampleable") "sample"

/-- `name: fixturename`, or `name: fixturename.unwrap_or_else(<T as K::Sampleable>::sample)` -/
def entry : Entry :=
  let parameter := Target.Expr.variable (parameterName n.binding.name)
  (n.binding.name,
    if n.hasDefault then .method parameter "unwrap_or_else" (n.sampler crate) else parameter)

/-- `<T as K::Sampleable>::sample()`, or `::core::option::Option::None` -/
def sampleArgument : Target.Expr :=
  if n.hasDefault then .constant (.absolute ["core", "option", "Option", "None"])
  else .call (n.sampler crate) []

/-- `builder.name`, or `::core::option::Option::Some(builder.name)` -/
def builtArgument : Target.Expr :=
  let built := Target.Expr.field "builder" n.binding.name
  if n.hasDefault then .call (.absolute ["core", "option", "Option", "Some"]) [built] else built

/-- `name: T` -/
def slot : String × Ty := (n.binding.name, n.type)

/-- `name: <T as K::Sampleable>::sample()` -/
def seed : Entry := (n.binding.name, .call (n.sampler crate) [])

/-- `T: K::Sampleable` -/
def predicate : Predicate := .sampleable crate n.type

end ConstructedName

/-- `name: ::core::default::Default::default()` -/
def unsetEntry (name : String) : Entry :=
  (name, .call (.absolute ["core", "default", "Default", "default"]) [])

/-- The end of a function that gives a record: the constructor applied to an argument for each name,
or a literal where nothing is constructed. -/
def instanceTail (names : List ConstructedName) (others : List String)
    (argument : ConstructedName → Target.Expr) : Tail :=
  if names.isEmpty then .literal (others.map unsetEntry) false
  else .expr (.call (.own "fixture_new") (names.map argument))

/-! ## The lists of an expansion -/

def Target.Block.bounds? : Block → Option (List Token)
  | .impl _ _ _ bounds _ => some bounds
  | .struct .. => none

def Expansion.function? (e : Expansion) (name : String) : Option Function :=
  ((functionsOf e.items).find? (·.item.name = name)).map (·.item)

/-- The lists of an expansion have one entry for each name, in the order of the names. After the
names come the other fields in the literals, and the marker in the builder. -/
structure Expansion.Follows (e : Expansion) (cx : Context) (names : List ConstructedName)
    (others : List String) (marker : Option String) : Prop where
  /-- The parameters and the literal of the constructor. -/
  constructor : e.function? "fixture_new" =
    if names.isEmpty then none
    else some ⟨"fixture_new", names.map (·.parameter), false,
      ⟨[], .literal (names.map (·.entry cx.crate) ++ others.map unsetEntry) true⟩⟩
  /-- The arguments of the sample accessor. -/
  sample : (e.function? "fixture").map (·.body.tail) =
    some (instanceTail names others (·.sampleArgument cx.crate))
  /-- The arguments of the factory. -/
  factory : (e.function? "fixture_with").map (·.body.tail) =
    some (instanceTail names others (·.builtArgument))
  /-- The fields of the builder, which is the only struct. -/
  slots : (structsOf e.items).map (·.2.map (·.item)) =
    [names.map (·.slot) ++
      marker.toList.map (·, markerOf cx.declaration.selfType)]
  /-- The literal that seeds the builder. -/
  seeds : ∃ trailing, (e.function? "default").map (·.body.tail) =
    some (.literal (names.map (·.seed cx.crate) ++
      marker.toList.map (·, .constant (.absolute ["core", "marker", "PhantomData"]))) trailing)
  /-- Only a generic builder has a marker. -/
  marker : marker.isSome = !cx.declaration.generics.params.isEmpty
  /-- The predicates for sampling come after the declared ones. -/
  predicates : e.generics.predicates = cx.declaration.generics.predicates ++
    if cx.declaration.generics.params.isEmpty then [] else names.map (·.predicate cx.crate)
  /-- Every impl has these bounds. -/
  bounds : ∀ x ∈ e.items, ∀ ts, x.item.bounds? = some ts → ts = e.generics.whereTokens

namespace RecordScan

variable (s : RecordScan) (cx : Context)

/-- The functions of an expansion: those of the record, the seeding of the builder, and others with
other names. -/
theorem functionsOf_expansion :
    ∃ more, functionsOf (s.expansion cx).items =
        (if s.hasConstructor then [s.constructor.declared cx] else []) ++
          [(s.sampleAccessor cx.declaration.name.text).declared cx, s.factory.declared cx,
            ⟨[], .inherited, (s.builderIn cx).seeding cx.crate⟩] ++ more ∧
      ∀ f ∈ more, f.item.name ≠ "fixture_new" := by
  have hrecord : functionsOf [(s.expansion cx).inherentImpl, (s.builderIn cx).struct cx,
      (s.builderIn cx).seedingImpl cx] =
        (s.expansion cx).functions ++ [⟨[], .inherited, (s.builderIn cx).seeding cx.crate⟩] := rfl
  -- what comes after are the builder's `new`, if any, and the conformance's `sample`
  refine ⟨functionsOf ((s.builderIn cx).newImpl? cx).toList ++
    functionsOf [(s.expansion cx).conformanceImpl], ?_, ?_⟩
  · rw [expansion_items, functionsOf_append, functionsOf_append, hrecord, expansion_functions]
    simp only [List.append_assoc, List.cons_append, List.nil_append]
  · intro f hf
    rcases List.mem_append.mp hf with hnew | hsample
    · rw [Builder.newImpl?] at hnew
      split at hnew
      · rw [List.mem_singleton.mp hnew]
        show "new" ≠ "fixture_new"
        decide
      · cases hnew
    · rw [List.mem_singleton.mp hsample]
      show "sample" ≠ "fixture_new"
      decide

/-- The functions of an expansion that its lists are read from. -/
theorem function?_expansion :
    let e := s.expansion cx
    e.function? "fixture_new" =
        (if s.hasConstructor then some (s.constructor.function cx.crate) else none) ∧
      e.function? "fixture" =
        some ((s.sampleAccessor cx.declaration.name.text).function cx.crate) ∧
      e.function? "fixture_with" = some (s.factory.function cx.crate
        (cx.declaration.generics.applied cx.declaration.builder)) ∧
      e.function? "default" = some ((s.builderIn cx).seeding cx.crate) := by
  intro e
  obtain ⟨more, hmore, hother⟩ := s.functionsOf_expansion cx
  simp only [Expansion.function?, e, hmore]
  cases h : s.hasConstructor with
  | true => exact ⟨rfl, rfl, rfl, rfl⟩
  | false =>
    -- no later function has that name, so the search comes back empty
    have hnone : more.find? (·.item.name = "fixture_new") = none :=
      List.find?_eq_none.mpr fun f hf heq => hother f hf (of_decide_eq_true heq)
    refine ⟨?_, rfl, rfl, rfl⟩
    show Option.map _ (more.find? _) = none
    rw [hnone]
    rfl

/-- All impls of an expansion repeat one where clause. -/
theorem bounds_expansion :
    ∀ x ∈ (s.expansion cx).items, ∀ ts, x.item.bounds? = some ts →
      ts = (s.expansion cx).generics.whereTokens := by
  intro x hx ts hts
  rw [expansion_items] at hx
  simp only [List.mem_append, List.mem_cons, List.not_mem_nil, or_false, Option.mem_toList] at hx
  -- each impl's clause is the expansion's own; the struct has none to compare
  rcases hx with ((rfl | rfl | rfl) | hnew) | rfl
  · exact (Option.some.inj hts).symm
  · simp [Builder.struct, Block.bounds?] at hts
  · exact (Option.some.inj hts).symm
  · rw [Builder.newImpl?] at hnew
    split at hnew
    · rw [← Option.some.inj hnew] at hts
      exact (Option.some.inj hts).symm
    · cases hnew
  · exact (Option.some.inj hts).symm

theorem fillerInits_entries (crate : Path) :
    s.fillerInits.map (Init.entry crate) = s.fillers.map unsetEntry := by
  rw [fillerInits, List.map_map]
  rfl

/-- How an instance of a record ends a function, where its arguments are written for some names. -/
theorem construct_tail {names : List ConstructedName} {crate : Path}
    (hempty : s.fields.isEmpty = names.isEmpty) {args : List Value}
    {argument : ConstructedName → Target.Expr}
    (hargs : args.map (Value.expr crate) = names.map argument) :
    (s.construct args).tail crate = instanceTail names s.fillers argument := by
  rw [construct, hasConstructor, hempty, instanceTail, ← hargs, ← s.fillerInits_entries crate]
  -- there is a constructor to call exactly if there are names
  cases names.isEmpty <;> rfl

end RecordScan

/-! ## The lists of a scanned record -/

namespace Declaration

variable (d : Declaration) (inherit : Bool) (members : List Member)

theorem scan_fillers : (d.scan inherit members).fillers = unstoredNames members :=
  (unstoredNames_eq_fillers inherit members).symm

/-- There is a field exactly if there is a name to construct. -/
theorem scan_isEmpty :
    (d.scan inherit members).fields.isEmpty = (d.constructedNames inherit members).isEmpty := by
  have hnames : (d.scan inherit members).fields.map (·.name) =
      (d.constructedNames inherit members).map (·.binding.name) :=
    d.scan_fields_map inherit members fun _ _ => rfl
  have hempty := congrArg List.isEmpty hnames
  rwa [List.isEmpty_map, List.isEmpty_map] at hempty

/-- The constructor has a parameter and an entry for each name, and fills in the rest. -/
theorem scan_constructor (crate : Path) :
    (d.scan inherit members).constructor.function crate =
      ⟨"fixture_new", (d.constructedNames inherit members).map (·.parameter), false,
        ⟨[], .literal ((d.constructedNames inherit members).map (·.entry crate) ++
          (unstoredNames members).map unsetEntry) true⟩⟩ := by
  have hparams : ((d.scan inherit members).fields.map Field.param).map Parameter.value =
      (d.constructedNames inherit members).map (·.parameter) := by
    rw [List.map_map]
    exact d.scan_fields_map inherit members fun _ _ => rfl
  have hentries : ((d.scan inherit members).fields.map Field.init).map (Init.entry crate) =
      (d.constructedNames inherit members).map (·.entry crate) := by
    rw [List.map_map]
    refine d.scan_fields_map inherit members ?_
    -- with or without a default the entry names the same parameter
    rintro ⟨b, ty, _ | _⟩ visibility <;> rfl
  rw [← hparams, ← hentries, ← d.scan_fillers inherit, ← RecordScan.fillerInits_entries,
    ← List.map_append]
  rfl

/-- The sample accessor passes a sample for each name. -/
theorem scan_sampleAccessor (crate : Path) (name : String) :
    (((d.scan inherit members).sampleAccessor name).function crate).body.tail =
      instanceTail (d.constructedNames inherit members) (unstoredNames members)
        (·.sampleArgument crate) := by
  rw [← d.scan_fillers inherit]
  refine RecordScan.construct_tail _ (d.scan_isEmpty inherit members) ?_
  rw [List.map_map]
  refine d.scan_fields_map inherit members ?_
  rintro ⟨b, ty, _ | _⟩ visibility <;> rfl

/-- The factory passes a field of the builder for each name. -/
theorem scan_factory (crate : Path) (builder : Ty) :
    ((d.scan inherit members).factory.function crate builder).body.tail =
      instanceTail (d.constructedNames inherit members) (unstoredNames members)
        (·.builtArgument) := by
  rw [← d.scan_fillers inherit]
  refine RecordScan.construct_tail _ (d.scan_isEmpty inherit members) ?_
  rw [List.map_map]
  refine d.scan_fields_map inherit members ?_
  rintro ⟨b, ty, _ | _⟩ visibility <;> rfl

/-- The builder is seeded for each name. -/
theorem scan_seeds {γ : Type} (cx : Context) {forSeed : Seed → γ} {forName : ConstructedName → γ}
    (h : ∀ n : ConstructedName, forSeed ⟨n.binding.name, n.type⟩ = forName n) :
    ((d.scan inherit members).builderIn cx).seeds.map forSeed =
      (d.constructedNames inherit members).map forName := by
  show ((d.scan inherit members).fields.map _).map _ = _
  rw [List.map_map]
  exact d.scan_fields_map inherit members fun n _ => h n

/-- **The lists of a scanned record** follow its constructed names. -/
theorem scan_follows (cx : Context) :
    ((d.scan inherit members).expansion cx).Follows cx (d.constructedNames inherit members)
      (unstoredNames members) ((d.scan inherit members).builderIn cx).marker := by
  let s := d.scan inherit members
  let names := d.constructedNames inherit members
  obtain ⟨hnew, hsample, hfactory, hdefault⟩ := s.function?_expansion cx
  have hslots : (s.builderIn cx).seeds.map (fun x => (x.field, x.type)) = names.map (·.slot) :=
    d.scan_seeds inherit members cx fun _ => rfl
  have hseeds : (s.builderIn cx).seeds.map
      (fun x => (Init.mk x.field (.sample x.type)).entry cx.crate) =
        names.map (·.seed cx.crate) :=
    d.scan_seeds inherit members cx fun _ => rfl
  have hsampled : s.sampled.map (Predicate.sampleable cx.crate) =
      names.map (·.predicate cx.crate) := by
    rw [RecordScan.sampled, List.map_map]
    exact d.scan_fields_map inherit members fun _ _ => rfl
  -- one list after the other, in the order of `Expansion.Follows`
  refine ⟨?_, ?_, ?_, ?_, ⟨(s.builderIn cx).marker.isNone, ?_⟩, ?_, ?_, s.bounds_expansion cx⟩
  · rw [hnew, RecordScan.hasConstructor, d.scan_isEmpty, d.scan_constructor]
    cases names.isEmpty <;> rfl
  · rw [hsample, Option.map_some, d.scan_sampleAccessor]
  · rw [hfactory, Option.map_some, d.scan_factory]
  · rw [s.expansion_structs cx, List.map_singleton, Builder.map_item_fields, Builder.slots, hslots]
  · rw [hdefault, ← hseeds]
    rfl
  · rw [s.builderIn_marker cx]
    cases cx.declaration.generics.params.isEmpty <;> rfl
  · show (cx.declaration.generics.sampling cx.crate s.sampled).predicates = _
    rw [Generics.predicates_sampling, hsampled]

end Declaration

/-- **Source order.** One sequence of names, the stored ones of a record that have a type, in the
order of the source, gives every list of the record's code. -/
theorem lists_in_source_order (v : Deriver) {d : Declaration} {members : List Member}
    (hkind : d.kind = .record members) :
    let cx := Context.ofDeclaration v d
    let names := d.constructedNames v.inherit members
    (names.map (·.binding)).Sublist ((storedMembers members).flatMap (·.bindings)) ∧
      ∃ e marker, v.expand d = .ok e ∧ e.tokens = e.items.flatMap itemTokens ∧
        e.Follows cx names (unstoredNames members) marker := by
  intro cx names
  refine ⟨d.constructedNames_sublist v.inherit members, _, _, v.expand_record hkind, ?_,
    d.scan_follows v.inherit members cx⟩
  exact (Expansion.items_tokens _).symm

/-- `struct Run<T> { from, to: Box<Self> = .., static LIMIT: T, lazy cache: T, r#loop: T, seen }`
where `from` and `to` are one group, and so are `r#loop` and `seen`. -/
def runMembers : List Member :=
  [⟨[⟨"from", none, false⟩,
     ⟨"to", some (.path false [.angled "Box" false [.type (.named "Self")] false]), true⟩],
     .stored, none⟩,
   ⟨[⟨"LIMIT", some (.named "T"), true⟩], .static, none⟩,
   ⟨[⟨"cache", some (.named "T"), false⟩], .lazy, none⟩,
   ⟨[⟨"r#loop", some (.named "T"), false⟩, ⟨"seen", none, false⟩], .stored, none⟩]

def runDeclaration : Declaration where
  name := ⟨"Run", .nowhere⟩
  generics := ⟨[.type [] "T" [] false none], false, none⟩
  visibility := none
  enclosing := none
  options := ⟨none, none, false, none⟩
  kind := .record runMembers

/-- `Run` is constructed from `from`, which takes its type and its default from `to`, from `to` and
from `r#loop`; nothing gives `seen` a type. -/
theorem run_lists :
    let boxed : Ty := .path false [.angled "Box" false [.type (runDeclaration.selfType)] false]
    runDeclaration.kind = .record runMembers ∧
      ∃ e, Deriver.standard.expand runDeclaration = .ok e ∧
        (e.function? "fixture_new").map (·.params) =
          some [.value ⟨"fixturefrom", boxed, true⟩, .value ⟨"fixtureto", boxed, true⟩,
            .value ⟨"fixtureloop", .named "T", false⟩] ∧
        (e.function? "fixture_with").map (·.body.tail) =
          some (.expr (.call (.own "fixture_new")
            [.call (.absolute ["core", "option", "Option", "Some"]) [.field "builder" "from"],
             .call (.absolute ["core", "option", "Option", "Some"]) [.field "builder" "to"],
             .field "builder" "r#loop"])) ∧
        e.generics.predicates = [boxed, boxed, .named "T"].map
          (.sampleable (.ofNames true ["fixturize"])) := by
  intro boxed
  obtain ⟨-, e, marker, hexpand, -, hfollows⟩ := lists_in_source_order .standard
    (show runDeclaration.kind = .record runMembers from rfl)
  refine ⟨rfl, e, hexpand, ?_, ?_, ?_⟩
  -- each list is first rewritten to what the declaration says, then computed
  · rw [hfollows.constructor]
    rfl
  · rw [hfollows.factory]
    rfl
  · rw [hfollows.predicates]
    rfl

end Specimen
