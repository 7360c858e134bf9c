import Specimen.Proofs.CodeContext
import Specimen.Proofs.SourceOrder

/-!
# Members that are not constructed

Only stored members are arguments of the constructor and fields of the builder. The other members of
a record can be added, removed and moved around among the stored ones without any effect on what
callers see, as `unstored_members_frame` says; all that is left of them is the order in which their
names stand in struct literals.
-/

namespace Specimen

open Token Target

/-! ## What a scan learns from members -/

def Declaration.withMembers (d : Declaration) (members : List Member) : Declaration :=
  { d with kind := .record members }

/-- The members that are not stored give no fields. -/
theorem extract_fields_eq (inherit : Bool) (members : List Member) :
    (extract inherit members).fields =
      (storedMembers members).flatMap (·.storedFields inherit) := by
  show members.flatMap (·.fields inherit) = _
  induction members with
  | nil => rfl
  | cons m ms ih =>
    rw [List.flatMap_cons, ih, Member.fields, storedMembers, storedMembers, List.filter_cons]
    by_cases h : m.storage = .stored
    · simp [h]
    · simp [h]

/-- Records with the same stored members differ in their fillers only. -/
theorem Declaration.scan_eq_of_stored (d : Declaration) (inherit : Bool) {ms ns : List Member}
    (h : storedMembers ms = storedMembers ns) :
    d.scan inherit ns = { d.scan inherit ms with fillers := unstoredNames ns } := by
  have hfields : (extract inherit ns).fields = (extract inherit ms).fields := by
    rw [extract_fields_eq, extract_fields_eq, h]
  have hfillers : (extract inherit ns).fillers = unstoredNames ns :=
    (unstoredNames_eq_fillers inherit ns).symm
  rw [scan, scan, spelledFields, spelledFields, hfields, hfillers]

/-- The fillers are the only trace of the other members. -/
theorem Declaration.scan_congr (d : Declaration) (inherit : Bool) {ms ns : List Member}
    (h : storedMembers ms = storedMembers ns) (hnames : unstoredNames ms = unstoredNames ns) :
    d.scan inherit ns = d.scan inherit ms := by
  have hfillers : (d.scan inherit ms).fillers = unstoredNames ns :=
    (d.scan_fillers inherit ms).trans hnames
  rw [d.scan_eq_of_stored inherit h, ← hfillers]

/-- A static member is neither stored nor a field of the instance. -/
theorem insert_static (xs ys : List Member) {m : Member} (h : m.storage = .static) :
    storedMembers (xs ++ m :: ys) = storedMembers (xs ++ ys) ∧
      unstoredNames (xs ++ m :: ys) = unstoredNames (xs ++ ys) := by
  constructor
  · simp [storedMembers, h]
  · simp [unstoredNames, h]

/-! ## Code and the kind of the declaration -/

/-- The kind of a declaration is kept in the context of an expansion, and nowhere else. -/
theorem RecordScan.expansion_withKind (s : RecordScan) (cx : Context) (k : DeclarationKind) :
    s.expansion (cx.withKind k) = { s.expansion cx with context := cx.withKind k } := rfl

/-! ## What callers see -/

/-- What a function shows of itself: its name, parameters and result. -/
def Target.Function.signature (f : Function) : List Token :=
  words ["fn", f.name] ++
    parens (punctuated (sym ",") (f.params.map Parameter.tokens) f.trailing) ++ sym "->" ++
      [ident "Self"]

/-- A function up to its body: its attributes with the documentation, its modifier and its
signature. -/
def Target.Declared.front (f : Declared Function) : List Token :=
  f.attributes.flatMap hashAttribute ++ f.modifier.tokens ++ f.item.signature

namespace Expansion

def constructor? (e : Expansion) : Option (Declared Function) :=
  e.functions.find? (·.item.name = "fixture_new")

def fragmentTokens? (e : Expansion) (k : FragmentKind) : Option (List Token) :=
  (e.fragment? k).map (·.tokens e.context)

/-- Two expansions have fragments of the same kinds, the same constructor up to its body, the same
builder, the same bounds and the same conformance. -/
structure SameInterface (e e' : Expansion) : Prop where
  kinds : e.kinds = e'.kinds
  constructor : e.constructor?.map Declared.front = e'.constructor?.map Declared.front
  builder : e.fragmentTokens? .builder = e'.fragmentTokens? .builder
  generics : e.generics = e'.generics
  conformance : e.conformance = e'.conformance

end Expansion

namespace RecordScan

variable (s : RecordScan) (cx : Context)

/-- The constructor is the function called `fixture_new`, which no other one is. -/
theorem expansion_constructor? :
    (s.expansion cx).constructor? =
      if s.hasConstructor then some (s.constructor.declared cx) else none := by
  rw [Expansion.constructor?, expansion_functions]
  cases s.hasConstructor <;> rfl

/-- There is one builder among the fragments, with a constructor in front or not. -/
theorem expansion_builderTokens :
    (s.expansion cx).fragmentTokens? .builder = some ((s.builderIn cx).tokens cx) := by
  have hbuilder : (s.expansion cx).fragment? .builder = some (.builder (s.builderIn cx)) := by
    rw [Expansion.fragment?, expansion]
    cases s.hasConstructor <;> rfl
  rw [Expansion.fragmentTokens?, hbuilder]
  rfl

/-- Fillers stand in struct literals only, and of those the builder has none. -/
theorem sameInterface_fillers (fillers : List String) (k : DeclarationKind) :
    (s.expansion cx).SameInterface
      (RecordScan.expansion { s with fillers } (cx.withKind k)) where
  -- fillers enter the constructor's body alone, and whether there is one depends on fields
  kinds := by
    rw [Expansion.kinds, Expansion.kinds, expansion, expansion, hasConstructor, hasConstructor]
    cases s.fields.isEmpty <;> rfl
  constructor := by
    rw [expansion_constructor?, expansion_constructor?, hasConstructor, hasConstructor]
    cases s.fields.isEmpty <;> rfl
  builder := by
    rw [expansion_builderTokens, expansion_builderTokens]
    rfl
  generics := rfl
  conformance := rfl

end RecordScan

/-! ## Derived code -/

/-- A record is expanded by the scan of its members. -/
theorem Deriver.expand_withMembers (v : Deriver) (d : Declaration) (members : List Member) :
    v.expand (d.withMembers members) = .ok ((d.scan v.inherit members).expansion
      ((Context.ofDeclaration v d).withKind (.record members))) := rfl

/-- **What members that are not stored can do.** Two records of one declaration with the same stored
members have the same visibilities and the same interface. If their other instance fields have the
same names in the same order, then all of their code is the same; so a static member makes no
difference wherever it stands. -/
theorem unstored_members_frame (v : Deriver) (d : Declaration) {ms ns : List Member}
    (h : storedMembers ms = storedMembers ns) :
    (∃ s s' e e',
      (d.withMembers ms).scan? v.inherit = some s ∧ v.expand (d.withMembers ms) = .ok e ∧
      (d.withMembers ns).scan? v.inherit = some s' ∧ v.expand (d.withMembers ns) = .ok e' ∧
      s.effective = s'.effective ∧ s.typeVisibility = s'.typeVisibility ∧
      s.hasConstructor = s'.hasConstructor ∧ e.SameInterface e' ∧
      (unstoredNames ms = unstoredNames ns →
        e.fragments.map (·.tokens e.context) = e'.fragments.map (·.tokens e'.context) ∧
          e.tokens = e'.tokens)) ∧
    ∀ (xs ys : List Member) (m : Member), m.storage = .static →
      (v.expand (d.withMembers (xs ++ m :: ys))).map Expansion.tokens =
        (v.expand (d.withMembers (xs ++ ys))).map Expansion.tokens := by
  let cx := (Context.ofDeclaration v d).withKind (.record ms)
  have hscan := d.scan_eq_of_stored v.inherit h
  refine ⟨⟨d.scan v.inherit ms, d.scan v.inherit ns, (d.scan v.inherit ms).expansion cx,
    (d.scan v.inherit ns).expansion (cx.withKind (.record ns)), rfl, v.expand_withMembers d ms, rfl,
    v.expand_withMembers d ns, ?_, rfl, ?_, ?_, ?_⟩, ?_⟩
  · rw [hscan]
  · rw [hscan]
    rfl
  · rw [hscan]
    exact RecordScan.sameInterface_fillers _ cx _ _
  · intro hnames
    rw [d.scan_congr v.inherit h hnames, RecordScan.expansion_withKind]
    refine ⟨List.map_congr_left fun f _ => ?_, (Expansion.tokens_withKind _ _).symm⟩
    exact ((cx.writesAs_withKind _).fragmentTokens f).symm
  · intro xs ys m hm
    obtain ⟨hstored, hnames⟩ := insert_static xs ys hm
    rw [v.expand_withMembers, v.expand_withMembers, d.scan_congr v.inherit hstored hnames]
    -- only the members in the context differ
    exact congrArg Except.ok (Expansion.tokens_withKind
      ((d.scan v.inherit (xs ++ m :: ys)).expansion
        ((Context.ofDeclaration v d).withKind (.record (xs ++ m :: ys)))) _).symm

/-- `pub struct Lamp<T> { pub glow: T, pub name: u8 = .. }` without what is not stored -/
def lampDeclaration : Declaration where
  name := ⟨"Lamp", .nowhere⟩
  generics := ⟨[.type [] "T" [] false none], false, none⟩
  visibility := some (.ofModifier .pub)
  enclosing := none
  options := ⟨none, none, false, none⟩
  kind := .record []

def lampMembers (first second : List Member) : List Member :=
  ⟨[⟨"glow", some (.named "T"), false⟩], .stored, some (.ofModifier .pub)⟩ :: first ++
    ⟨[⟨"name", some (.named "u8"), true⟩], .stored, some (.ofModifier .pub)⟩ :: second

/-- `lazy cache: T`, which is private -/
def lampCache : Member :=
  ⟨[⟨"cache", some (.named "T"), false⟩], .lazy, some (.ofModifier .inherited)⟩

/-- A private cache between the fields of `Lamp` or behind them leaves the builder public, and
moving it changes no code. -/
theorem lamp_cache_frame :
    storedMembers (lampMembers [lampCache] []) = storedMembers (lampMembers [] [lampCache]) ∧
      unstoredNames (lampMembers [lampCache] []) = unstoredNames (lampMembers [] [lampCache]) ∧
      ∃ s e e', (lampDeclaration.withMembers (lampMembers [lampCache] [])).scan? true = some s ∧
        s.effective = .ofModifier .pub ∧
        Deriver.standard.expand (lampDeclaration.withMembers (lampMembers [lampCache] [])) = .ok e ∧
        Deriver.standard.expand (lampDeclaration.withMembers (lampMembers [] [lampCache])) =
          .ok e' ∧
        e.SameInterface e' ∧ e.tokens = e'.tokens := by
  have hstored : storedMembers (lampMembers [lampCache] []) =
      storedMembers (lampMembers [] [lampCache]) := rfl
  have hnames : unstoredNames (lampMembers [lampCache] []) =
      unstoredNames (lampMembers [] [lampCache]) := rfl
  obtain ⟨⟨s, -, e, e', hscan, hexpand, -, hexpand', -, -, -, hsame, hcode⟩, -⟩ :=
    unstored_members_frame .standard lampDeclaration hstored
  refine ⟨hstored, hnames, s, e, e', hscan, ?_, hexpand, hexpand', hsame, (hcode hnames).2⟩
  obtain rfl := Option.some.inj hscan
  rfl

end Specimen
