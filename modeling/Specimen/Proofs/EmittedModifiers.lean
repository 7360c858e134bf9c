import Specimen.Proofs.ModifierText
import Specimen.Proofs.StoredFields
import Specimen.Proofs.Target.Reading
import Specimen.Proofs.Visibility

/-!
# The modifiers of generated code

Everything that shows field types has one and the same modifier in front of it, and the sample
accessor has that of the type. `emitted_modifiers` lists them all for a struct from source, and says
that each is read back with the level that it was chosen for.
-/

namespace Specimen

open Target

/-! ## The narrowest of written modifiers -/

/-- Among written modifiers, the narrowest is one of them, and none has a lower level. -/
theorem Visibility.narrowest_ofModifier (type : Modifier) (fields : List Modifier) :
    ∃ m ∈ type :: fields,
      narrowest (some (ofModifier type)) (fields.map fun a => some (ofModifier a)) = ofModifier m ∧
        ∀ a ∈ type :: fields, m.level ≤ a.level := by
  obtain ⟨before, w, after, hsplit, hnarrowest, hbefore, hafter⟩ :=
    narrowest_split (some (ofModifier type)) (fields.map fun a => some (ofModifier a))
  have hsplit' : (type :: fields).map (fun a => some (ofModifier a)) = before ++ w :: after :=
    hsplit
  have hw : w ∈ (type :: fields).map fun a => some (ofModifier a) := by
    rw [hsplit']
    simp
  obtain ⟨m, hm, rfl⟩ := List.mem_map.mp hw
  refine ⟨m, hm, hnarrowest, fun a ha => ?_⟩
  have hmem : some (ofModifier a) ∈ before ++ some (ofModifier m) :: after := by
    rw [← hsplit']
    exact List.mem_map_of_mem ha
  -- what stands before the winner has a higher level, what stands behind it no lower one
  rcases List.mem_append.mp hmem with hb | hc
  · exact Nat.le_of_lt (hbefore _ hb)
  · rcases List.mem_cons.mp hc with heq | hd
    · have hsame : a = m := congrArg modifier (Option.some.inj heq)
      rw [hsame]
      exact Nat.le_refl _
    · exact hafter _ hd

/-! ## The modifier of the type -/

/-- The modifier that a type is seen by: its own, or that of the enclosing scope if its own is left
out and the scope has one. -/
def Item.reach (item : Item) (enclosing : Option Modifier) : Modifier :=
  if item.modifier = .inherited then enclosing.getD .inherited else item.modifier

/-- A declaration in a scope that may have a modifier. -/
def Declaration.inScope (d : Declaration) : Option Modifier → Declaration
  | none => d
  | some m => d.enclosedBy (.ofModifier m)

/-- A scope changes how far a declaration is seen, and not what it declares. -/
theorem Declaration.inScope_kind (d : Declaration) (outer : Option Modifier) :
    (d.inScope outer).kind = d.kind := by
  cases outer <;> rfl

theorem Declaration.inScope_generics (d : Declaration) (outer : Option Modifier) :
    (d.inScope outer).generics = d.generics := by
  cases outer <;> rfl

section

variable {item : Item} {d : Declaration} (outer : Option Modifier)

/-- A scope takes the place of the one that the options name. -/
theorem Declaration.typeVisibility_inScope (h : Declaration.ofItem item = .ok d) :
    (d.inScope outer).typeVisibility =
      some (.ofModifier (item.reach (outer.or d.options.enclosing))) := by
  obtain ⟨-, -, -, -, hvisibility, henclosing⟩ := Declaration.ofItem_ok h
  have hscope : (d.inScope outer).enclosing =
      (outer.or d.options.enclosing).map .ofModifier := by
    cases outer with
    | none => exact henclosing
    | some a => rfl
  have hown : (d.inScope outer).visibility = some (.ofModifier item.modifier) := by
    cases outer with
    | none => exact hvisibility
    | some a => exact hvisibility
  rw [typeVisibility, hscope, hown, Item.reach]
  -- the scope counts only if the type has no modifier of its own
  by_cases hinherited : item.modifier = .inherited
  · rw [if_pos hinherited, hinherited]
    cases outer.or d.options.enclosing <;> rfl
  · rw [if_neg hinherited]
    have hwritten : (Visibility.ofModifier item.modifier).isInherited = false :=
      decide_eq_false hinherited
    cases outer.or d.options.enclosing with
    | none => rfl
    | some a =>
      show (if (Visibility.ofModifier item.modifier).isInherited then _ else _) = _
      rw [hwritten]
      rfl

/-- What a scan takes from the modifiers of a struct: that of the type as it is, and the narrowest
of that one and those of the stored fields. -/
theorem Declaration.scan_inScope {fields : List NamedField} {members : List Member}
    (hbody : item.body.structFields? = some fields) (h : Declaration.ofItem item = .ok d)
    (hkind : d.kind = .record members) (inherit : Bool) :
    let s := (d.inScope outer).scan inherit members
    let own := item.reach (outer.or d.options.enclosing)
    let candidates := own :: (fields.filter (·.isStored)).map (·.modifier)
    s.typeVisibility = .ofModifier own ∧
      ∃ m ∈ candidates, s.effective = .ofModifier m ∧ ∀ a ∈ candidates, m.level ≤ a.level := by
  intro s own candidates
  have htype := Declaration.typeVisibility_inScope outer h
  have hfields := (extract_ofItem hbody h hkind inherit).1
  -- the fold of the tie over the written modifiers, before the scan's own lists come in
  obtain ⟨m, hm, hnarrowest, hleast⟩ :=
    Visibility.narrowest_ofModifier own ((fields.filter (·.isStored)).map (·.modifier))
  refine ⟨?_, m, hm, ?_, hleast⟩
  · show (d.inScope outer).typeVisibility.getD .unstated = _
    rw [htype]
    rfl
  · show Visibility.narrowest (d.inScope outer).typeVisibility
      ((extract inherit members).fields.map (·.visibility)) = _
    rw [htype, hfields, List.map_map, ← hnarrowest, List.map_map]
    rfl

/-- The modifier of a type from source is readable, in whatever scope from source. -/
theorem Item.reach_readable (hitem : item.modifier.Readable) (h : Declaration.ofItem item = .ok d)
    (houter : ∀ a ∈ outer, ∃ text, Modifier.read? text = some a) :
    (item.reach (outer.or d.options.enclosing)).Readable := by
  rw [reach]
  split
  -- an enclosing modifier is either passed in or read off the type's own options
  · cases outer with
    | some a =>
      obtain ⟨text, htext⟩ := houter a rfl
      exact Reader.readWith_gives (fun _ => Grammar.gives_modifier) htext
    | none =>
      have hoptions := readOptions_enclosing (Declaration.ofItem_ok h).1
      cases henclosing : d.options.enclosing with
      | none => trivial
      | some a => exact hoptions a henclosing
  · exact hitem

end

/-! ## The modifiers of an expansion -/

def functionModifiers (items : List (Declared Block)) : List (String × Modifier) :=
  (functionsOf items).map fun f => (f.item.name, f.modifier)

/-- The structs among some items: the modifier of each, and its fields with theirs. -/
def structModifiers (items : List (Declared Block)) : List (Modifier × List (String × Modifier)) :=
  (structsOf items).map fun x => (x.1, x.2.map fun f => (f.item.1, f.modifier))

theorem functionModifiers_append (xs ys : List (Declared Block)) :
    functionModifiers (xs ++ ys) = functionModifiers xs ++ functionModifiers ys := by
  rw [functionModifiers, functionsOf_append, List.map_append]
  rfl

/-- The function `new` has the modifier of the builder, and exists only where that is wide
enough. -/
theorem Builder.functionModifiers_newImpl? (b : Builder) (cx : Context) :
    functionModifiers (b.newImpl? cx).toList =
      if Level.workspace ≤ b.visibility.level then [("new", b.visibility.modifier)] else [] := by
  rw [newImpl?]
  split <;> rfl

namespace RecordScan

variable (s : RecordScan) (cx : Context)

/-- The constructor and the builder go as far as the narrowest modifier, the accessor as far as the
type. -/
theorem functionModifiers_inherentImpl :
    functionModifiers [(s.expansion cx).inherentImpl] =
      (if s.hasConstructor then [("fixture_new", s.effective.modifier)] else []) ++
        [("fixture", s.typeVisibility.modifier), ("fixture_with", s.effective.modifier)] := by
  have hfunctions : functionsOf [(s.expansion cx).inherentImpl] = (s.expansion cx).functions :=
    List.append_nil _
  rw [functionModifiers, hfunctions, expansion_functions]
  cases s.hasConstructor <;> rfl

/-- The functions of an expansion in order. -/
theorem functionModifiers_expansion :
    functionModifiers (s.expansion cx).items =
      (if s.hasConstructor then [("fixture_new", s.effective.modifier)] else []) ++
        [("fixture", s.typeVisibility.modifier), ("fixture_with", s.effective.modifier),
          ("default", .inherited)] ++
        (if Level.workspace ≤ s.effective.level then [("new", s.effective.modifier)] else []) ++
        [("sample", .inherited)] := by
  -- `new` stands in an item of its own, so its part is split off first
  have hnew := (s.builderIn cx).functionModifiers_newImpl? cx
  rw [expansion_items, functionModifiers_append, functionModifiers_append, hnew]
  show functionModifiers ([(s.expansion cx).inherentImpl] ++ [_, _]) ++ _ ++ _ = _
  rw [functionModifiers_append, functionModifiers_inherentImpl, List.append_assoc _ [_, _]]
  rfl

/-- The only struct of an expansion is that of the builder. -/
theorem structModifiers_expansion :
    structModifiers (s.expansion cx).items =
      [(s.effective.modifier, (s.fields.map (·.name)).map (·, s.effective.modifier) ++
        if cx.declaration.generics.params.isEmpty then []
        else [(markerName (s.fields.map (·.name)), .inherited)])] := by
  have hfields : ((s.builderIn cx).fields cx.declaration.selfType).map
      (fun f => (f.item.1, f.modifier)) =
      (s.fields.map (·.name)).map (·, s.effective.modifier) ++
        (s.builderIn cx).marker.toList.map (·, .inherited) := by
    rw [Builder.fields, List.map_append, List.map_map, List.map_map, builderIn]
    simp only [builder, List.map_map]
    rfl
  rw [structModifiers, expansion_structs, List.map_singleton, hfields, builderIn_marker]
  cases cx.declaration.generics.params.isEmpty <;> rfl

end RecordScan

/-! ## Structs from source -/

/-- **The modifiers of generated code.** For a struct from source, in a scope with a modifier from
source or without one: the constructor, the factory, the builder, its fields and its `new` have one
modifier, which is that of the type or of a stored field and has the lowest level among these. The
sample accessor has the modifier of the type. Both are read back from their text as they are. -/
theorem emitted_modifiers (v : Deriver) {source : String} {item : Item} {fields : List NamedField}
    {d : Declaration} (outer : Option Modifier) (hread : Item.read? source = some item)
    (hbody : item.body.structFields? = some fields) (h : Declaration.ofItem item = .ok d)
    (houter : ∀ a ∈ outer, ∃ text, Modifier.read? text = some a) :
    let own := item.reach (outer.or d.options.enclosing)
    let stored := fields.filter (·.isStored)
    let candidates := own :: stored.map (·.modifier)
    ∃ e, ∃ m ∈ candidates, v.expand (d.inScope outer) = .ok e ∧
      e.tokens = e.items.flatMap itemTokens ∧
      (d.inScope outer).typeVisibility = some (.ofModifier own) ∧
      Modifier.ofTokens? own.tokens = some own ∧ Modifier.ofTokens? m.tokens = some m ∧
      (∀ a ∈ candidates, m.level ≤ a.level) ∧
      functionModifiers e.items =
        (if stored.isEmpty then [] else [("fixture_new", m)]) ++
          [("fixture", own), ("fixture_with", m), ("default", .inherited)] ++
          (if Level.workspace ≤ m.level then [("new", m)] else []) ++ [("sample", .inherited)] ∧
      structModifiers e.items =
        [(m, (stored.map fun f => (f.name.text, m)) ++
          if d.generics.params.isEmpty then []
          else [(markerName (stored.map (·.name.text)), .inherited)])] := by
  intro own stored candidates
  obtain ⟨members, hkind⟩ := Declaration.record_of_structFields? hbody h
  have hkind' : (d.inScope outer).kind = .record members := (d.inScope_kind outer).trans hkind
  obtain ⟨haccessor, m, hm, heffective, hleast⟩ :=
    Declaration.scan_inScope outer hbody h hkind v.inherit
  -- the constructible fields are the stored fields of the source
  have hnames : ((d.inScope outer).scan v.inherit members).fields.map (·.name) =
      stored.map (·.name.text) := by
    rw [Declaration.scan_field_names, (extract_ofItem hbody h hkind v.inherit).1, List.map_map]
    rfl
  have hconstructor : ((d.inScope outer).scan v.inherit members).hasConstructor =
      !stored.isEmpty := by
    have hempty := congrArg List.isEmpty hnames
    rw [List.isEmpty_map, List.isEmpty_map] at hempty
    rw [RecordScan.hasConstructor, hempty]
  -- nothing but what the grammar reads stands in the source
  obtain ⟨hitem, hfields⟩ := Reader.readWith_gives Grammar.gives_item hread
  have hown : own.Readable := Item.reach_readable outer hitem h houter
  have hcandidates : ∀ a ∈ candidates, a.Readable := by
    refine List.forall_mem_cons.mpr ⟨hown, fun a ha => ?_⟩
    obtain ⟨f, hf, rfl⟩ := List.mem_map.mp ha
    rw [ItemBody.namedFields_of_structFields? hbody] at hfields
    exact hfields f (List.mem_of_mem_filter hf)
  refine ⟨_, m, hm, v.expand_record hkind', (Expansion.items_tokens _).symm,
    Declaration.typeVisibility_inScope outer h, Modifier.ofTokens?_tokens hown,
    Modifier.ofTokens?_tokens (hcandidates m hm), hleast, ?_, ?_⟩
  · rw [RecordScan.functionModifiers_expansion, hconstructor, heffective, haccessor]
    cases stored.isEmpty <;> rfl
  · have hgenerics : (Context.ofDeclaration v (d.inScope outer)).declaration.generics =
        d.generics := d.inScope_generics outer
    rw [RecordScan.structModifiers_expansion, heffective, hnames, hgenerics, List.map_map]
    rfl

/-- A generic struct without a modifier of its own and with a private field that is filled on first
use. -/
def ledgerSource : String :=
  "#[fixture(enclosing_vis = \"pub(crate)\")]
  struct Ledger<T> \x7b pub rows: Vec<T>, cache: OnceCell<T>, pub(in crate::a) size: u8 \x7d"

/-- The members of `Ledger` are seen as far as its last field. The private field does not count. -/
theorem ledger_modifiers :
    ∃ item fields d e, Item.read? ledgerSource = some item ∧
      item.body.structFields? = some fields ∧ Declaration.ofItem item = .ok d ∧
      Deriver.standard.expand d = .ok e ∧
      functionModifiers e.items =
        [("fixture_new", .restricted true false ["crate", "a"]), ("fixture", .crate),
          ("fixture_with", .restricted true false ["crate", "a"]), ("default", .inherited),
          ("sample", .inherited)] := by
  -- reading and lowering the text is one closed computation; the rest goes through the theorem
  have hsource : ((Item.read? ledgerSource).bind fun item => item.body.structFields?.bind
      fun fields => (Declaration.ofItem item).toOption.map fun d =>
        (item.reach d.options.enclosing, (fields.filter (·.isStored)).map (·.modifier))) =
      some (.crate, [.pub, .restricted true false ["crate", "a"]]) := by
    decide +kernel
  simp only [Option.bind_eq_some_iff, Option.map_eq_some_iff] at hsource
  obtain ⟨item, hread, fields, hbody, d, hd, hfacts⟩ := hsource
  obtain ⟨hown, hstored⟩ := Prod.mk.inj hfacts
  have h : Declaration.ofItem item = .ok d := by
    cases hitem : Declaration.ofItem item with
    | error report => simp [hitem, Except.toOption] at hd
    | ok found =>
      rw [hitem] at hd
      rw [Option.some.inj hd]
  obtain ⟨e, m, hm, hexpand, -, -, -, -, hleast, hfunctions, -⟩ :=
    emitted_modifiers .standard none hread hbody h (by simp)
  refine ⟨item, fields, d, e, hread, hbody, h, hexpand, ?_⟩
  have hown' : item.reach (Option.or none d.options.enclosing) = .crate := hown
  rw [hown', hstored] at hm hleast
  have hsome : (fields.filter (·.isStored)).isEmpty = false := by
    rw [← List.isEmpty_map, hstored]
    rfl
  -- the path is stored, and it is the only candidate at its level
  have hlevel : m.level ≤ .ancestor := hleast (.restricted true false ["crate", "a"]) (by simp)
  have hsame : m = .restricted true false ["crate", "a"] := by
    simp only [List.mem_cons, List.not_mem_nil, or_false] at hm
    rcases hm with rfl | rfl | rfl
    · exact absurd hlevel (by decide)
    · exact absurd hlevel (by decide)
    · rfl
  rw [hfunctions, hown', hsome, hsame]
  rfl

end Specimen
