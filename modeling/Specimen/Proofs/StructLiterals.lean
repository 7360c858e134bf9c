import Specimen.Proofs.StoredFields
import Specimen.Proofs.Target.RecordFunctions

/-!
# The struct literals of a record

A struct literal has to name every field of its struct, and no field twice. A record's own functions
write one, in the constructor, or two where there is no constructor. `literals_complete` says that
each of them names the stored fields of the struct and then all others.
-/

namespace Specimen

open Target

/-! ## Literals -/

/-- The fields that the struct literal at the end of a function names, if there is one. No other
part of a function holds struct literals. -/
def Target.Function.literalNames? (f : Function) : Option (List String) :=
  match f.body.tail with
  | .literal entries _ => some (entries.map (·.1))
  | _ => none

/-- The struct literals in the functions of the declared type: the function and the names. -/
def Expansion.literals (e : Expansion) : List (String × List String) :=
  e.functions.filterMap fun f => f.item.literalNames?.map (f.item.name, ·)

namespace RecordScan

variable (s : RecordScan) (cx : Context)

/-- The constructor ends in the literal of all fields. -/
theorem literalNames?_constructor :
    (s.constructor.declared cx).item.literalNames? = some s.instanceNames :=
  congrArg some (s.constructor_entry_names cx.crate)

/-- An instance is written as a literal only where there is no constructor to call. Then all of its
names are fillers. -/
theorem literalNames?_construct (args : List Value) (name : String) (params : List Parameter)
    (trailing : Bool) (statements : List Statement) :
    Target.Function.literalNames?
        ⟨name, params, trailing, statements, (s.construct args).tail cx.crate⟩ =
      if s.hasConstructor then none else some s.instanceNames := by
  cases h : s.hasConstructor with
  | true =>
    rw [construct, if_pos h]
    rfl
  | false =>
    -- no constructor means no stored field, so only the fillers are written
    have hfields : s.fields = [] := by simpa [hasConstructor] using h
    have hnames : (s.fillerInits.map (Init.entry cx.crate)).map (·.1) = s.instanceNames := by
      simp [fillerInits, instanceNames, hfields, Function.comp_def, Init.entry]
    rw [construct, if_neg (by simp [h])]
    exact congrArg some hnames

/-- The literals of a record all name the same fields. -/
theorem expansion_literals :
    (s.expansion cx).literals =
      (if s.hasConstructor then ["fixture_new"] else ["fixture", "fixture_with"]).map
        (·, s.instanceNames) := by
  have haccessor : ((s.sampleAccessor cx.declaration.name.text).declared cx).item.literalNames? =
      if s.hasConstructor then none else some s.instanceNames :=
    s.literalNames?_construct cx _ _ _ _ _
  have hfactory : (s.factory.declared cx).item.literalNames? =
      if s.hasConstructor then none else some s.instanceNames :=
    s.literalNames?_construct cx _ _ _ _ _
  rw [Expansion.literals, expansion_functions]
  -- with a constructor the two others call it; without, each writes the literal itself
  cases h : s.hasConstructor with
  | true =>
    simp only [h, if_true] at haccessor hfactory
    simp only [if_true, List.cons_append, List.nil_append, List.filterMap_cons, List.filterMap_nil,
      literalNames?_constructor, haccessor, hfactory, Option.map_some, Option.map_none]
    rfl
  | false =>
    simp only [h, Bool.false_eq_true, if_false] at haccessor hfactory
    simp only [Bool.false_eq_true, if_false, List.nil_append, List.filterMap_cons,
      List.filterMap_nil, haccessor, hfactory, Option.map_some]
    rfl

end RecordScan

/-! ## Records from source -/

/-- To derive is to lower an item and to expand what that gives. -/
theorem Deriver.derive_eq_ok {v : Deriver} {item : Item} {d : Declaration} {e : Expansion}
    (h : Declaration.ofItem item = .ok d) (he : v.expand d = .ok e) :
    v.derive item = .ok e.tokens := by
  rw [Deriver.derive, bind_eq_ok]
  refine ⟨d, h, ?_⟩
  rw [he]
  rfl

/-- The names of a scanned struct: those of its stored fields, then the others. -/
theorem Declaration.scan_instanceNames {item : Item} {d : Declaration} {fields : List NamedField}
    {members : List Member} (hbody : item.body.structFields? = some fields)
    (h : Declaration.ofItem item = .ok d) (hkind : d.kind = .record members) (inherit : Bool) :
    (d.scan inherit members).instanceNames =
      (fields.filter (·.isStored)).map (·.name.text) ++
        (fields.filter (!·.isStored)).map (·.name.text) := by
  obtain ⟨hfields, hfillers⟩ := extract_ofItem hbody h hkind inherit
  have hothers : (d.scan inherit members).fillers = (extract inherit members).fillers := rfl
  rw [RecordScan.instanceNames, d.scan_field_names, hothers, hfields, hfillers, List.map_map]
  rfl

/-- There is something to construct exactly if a field is stored. -/
theorem Declaration.scan_hasConstructor {item : Item} {d : Declaration} {fields : List NamedField}
    {members : List Member} (hbody : item.body.structFields? = some fields)
    (h : Declaration.ofItem item = .ok d) (hkind : d.kind = .record members) (inherit : Bool) :
    (d.scan inherit members).hasConstructor = fields.any (·.isStored) := by
  have hfields := (extract_ofItem hbody h hkind inherit).1
  -- the scan's fields are the stored ones, so it is empty exactly when none is
  have hempty : (d.scan inherit members).fields = [] ↔ fields.any (·.isStored) = false := by
    simp [scan, spelledFields, hfields, List.filter_eq_nil_iff]
  rw [RecordScan.hasConstructor]
  cases hany : fields.any (·.isStored) with
  | true =>
    have hne : (d.scan inherit members).fields ≠ [] := by
      intro hnil
      rw [hempty.mp hnil] at hany
      exact Bool.noConfusion hany
    simpa using hne
  | false =>
    rw [hempty.mpr hany]
    rfl

/-- **Struct literals are complete.** The code derived for a struct with different field names has a
struct literal in the constructor, or one each in the sample accessor and the factory if nothing is
stored. Each literal names every field of the struct once, the stored ones first. -/
theorem literals_complete (v : Deriver) {item : Item} {fields : List NamedField} {d : Declaration}
    (hbody : item.body.structFields? = some fields) (h : Declaration.ofItem item = .ok d)
    (hdistinct : (fields.map (·.name.text)).Nodup) :
    let names := (fields.filter (·.isStored)).map (·.name.text) ++
      (fields.filter (!·.isStored)).map (·.name.text)
    ∃ e, v.expand d = .ok e ∧ v.derive item = .ok (e.items.flatMap itemTokens) ∧
      e.literals =
        (if fields.any (·.isStored) then ["fixture_new"] else ["fixture", "fixture_with"]).map
          (·, names) ∧
      names.Perm (fields.map (·.name.text)) ∧ names.Nodup := by
  intro names
  obtain ⟨members, hkind⟩ := Declaration.record_of_structFields? hbody h
  have hexpand := v.expand_record hkind
  -- every field is in one of the two lists
  have hperm : names.Perm (fields.map (·.name.text)) := by
    have hsplit := (List.filter_append_perm (fun f : NamedField => f.isStored) fields).map
      (fun f => f.name.text)
    rw [List.map_append] at hsplit
    exact hsplit
  refine ⟨_, hexpand, ?_, ?_, hperm, ?_⟩
  · rw [Expansion.items_tokens]
    exact Deriver.derive_eq_ok h hexpand
  · rw [RecordScan.expansion_literals, Declaration.scan_hasConstructor hbody h hkind,
      Declaration.scan_instanceNames hbody h hkind]
  · exact hperm.nodup_iff.mpr hdistinct

/-- The fields of `struct Store { cache: OnceCell, key: u8, #[fixture(observed)] hits: u8,
r#type: u8 }`. -/
def storeFields : List NamedField :=
  let observed : Attribute := ⟨.ofNames false ["fixture"],
    .list [.leaf (.ident "observed") .nowhere], .nowhere, .nowhere, []⟩
  [⟨[], .inherited, ⟨"cache", .nowhere⟩, .named "OnceCell", .nowhere⟩,
   ⟨[], .inherited, ⟨"key", .nowhere⟩, .named "u8", .nowhere⟩,
   ⟨[observed], .inherited, ⟨"hits", .nowhere⟩, .named "u8", .nowhere⟩,
   ⟨[], .inherited, ⟨"r#type", .nowhere⟩, .named "u8", .nowhere⟩]

def storeItem : Item where
  attributes := []
  modifier := .inherited
  name := ⟨"Store", .nowhere⟩
  generics := .empty
  body := .record (.named storeFields)

/-- The constructor of `Store` sets `cache` and `hits` after the fields that it has parameters
for. -/
theorem store_literals :
    storeItem.body.structFields? = some storeFields ∧
      (storeFields.map (·.name.text)).Nodup ∧
      ∃ d e, Declaration.ofItem storeItem = .ok d ∧ Deriver.standard.expand d = .ok e ∧
        e.literals = [("fixture_new", ["key", "r#type", "cache", "hits"])] := by
  have hdistinct : (storeFields.map (·.name.text)).Nodup := by decide
  have hitem : Declaration.ofItem storeItem = .ok _ := rfl
  obtain ⟨e, hexpand, -, hliterals, -⟩ := literals_complete .standard rfl hitem hdistinct
  exact ⟨rfl, hdistinct, _, e, hitem, hexpand, hliterals⟩

end Specimen
