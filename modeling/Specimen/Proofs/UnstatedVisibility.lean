import Mathlib.Data.List.Forall2
import Specimen.Proofs.CodeContext
import Specimen.Proofs.Target.Reading

/-!
# Visibilities that are not stated

A declaration need not say how visible its type and its members are. What is not stated counts as
`pub(crate)`: for every declaration there is one that states everything (`Declaration.stated`), and
the two have the same code. So does any declaration between the two, as `unstated_is_crate` says.
-/

namespace Specimen

/-! ## Stating what goes without saying -/

namespace Visibility

/-- A visibility that is stated: `pub(crate)` if none was. -/
def stated (v : Option Visibility) : Option Visibility := some (v.getD unstated)

/-- What is not stated has the level of `pub(crate)` already. -/
theorem levelOf_stated (v : Option Visibility) : levelOf (stated v) = levelOf v :=
  levelOf_getD v

/-- To state two candidates changes neither which one is taken nor what it is taken for. -/
theorem narrower_stated (a b : Option Visibility) :
    narrower (stated a) (stated b) = stated (narrower a b) := by
  rw [narrower, narrower, levelOf_stated, levelOf_stated]
  split <;> rfl

/-- The fold over the candidates may state each of them, or only what it ends with. -/
theorem narrowest_stated (type : Option Visibility) (fields : List (Option Visibility)) :
    narrowest (stated type) (fields.map stated) = narrowest type fields := by
  induction fields generalizing type with
  | nil => rfl
  | cons f fs ih => rw [List.map_cons, narrowest_cons, narrower_stated, ih, narrowest_cons]

/-- A visibility is left as it is, or `pub(crate)` takes the place of one that is not stated. -/
inductive Restated : Option Visibility → Option Visibility → Prop where
  | same (v : Option Visibility) : Restated v v
  | crate : Restated none (some unstated)

/-- Once stated, a visibility and its restatement are the same. -/
theorem Restated.stated_eq {v w : Option Visibility} (h : Restated v w) : stated w = stated v := by
  cases h with
  | same => rfl
  | crate => rfl

end Visibility

open Visibility (Restated stated)

def Member.stated (m : Member) : Member := { m with visibility := Visibility.stated m.visibility }

def Field.stated (f : Field) : Field := { f with visibility := Visibility.stated f.visibility }

def DeclarationKind.stated : DeclarationKind → DeclarationKind
  | .record members => .record (members.map Member.stated)
  | k => k

/-- The declaration with all visibilities stated. A type in a scope of some visibility has that one
if it states none itself. -/
def Declaration.stated (d : Declaration) : Declaration :=
  { d with
    visibility := if d.enclosing.isNone then Visibility.stated d.visibility else d.visibility
    kind := d.kind.stated }

/-- To state visibilities makes no record of anything else. -/
theorem DeclarationKind.eq_record_of_stated {k : DeclarationKind} {members : List Member}
    (h : k.stated = .record members) : ∃ ms, k = .record ms ∧ ms.map Member.stated = members := by
  cases k with
  | record ms => exact ⟨ms, rfl, DeclarationKind.record.inj h⟩
  | taggedUnion cases => cases h
  | unsupported kind => cases h

/-! ## Fields -/

/-- The fields of a member are as visible as the member, and are otherwise the same. -/
theorem Member.fields_stated (inherit : Bool) (m : Member) :
    m.stated.fields inherit = (m.fields inherit).map Field.stated := by
  rw [fields, fields]
  show (if m.storage = .stored then m.stated.storedFields inherit else []) = _
  split
  · rw [storedFields, storedFields]
    have hbindings : m.stated.bindings = m.bindings := rfl
    rw [hbindings]
    cases m.bindings.getLast? with
    | none => rfl
    | some last =>
      simp only [List.map_filterMap, Option.map_map]
      rfl
  · rfl

/-- The fillers have no visibilities to state. -/
theorem extract_stated (inherit : Bool) (members : List Member) :
    extract inherit (members.map Member.stated) =
      { extract inherit members with
        fields := (extract inherit members).fields.map Field.stated } := by
  rw [extract, extract, List.flatMap_map, List.flatMap_map, List.map_flatMap]
  simp only [Member.fields_stated]
  rfl

/-- What is learned from the same record with the visibility of each field stated. -/
def RecordScan.stated (s : RecordScan) : RecordScan :=
  { s with fields := s.fields.map Field.stated }

/-- Code mentions no visibility of a single field. -/
theorem RecordScan.expansion_stated (s : RecordScan) (cx : Context) :
    s.stated.expansion cx = s.expansion cx := by
  simp only [stated, expansion, constructor, sampleAccessor, builder, factory, construct,
    hasConstructor, sampled, fillerInits, List.map_map, List.isEmpty_map]
  rfl

/-! ## Declarations -/

/-- Only records have a scan. -/
theorem Declaration.scan?_eq_some {d : Declaration} {inherit : Bool} {s : RecordScan} :
    d.scan? inherit = some s ↔
      ∃ members, d.kind = .record members ∧ s = d.scan inherit members := by
  rw [scan?]
  cases d.kind <;> simp [eq_comm]

namespace Declaration

variable (d : Declaration)

/-- In a scope of some visibility, the type has one that is stated. -/
theorem typeVisibility_stated : d.stated.typeVisibility = Visibility.stated d.typeVisibility := by
  obtain ⟨name, generics, visibility, enclosing, options, kind⟩ := d
  -- a scope has a visibility for whatever states none
  cases enclosing with
  | none =>
    rw [typeVisibility_of_enclosing_none rfl, typeVisibility_of_enclosing_none rfl]
    rfl
  | some enclosing =>
    cases visibility with
    | none => rfl
    | some own =>
      show (if own.isInherited then _ else _) = Visibility.stated (if own.isInherited then _ else _)
      split <;> rfl

/-- Only the fields show which visibilities were stated. -/
theorem scan_stated (inherit : Bool) (members : List Member) :
    d.stated.scan inherit (members.map Member.stated) = (d.scan inherit members).stated := by
  -- the tie ranks an unstated visibility as the one that stands for it
  have heffective : Visibility.narrowest d.stated.typeVisibility
      (((extract inherit members).fields.map Field.stated).map (·.visibility)) =
        (d.scan inherit members).effective := by
    have hfields : ((extract inherit members).fields.map Field.stated).map (·.visibility) =
        ((extract inherit members).fields.map (·.visibility)).map Visibility.stated := by
      rw [List.map_map, List.map_map]
      rfl
    rw [hfields, typeVisibility_stated, Visibility.narrowest_stated]
    rfl
  have hspelled : d.stated.spelledFields (extract inherit (members.map Member.stated)) =
      (d.scan inherit members).fields.map Field.stated := by
    rw [extract_stated]
    simp only [scan, spelledFields, List.map_map]
    rfl
  rw [scan, hspelled, extract_stated, heffective, typeVisibility_stated]
  rfl

end Declaration

/-- **Stating all visibilities** changes neither the fragments of an expansion nor its generics. -/
theorem Deriver.expand_stated (v : Deriver) (d : Declaration) :
    v.expand d.stated =
      (v.expand d).map fun e => { e with context := .ofDeclaration v d.stated } := by
  have hkind : d.stated.kind = d.kind.stated := rfl
  rw [expand, expand, hkind]
  cases hd : d.kind with
  -- the scan of the stated members is the same scan, so only the context differs
  | record members =>
    show Except.ok ((d.stated.scan v.inherit (members.map Member.stated)).expansion _) = _
    rw [d.scan_stated, RecordScan.expansion_stated]
    rfl
  | taggedUnion cases =>
    cases cases with
    | nil => rfl
    | cons first later =>
      -- of a tagged union only the accessor's modifier reads the visibility
      have htype : d.stated.typeVisibility.getD .unstated = d.typeVisibility.getD .unstated := by
        rw [d.typeVisibility_stated]
        rfl
      show Except.ok (first.expansion _) = Except.ok _
      rw [Case.expansion, Case.sampleAccessor]
      show Except.ok (Expansion.mk _ _ [Fragment.sampleAccessor
        ⟨_, d.stated.typeVisibility.getD .unstated, _⟩]) = _
      rw [htype]
      rfl
  | unsupported kind => rfl

/-! ## Stating some visibilities -/

/-- A member is left as it is, or `pub(crate)` is its visibility and it had none. -/
structure Member.Restates (m m' : Member) : Prop where
  bindings : m'.bindings = m.bindings
  storage : m'.storage = m.storage
  visibility : Restated m.visibility m'.visibility

/-- The visibilities of any members are restated. -/
inductive DeclarationKind.Restates : DeclarationKind → DeclarationKind → Prop where
  | record {ms ms' : List Member} (h : List.Forall₂ Member.Restates ms ms') :
    Restates (.record ms) (.record ms')
  | other (k : DeclarationKind) : Restates k k

/-- The visibilities of any members are restated, and that of the type as well unless it has the one
of an enclosing scope. -/
structure Declaration.Restates (d d' : Declaration) : Prop where
  name : d'.name = d.name
  generics : d'.generics = d.generics
  enclosing : d'.enclosing = d.enclosing
  options : d'.options = d.options
  visibility : d'.visibility = d.visibility ∨
    d.enclosing = none ∧ Restated d.visibility d'.visibility
  kind : d.kind.Restates d'.kind

theorem Member.Restates.stated_eq {m m' : Member} (h : m.Restates m') : m'.stated = m.stated := by
  rw [stated, stated, h.bindings, h.storage, h.visibility.stated_eq]

theorem DeclarationKind.Restates.stated_eq {k k' : DeclarationKind} (h : k.Restates k') :
    k'.stated = k.stated := by
  cases h with
  | other => rfl
  | record hmembers =>
    refine congrArg DeclarationKind.record ?_
    induction hmembers with
    | nil => rfl
    | cons hm _ ih => rw [List.map_cons, List.map_cons, hm.stated_eq, ih]

namespace Declaration.Restates

variable {d d' : Declaration} (h : d.Restates d')
include h

/-- Once everything is stated, it does not matter what was restated before. -/
theorem stated_eq : d'.stated = d.stated := by
  have hvisibility :
      (if d.enclosing.isNone then Visibility.stated d'.visibility else d'.visibility) =
        if d.enclosing.isNone then Visibility.stated d.visibility else d.visibility := by
    rcases h.visibility with hsame | ⟨hnone, hrestated⟩
    · rw [hsame]
    · rw [hnone, hrestated.stated_eq]
      rfl
  rw [stated, stated, h.kind.stated_eq, h.enclosing, hvisibility, h.name, h.generics, h.options]

/-- The code of two declarations is written alike, if they agree on all but visibilities. -/
theorem writesAs (v : Deriver) :
    (Context.ofDeclaration v d').WritesAs (Context.ofDeclaration v d) where
  crate := congrArg (fun o : TypeOptions => o.crate.getD v.defaultCrate) h.options
  guarded := congrArg (fun o : TypeOptions => v.guarded || o.debugOnly) h.options
  name := h.name
  generics := h.generics
  builder := by
    show d'.builder = d.builder
    rw [Declaration.builder, Declaration.builder, h.options, h.name]

/-- The two scans have the same visibilities, those of single fields excepted. -/
theorem scan (inherit : Bool) {s : RecordScan} (hs : d.scan? inherit = some s) :
    ∃ s', d'.scan? inherit = some s' ∧ s'.typeVisibility = s.typeVisibility ∧
      s'.effective = s.effective := by
  obtain ⟨members, hkind, rfl⟩ := Declaration.scan?_eq_some.mp hs
  have hstated := h.kind.stated_eq
  rw [hkind] at hstated
  -- the other declaration is a record too, since it is the same one when all is stated
  obtain ⟨members', hkind', hmembers⟩ := DeclarationKind.eq_record_of_stated hstated
  have hscan := d.scan_stated inherit members
  rw [← hmembers, ← h.stated_eq, d'.scan_stated] at hscan
  exact ⟨d'.scan inherit members', Declaration.scan?_eq_some.mpr ⟨members', hkind', rfl⟩,
    (congrArg RecordScan.typeVisibility hscan :), (congrArg RecordScan.effective hscan :)⟩

end Declaration.Restates

/-- **What is not stated is `pub(crate)`.** If some visibilities that a declaration leaves out are
stated as `pub(crate)`, then it is expanded or rejected as before: the visibilities of the scan, the
fragments and all of the code stay as they are. -/
theorem unstated_is_crate (v : Deriver) {d d' : Declaration} (h : d.Restates d') :
    (∀ s, d.scan? v.inherit = some s → ∃ s', d'.scan? v.inherit = some s' ∧
      s'.typeVisibility = s.typeVisibility ∧ s'.effective = s.effective) ∧
    (∀ err, v.expand d = .error err → v.expand d' = .error err) ∧
    ∀ e, v.expand d = .ok e → ∃ e', v.expand d' = .ok e' ∧ e'.generics = e.generics ∧
      e'.fragments.map (·.tokens e'.context) = e.fragments.map (·.tokens e.context) ∧
      e'.conformance = e.conformance ∧ e'.tokens = e.tokens := by
  -- both are expanded as the declaration that states everything
  have hexpand := v.expand_stated d
  rw [← h.stated_eq, v.expand_stated d'] at hexpand
  refine ⟨fun s hs => h.scan v.inherit hs, fun err herr => ?_, fun e he => ?_⟩
  · rw [herr] at hexpand
    cases herr' : v.expand d' with
    | error err' =>
      rw [herr'] at hexpand
      exact hexpand
    | ok e' =>
      rw [herr'] at hexpand
      cases hexpand
  · rw [he] at hexpand
    cases he' : v.expand d' with
    | error err' =>
      rw [he'] at hexpand
      cases hexpand
    | ok e' =>
      rw [he'] at hexpand
      have hsame := Except.ok.inj hexpand
      have hgenerics : e'.generics = e.generics := (congrArg Expansion.generics hsame :)
      have hfragments : e'.fragments = e.fragments := (congrArg Expansion.fragments hsame :)
      have hcx : e'.context.WritesAs e.context := by
        rw [v.expand_context he, v.expand_context he']
        exact h.writesAs v
      refine ⟨e', rfl, hgenerics, ?_, Expansion.conformance_congr hcx hgenerics,
        Expansion.tokens_congr hcx hgenerics hfragments⟩
      rw [hfragments]
      exact List.map_congr_left fun f _ => hcx.fragmentTokens f

/-- `struct Vault { door, pub(in crate) seal, pub key }` with a visibility of the type and of the
door, or without. -/
def vaultDeclaration (own door : Option Visibility) : Declaration where
  name := ⟨"Vault", .nowhere⟩
  generics := .empty
  visibility := own
  enclosing := none
  options := ⟨none, none, false, none⟩
  kind := .record
    [⟨[⟨"door", some (.named "u8"), false⟩], .stored, door⟩,
     ⟨[⟨"seal", some (.named "u8"), false⟩], .stored,
      some (.ofModifier (.restricted true false ["crate"]))⟩,
     ⟨[⟨"key", some (.named "u8"), false⟩], .stored, some (.ofModifier .pub)⟩]

/-- The type of `Vault` comes before the seal, which is as narrow and written in another way: with
the type stated or not, everything is `pub(crate)`. -/
theorem vault_restated :
    (vaultDeclaration none none).Restates (vaultDeclaration (some .unstated) (some .unstated)) ∧
      ∃ s e e', (vaultDeclaration (some .unstated) (some .unstated)).scan? true = some s ∧
        s.effective.modifier = .crate ∧
        Deriver.standard.expand (vaultDeclaration none none) = .ok e ∧
        Deriver.standard.expand (vaultDeclaration (some .unstated) (some .unstated)) = .ok e' ∧
        e'.tokens = e.tokens := by
  have hrestates :
      (vaultDeclaration none none).Restates
        (vaultDeclaration (some .unstated) (some .unstated)) := by
    refine ⟨rfl, rfl, rfl, rfl, .inr ⟨rfl, .crate⟩, .record ?_⟩
    refine .cons ⟨rfl, rfl, .crate⟩ (.cons ⟨rfl, rfl, .same _⟩ (.cons ⟨rfl, rfl, .same _⟩ .nil))
  obtain ⟨hscan, -, hcode⟩ := unstated_is_crate .standard hrestates
  obtain ⟨s, hs, -, heffective⟩ := hscan _ rfl
  obtain ⟨e', hexpand, -, -, -, htokens⟩ := hcode _ rfl
  refine ⟨hrestates, s, _, e', hs, ?_, rfl, hexpand, htokens⟩
  rw [heffective]
  rfl

end Specimen
