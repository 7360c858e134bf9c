import Mathlib.Data.List.Basic
import Specimen.Proofs.StoredFields
import Specimen.Synthesis.Deriver

/-!
# Types that are taken from the group

A name without a type may take the one of its group, if the deriver lets it. Source code has no such
names: each field is a member of its own and says its type. So the setting changes nothing that is
derived from source, which `derive_withInherit` says of code and errors alike.
-/

namespace Specimen

def Deriver.withInherit (v : Deriver) (inherit : Bool) : Deriver := { v with inherit }

/-! ## Members with types -/

def Member.Typed (m : Member) : Prop := ∀ b ∈ m.bindings, b.type.isSome

/-- A name with a type keeps its own default, whatever the last name of its group has. -/
theorem Binding.resolve_of_type {b : Binding} (h : b.type.isSome) (inherit : Bool)
    (last : Binding) : b.resolve inherit last = b.type.map (·, b.hasDefault) := by
  obtain ⟨ty, hty⟩ := Option.isSome_iff_exists.mp h
  rw [resolve, hty]
  rfl

/-- The last name of a group is only asked for the type of another. -/
theorem Member.fields_of_typed {m : Member} (h : m.Typed) (inherit inherit' : Bool) :
    m.fields inherit = m.fields inherit' := by
  have hstored : m.storedFields inherit = m.storedFields inherit' := by
    rw [storedFields, storedFields]
    cases m.bindings.getLast? with
    | none => rfl
    | some last =>
      refine List.filterMap_congr fun b hb => ?_
      rw [Binding.resolve_of_type (h b hb), Binding.resolve_of_type (h b hb)]
  rw [fields, fields, hstored]

/-- Where every name says its type there is nothing to take from a group. -/
theorem extract_of_typed {members : List Member} (h : ∀ m ∈ members, m.Typed)
    (inherit inherit' : Bool) : extract inherit members = extract inherit' members := by
  have hfields : members.flatMap (·.fields inherit) = members.flatMap (·.fields inherit') :=
    List.flatMap_congr fun m hm => m.fields_of_typed (h m hm) inherit inherit'
  rw [extract, extract, hfields]

/-- In `low, high: u8` only `high` says its type. -/
example :
    let group : Member :=
      ⟨[⟨"low", none, false⟩, ⟨"high", some (.named "u8"), false⟩], .stored, none⟩
    ((extract true [group]).fields.map (·.name) = ["low", "high"]) ∧
      (extract false [group]).fields.map (·.name) = ["high"] := by
  decide

/-- Declarations with types everywhere are expanded the same with either setting. -/
theorem Deriver.expand_withInherit (v : Deriver) {d : Declaration}
    (h : ∀ members, d.kind = .record members → ∀ m ∈ members, m.Typed) (inherit inherit' : Bool) :
    (v.withInherit inherit).expand d = (v.withInherit inherit').expand d := by
  rw [expand, expand]
  cases hkind : d.kind with
  | record members =>
    -- inheritance reaches the expansion through the scan alone
    have hscan : d.scan inherit members = d.scan inherit' members := by
      rw [Declaration.scan, Declaration.scan, extract_of_typed (h members hkind) inherit inherit']
    show Except.ok ((d.scan inherit members).expansion _) = Except.ok _
    rw [hscan]
    rfl
  | taggedUnion cases =>
    cases cases with
    | nil => rfl
    | cons first later => rfl
  | unsupported kind => rfl

/-! ## Source code -/

/-- What lowering makes of a field is a group of one name, which has a type. -/
theorem Declaration.ofItem_bindings {item : Item} {d : Declaration} {members : List Member}
    (h : Declaration.ofItem item = .ok d) (hkind : d.kind = .record members) :
    ∀ m ∈ members, ∃ b ty, m.bindings = [b] ∧ b.type = some ty := by
  intro m hm
  rw [Declaration.ofItem_record h hkind] at hm
  obtain ⟨f, -, rfl⟩ := List.mem_map.mp hm
  exact ⟨_, f.type, rfl, rfl⟩

/-- Derivers that expand what an item is lowered to in the same way derive the same for it. -/
theorem Deriver.derive_congr {v v' : Deriver} {item : Item}
    (h : ∀ d, Declaration.ofItem item = .ok d → v.expand d = v'.expand d) :
    v.derive item = v'.derive item := by
  rw [derive, derive]
  refine bind_congr_ok fun d hd => ?_
  rw [h d hd]

/-- **The setting for groups** makes no difference to source code: whatever an item is lowered to
has groups of one typed name, and both settings derive the same code or report the same errors. -/
theorem derive_withInherit (v : Deriver) (item : Item) (inherit inherit' : Bool) :
    (v.withInherit inherit).derive item = (v.withInherit inherit').derive item ∧
      ∀ d, Declaration.ofItem item = .ok d →
        (v.withInherit inherit).expand d = (v.withInherit inherit').expand d ∧
        ∀ members, d.kind = .record members → ∀ m ∈ members,
          ∃ b ty, m.bindings = [b] ∧ b.type = some ty := by
  -- lowering gives every member one typed binding, which leaves nothing to inherit
  have hexpand : ∀ d, Declaration.ofItem item = .ok d →
      (v.withInherit inherit).expand d = (v.withInherit inherit').expand d := by
    intro d hd
    refine v.expand_withInherit (fun members hkind m hm b hb => ?_) inherit inherit'
    obtain ⟨b', ty, hbindings, hty⟩ := Declaration.ofItem_bindings hd hkind m hm
    rw [hbindings, List.mem_singleton] at hb
    rw [hb, hty]
    rfl
  exact ⟨Deriver.derive_congr hexpand, fun d hd => ⟨hexpand d hd, fun members hkind =>
    Declaration.ofItem_bindings hd hkind⟩⟩

/-- A struct with a default, a type that mentions the struct, and a field that is not stored. -/
def rigSource : String :=
  "pub struct Rig<T> \x7b
    pub mast: T, #[fixture(default)] pub boom: Option<Box<Self>>, lines: OnceCell<u8>
  \x7d"

/-- `Rig` is derived the same with either setting. -/
theorem rig_withInherit :
    ∃ item fields d members, Item.read? rigSource = some item ∧
      item.body.structFields? = some fields ∧ fields.length = 3 ∧
      Declaration.ofItem item = .ok d ∧ d.kind = .record members ∧
      (∀ m ∈ members, ∃ b ty, m.bindings = [b] ∧ b.type = some ty) ∧
      (Deriver.standard.withInherit true).derive item =
        (Deriver.standard.withInherit false).derive item := by
  -- only the number of fields is computed; the rest is the theorem's
  have hsource : ((Item.read? rigSource).bind fun item => item.body.structFields?.bind
      fun fields => (Declaration.ofItem item).toOption.map fun _ => fields.length) = some 3 := by
    decide +kernel
  simp only [Option.bind_eq_some_iff, Option.map_eq_some_iff] at hsource
  obtain ⟨item, hread, fields, hbody, d, hlowered, hlength⟩ := hsource
  have hd : Declaration.ofItem item = .ok d := toOption_eq_some.mp hlowered
  obtain ⟨members, hkind⟩ := Declaration.record_of_structFields? hbody hd
  obtain ⟨hderive, hsame⟩ := derive_withInherit .standard item true false
  exact ⟨item, fields, d, members, hread, hbody, hlength, hd, hkind, (hsame d hd).2 members hkind,
    hderive⟩

end Specimen
