import Mathlib.Data.List.Basic
import Mathlib.Data.List.Nodup
import Specimen.Proofs.Visibility
import Specimen.Record.Field

/-!
# Extraction by rules

Two rules say which names of some members are constructible fields, and a third says which are
fillers. `extract_by_rules` says that extraction is the one result that has, for name after name in
source order, what the rules say of it; what else is known of extraction follows. The rule for names
without a type is the only one that the setting for groups can switch off, and
`extract_ungrouped` says what that takes away.
-/

namespace Specimen

/-! ## Names at their places -/

/-- A name of some members with its place: the number of its member and its number in there. -/
structure PlacedName where
  place : Nat × Nat
  member : Member
  binding : Binding

def Member.placedNames (m : Member) (i : Nat) : List PlacedName :=
  m.bindings.zipIdx.map fun (b, j) => ⟨(i, j), m, b⟩

def placedNames (members : List Member) : List PlacedName :=
  members.zipIdx.flatMap fun (m, i) => m.placedNames i

/-- A numbering gives no number twice. -/
theorem pairwise_zipIdx_snd {α : Type} (xs : List α) :
    xs.zipIdx.Pairwise fun x y => x.2 ≠ y.2 := by
  apply List.pairwise_map.mp
  show (xs.zipIdx.map Prod.snd).Nodup
  rw [List.zipIdx_map_snd]
  exact List.nodup_range' 1

theorem Member.nodup_places (m : Member) (i : Nat) :
    ((m.placedNames i).map (·.place)).Nodup := by
  rw [placedNames, List.map_map, List.Nodup, List.pairwise_map]
  refine (pairwise_zipIdx_snd m.bindings).imp fun hne heq => hne ?_
  exact (Prod.mk.inj heq).2

/-- No two names stand at one place. -/
theorem nodup_places (members : List Member) :
    ((placedNames members).map (·.place)).Nodup := by
  rw [placedNames, List.map_flatMap, List.Nodup, List.pairwise_flatMap]
  refine ⟨fun (m, i) _ => m.nodup_places i, ?_⟩
  -- places in different members differ in the first number
  refine (pairwise_zipIdx_snd members).imp fun {x y} hne p hp q hq heq => hne ?_
  have hfirst {z : Member × Nat} {r : Nat × Nat}
      (hr : r ∈ (z.1.placedNames z.2).map (·.place)) : r.1 = z.2 := by
    simp only [Member.placedNames, List.map_map, List.mem_map, Function.comp_apply] at hr
    obtain ⟨_, -, rfl⟩ := hr
    rfl
  rw [← hfirst hp, ← hfirst hq, heq]

/-! ## Collecting by a relation -/

/-- The pairs that a relation gives for a list: for each element in turn one pair, or none if
nothing is related to it. -/
inductive Collects {α β : Type} (R : α → β → Prop) : List α → List (α × β) → Prop where
  | nil : Collects R [] []
  | keep {a : α} {b : β} {as : List α} {ps : List (α × β)} (related : R a b)
      (rest : Collects R as ps) : Collects R (a :: as) ((a, b) :: ps)
  | drop {a : α} {as : List α} {ps : List (α × β)} (unrelated : ∀ b, ¬R a b)
      (rest : Collects R as ps) : Collects R (a :: as) ps

namespace Collects

variable {α β : Type} {R : α → β → Prop} {as : List α} {ps : List (α × β)}

/-- What is collected keeps the order of the list. -/
theorem sublist (h : Collects R as ps) : (ps.map (·.1)).Sublist as := by
  induction h with
  | nil => exact List.Sublist.refl []
  | keep _ _ ih => exact ih.cons_cons _
  | drop _ _ ih => exact ih.cons _

/-- Only what is related is collected. -/
theorem related (h : Collects R as ps) : ∀ p ∈ ps, R p.1 p.2 := by
  induction h with
  | nil => exact fun p hp => absurd hp List.not_mem_nil
  | keep hab _ ih => exact List.forall_mem_cons.mpr ⟨hab, ih⟩
  | drop _ _ ih => exact ih

/-- A relation that is a partial function gives one list of pairs and no other. -/
theorem iff_eq_filterMap {f : α → Option β} (hR : ∀ a b, R a b ↔ f a = some b) :
    Collects R as ps ↔ ps = as.filterMap fun a => (f a).map (a, ·) := by
  constructor
  · intro h
    -- each rule of the relation is a case of the function
    induction h with
    | nil => rfl
    | keep hab _ ih =>
      rw [List.filterMap_cons, (hR _ _).mp hab, ih]
      rfl
    | drop hnone _ ih =>
      have hf : f _ = none := Option.eq_none_iff_forall_ne_some.mpr fun b hb =>
        hnone b ((hR _ b).mpr hb)
      rw [List.filterMap_cons, hf, ih]
      rfl
  · rintro rfl
    induction as with
    | nil => exact nil
    | cons a as ih =>
      rw [List.filterMap_cons]
      cases hf : f a with
      | none => exact drop (fun b hb => by rw [hR, hf] at hb; cases hb) ih
      | some b => exact keep ((hR a b).mpr hf) ih

end Collects

theorem map_snd_filterMap_pair {α β : Type} (f : α → Option β) (as : List α) :
    (as.filterMap fun a => (f a).map (a, ·)).map (·.2) = as.filterMap f := by
  rw [List.map_filterMap]
  refine List.filterMap_congr fun a _ => ?_
  rw [Option.map_map]
  exact Option.map_id'

/-! ## The rules -/

namespace PlacedName

/-- A name is a constructible field if its member is stored and it has a type. The type is its own,
with only its own default; or that of the last name of the group, with a default from either. -/
inductive IsField (inherit : Bool) (n : PlacedName) : Field → Prop where
  | own {ty : Ty} (stored : n.member.storage = .stored) (typed : n.binding.type = some ty) :
      IsField inherit n ⟨n.binding.name, ty, n.binding.hasDefault, n.member.visibility⟩
  | group {last : Binding} {ty : Ty} (inherits : inherit = true)
      (stored : n.member.storage = .stored) (untyped : n.binding.type = none)
      (ends : n.member.bindings.getLast? = some last) (typed : last.type = some ty) :
      IsField inherit n
        ⟨n.binding.name, ty, n.binding.hasDefault || last.hasDefault, n.member.visibility⟩

/-- A name is a filler if its member is lazy, computed or observed. -/
inductive IsFiller (n : PlacedName) : String → Prop where
  | unstored (storage : n.member.storage ∈ [.lazy, .computed, .observed]) :
      IsFiller n n.binding.name

def field? (inherit : Bool) (n : PlacedName) : Option Field :=
  if n.member.storage = .stored then
    (n.binding.resolve inherit (n.member.bindings.getLast?.getD n.binding)).map
      fun (ty, hasDefault) => ⟨n.binding.name, ty, hasDefault, n.member.visibility⟩
  else none

def filler? (n : PlacedName) : Option String :=
  if n.member.storage ∈ [.lazy, .computed, .observed] then some n.binding.name else none

/-- The rules for fields, as a function: both ways to a type are those of `Binding.resolve`. -/
theorem isField_iff (inherit : Bool) (n : PlacedName) (f : Field) :
    n.IsField inherit f ↔ n.field? inherit = some f := by
  constructor
  · rintro (⟨hstored, hty⟩ | ⟨hinherit, hstored, hnone, hlast, hty⟩)
    · simp [field?, hstored, Binding.resolve, hty]
    · simp [field?, hstored, Binding.resolve, hnone, hinherit, hlast, hty]
  · intro h
    -- the function asks in the order of the rules: stored, a type of its own, the setting
    rw [field?] at h
    split at h
    · next hstored =>
      obtain ⟨⟨ty, hasDefault⟩, hresolve, rfl⟩ := Option.map_eq_some_iff.mp h
      rw [Binding.resolve] at hresolve
      split at hresolve
      · next own hown =>
        obtain ⟨rfl, rfl⟩ := Prod.mk.inj (Option.some.inj hresolve)
        exact .own hstored hown
      · next hnone =>
        split at hresolve
        · next hinherit =>
          obtain ⟨ty', hty, hpair⟩ := Option.map_eq_some_iff.mp hresolve
          obtain ⟨rfl, rfl⟩ := Prod.mk.inj hpair
          cases hlast : n.member.bindings.getLast? with
          | none =>
            -- the name itself stands in for the last one, and it has no type
            rw [hlast, Option.getD_none, hnone] at hty
            cases hty
          | some last =>
            rw [hlast, Option.getD_some] at hty
            exact .group hinherit hstored hnone hlast hty
        · cases hresolve
    · cases h

/-- The rule for fillers, as a function. -/
theorem isFiller_iff (n : PlacedName) (s : String) : n.IsFiller s ↔ n.filler? = some s := by
  constructor
  · rintro ⟨h⟩
    rw [filler?, if_pos h]
  · intro h
    rw [filler?] at h
    split at h
    · next hstorage =>
      obtain rfl := Option.some.inj h
      exact .unstored hstorage
    · cases h

/-- The storage of a member decides what its names can be. -/
theorem not_isFiller_of_isField {inherit : Bool} {n : PlacedName} {f : Field}
    (hf : n.IsField inherit f) (s : String) : ¬n.IsFiller s := by
  rintro ⟨hstorage⟩
  have hstored : n.member.storage = .stored := by
    cases hf with
    | own hstored => exact hstored
    | group _ hstored => exact hstored
  rw [hstored] at hstorage
  exact absurd hstorage (by decide)

end PlacedName

/-! ## Extraction as a list of names -/

/-- A function of names that does not look at their places. -/
theorem filterMap_placedNames {α : Type} (m : Member) (i : Nat) {f : PlacedName → Option α}
    {g : Binding → Option α} (h : ∀ b j, f ⟨(i, j), m, b⟩ = g b) :
    (m.placedNames i).filterMap f = m.bindings.filterMap g := by
  have hcomp : (fun x : Binding × Nat => f ⟨(i, x.2), m, x.1⟩) = g ∘ Prod.fst :=
    funext fun x => h x.1 x.2
  show (m.bindings.zipIdx.map fun x => PlacedName.mk (i, x.2) m x.1).filterMap f = _
  rw [List.filterMap_map]
  show m.bindings.zipIdx.filterMap (fun x => f ⟨(i, x.2), m, x.1⟩) = _
  rw [hcomp, ← List.filterMap_map, List.zipIdx_map_fst]

/-- The fields of a member are its names as far as they are fields, wherever the member stands. -/
theorem Member.filterMap_field? (m : Member) (i : Nat) (inherit : Bool) :
    (m.placedNames i).filterMap (·.field? inherit) = m.fields inherit := by
  rw [fields]
  split
  · next hstored =>
    rw [storedFields]
    cases hlast : m.bindings.getLast? with
    | none =>
      have hnil : m.bindings = [] := List.getLast?_eq_none_iff.mp hlast
      simp [Member.placedNames, hnil]
    | some last =>
      refine filterMap_placedNames m i fun b j => ?_
      simp [PlacedName.field?, hstored, hlast]
  · next hother =>
    have hnone : (m.placedNames i).filterMap (·.field? inherit) =
        m.bindings.filterMap fun _ => none :=
      filterMap_placedNames m i fun b j => by simp [PlacedName.field?, hother]
    rw [hnone, List.filterMap_none]

/-- The fillers of a member are its names as far as they are fillers. -/
theorem Member.filterMap_filler? (m : Member) (i : Nat) :
    (m.placedNames i).filterMap (·.filler?) = m.fillers := by
  -- the three filled storages are the instance fields that are not stored
  have hstorage : m.storage ∈ [.lazy, .computed, .observed] ↔
      m.storage ≠ .stored ∧ m.storage.isInstanceField := by
    cases m.storage <;> decide
  rw [fillers]
  split
  · next h =>
    rw [← List.filterMap_eq_map]
    refine filterMap_placedNames m i fun b j => ?_
    exact if_pos (hstorage.mpr h)
  · next h =>
    have hnone : (m.placedNames i).filterMap (·.filler?) = m.bindings.filterMap fun _ => none :=
      filterMap_placedNames m i fun b j => if_neg fun hmem => h (hstorage.mp hmem)
    rw [hnone, List.filterMap_none]

theorem flatMap_zipIdx_fst {α β : Type} (f : α → List β) (xs : List α) :
    (xs.zipIdx.flatMap fun x => f x.1) = xs.flatMap f := by
  rw [← List.flatMap_map Prod.fst f, List.zipIdx_map_fst]

/-- Extraction as one pass over the names. The numbers of the places do not matter to it. -/
theorem extract_eq_filterMap (inherit : Bool) (members : List Member) :
    extract inherit members =
      ⟨(placedNames members).filterMap (·.field? inherit),
        (placedNames members).filterMap (·.filler?)⟩ := by
  rw [extract, placedNames, List.filterMap_flatMap, List.filterMap_flatMap]
  congr 1
  · rw [← flatMap_zipIdx_fst]
    exact List.flatMap_congr fun x _ => (x.1.filterMap_field? x.2 inherit).symm
  · rw [← flatMap_zipIdx_fst]
    exact List.flatMap_congr fun x _ => (x.1.filterMap_filler? x.2).symm

/-- Extraction is what the rules say of the names, one after the other. -/
theorem extract_eq_iff (inherit : Bool) (members : List Member) (e : Extraction) :
    e = extract inherit members ↔
      ∃ fields fillers, Collects (PlacedName.IsField inherit) (placedNames members) fields ∧
        Collects PlacedName.IsFiller (placedNames members) fillers ∧
        e = ⟨fields.map (·.2), fillers.map (·.2)⟩ := by
  -- each relation holds of one list only, so both sides compute the same two lists
  simp only [Collects.iff_eq_filterMap (PlacedName.isField_iff inherit),
    Collects.iff_eq_filterMap PlacedName.isFiller_iff]
  constructor
  · rintro rfl
    refine ⟨_, _, rfl, rfl, ?_⟩
    rw [map_snd_filterMap_pair, map_snd_filterMap_pair, extract_eq_filterMap]
  · rintro ⟨_, _, rfl, rfl, rfl⟩
    rw [map_snd_filterMap_pair, map_snd_filterMap_pair, extract_eq_filterMap]

/-- No name is collected twice, be it as a field or as a filler. -/
theorem nodup_collected {inherit : Bool} {members : List Member}
    {fields : List (PlacedName × Field)} {fillers : List (PlacedName × String)}
    (hfields : Collects (PlacedName.IsField inherit) (placedNames members) fields)
    (hfillers : Collects PlacedName.IsFiller (placedNames members) fillers) :
    (fields.map (·.1.place) ++ fillers.map (·.1.place)).Nodup := by
  have hplaces {β : Type} {R : PlacedName → β → Prop} {ps : List (PlacedName × β)}
      (h : Collects R (placedNames members) ps) : (ps.map (·.1.place)).Nodup := by
    have hmap : ps.map (·.1.place) = (ps.map (·.1)).map (·.place) := by rw [List.map_map]; rfl
    rw [hmap]
    exact (nodup_places members).sublist (h.sublist.map _)
  have hmem {β : Type} {R : PlacedName → β → Prop} {ps : List (PlacedName × β)}
      (h : Collects R (placedNames members) ps) {p : PlacedName × β} (hp : p ∈ ps) :
      p.1 ∈ placedNames members := h.sublist.subset (List.mem_map_of_mem hp)
  rw [List.nodup_append]
  refine ⟨hplaces hfields, hplaces hfillers, ?_⟩
  rintro _ ha _ hb rfl
  obtain ⟨p, hp, hplace⟩ := List.mem_map.mp ha
  obtain ⟨q, hq, heq⟩ := List.mem_map.mp hb
  -- one place is that of one name, which cannot be both
  have hsame : q.1 = p.1 := List.inj_on_of_nodup_map (nodup_places members) (hmem hfillers hq)
    (hmem hfields hp) (heq.trans hplace.symm)
  have hfiller : q.1.IsFiller q.2 := hfillers.related q hq
  rw [hsame] at hfiller
  exact PlacedName.not_isFiller_of_isField (hfields.related p hp) q.2 hfiller

/-! ## Groups taken apart -/

/-- A member of its own for a field: a group of one name, with its type and default. -/
def Field.member (f : Field) : Member where
  bindings := [⟨f.name, some f.type, f.hasDefault⟩]
  storage := .stored
  visibility := f.visibility

/-- A group of one name with a type comes to that name alone, with the setting for groups or
without. -/
theorem Field.fields_member (f : Field) (inherit : Bool) : f.member.fields inherit = [f] := rfl

theorem Field.fillers_member (f : Field) : f.member.fillers = [] := rfl

/-- A stored member as members of one name each, with the types and defaults that the names come to.
Names that come to no type are left out; members that are not stored stay as they are. -/
def Member.apart (inherit : Bool) (m : Member) : List Member :=
  if m.storage = .stored then (m.fields inherit).map Field.member else [m]

/-- Once the groups are taken apart, the setting for groups does not matter any more. -/
theorem extract_apart (inherit inherit' : Bool) (members : List Member) :
    extract inherit' (members.flatMap (·.apart inherit)) = extract inherit members := by
  have hfields (m : Member) : (m.apart inherit).flatMap (·.fields inherit') = m.fields inherit := by
    rw [Member.apart]
    split
    · rw [List.flatMap_map]
      simp only [Field.fields_member, List.flatMap_singleton']
    · next hother =>
      rw [List.flatMap_singleton, Member.fields, Member.fields, if_neg hother, if_neg hother]
  have hfillers (m : Member) : (m.apart inherit).flatMap (·.fillers) = m.fillers := by
    rw [Member.apart]
    split
    · next hstored =>
      rw [List.flatMap_map, Member.fillers, if_neg fun hother => hother.1 hstored]
      simp [Field.fillers_member]
    · exact List.flatMap_singleton _ _
  rw [extract, extract, List.flatMap_assoc, List.flatMap_assoc]
  simp only [hfields, hfillers]

/-- What gives nothing can be left out. -/
theorem flatMap_filter_of_nil {α β : Type} {f : α → List β} {keep : α → Bool}
    (h : ∀ x, keep x = false → f x = []) (xs : List α) :
    (xs.filter keep).flatMap f = xs.flatMap f := by
  induction xs with
  | nil => rfl
  | cons x xs ih =>
    rw [List.filter_cons, List.flatMap_cons]
    cases hx : keep x with
    | true => rw [if_pos rfl, List.flatMap_cons, ih]
    | false => rw [if_neg Bool.false_ne_true, ih, h x hx, List.nil_append]

/-- A static member is neither stored nor an instance field. -/
theorem extract_filter_static (inherit : Bool) (members : List Member) :
    extract inherit (members.filter (·.storage ≠ .static)) = extract inherit members := by
  have hstatic {m : Member} (h : decide (m.storage ≠ .static) = false) :
      m.fields inherit = [] ∧ m.fillers = [] := by
    have hs : m.storage = .static := Decidable.not_not.mp (of_decide_eq_false h)
    simp [Member.fields, Member.fillers, hs, Storage.isInstanceField]
  rw [extract, extract, flatMap_filter_of_nil fun m h => (hstatic h).1,
    flatMap_filter_of_nil fun m h => (hstatic h).2]

/-- **Extraction by rules.** Extraction gives, for name after name in source order, the fields and
fillers that the rules say, and no other lists are what they say. No name is collected twice. So
more members only add to the lists, static members make no difference, and neither does it matter
whether a stored group is declared as one or with a member for each name that comes to a type. -/
theorem extract_by_rules (inherit : Bool) (members : List Member) :
    (∀ e : Extraction, e = extract inherit members ↔
      ∃ fields fillers, Collects (PlacedName.IsField inherit) (placedNames members) fields ∧
        Collects PlacedName.IsFiller (placedNames members) fillers ∧
        e = ⟨fields.map (·.2), fillers.map (·.2)⟩) ∧
    (∀ fields fillers, Collects (PlacedName.IsField inherit) (placedNames members) fields →
      Collects PlacedName.IsFiller (placedNames members) fillers →
        (fields.map (·.1.place) ++ fillers.map (·.1.place)).Nodup) ∧
    (∀ later, extract inherit (members ++ later) =
      ⟨(extract inherit members).fields ++ (extract inherit later).fields,
        (extract inherit members).fillers ++ (extract inherit later).fillers⟩) ∧
    extract inherit (members.filter (·.storage ≠ .static)) = extract inherit members ∧
    ∀ inherit', extract inherit' (members.flatMap (·.apart inherit)) = extract inherit members := by
  refine ⟨extract_eq_iff inherit members, fun _ _ => nodup_collected, fun later => ?_,
    extract_filter_static inherit members, fun inherit' => extract_apart inherit inherit' members⟩
  -- only the law for `++` is left, one component at a time
  rw [← extract_append_fields, ← extract_append_fillers]

/-- `let low, high = .., last: u16; static let unit: u8; lazy let cache: u8, index` -/
def meterMembers : List Member :=
  [⟨[⟨"low", none, false⟩, ⟨"high", none, true⟩, ⟨"last", some (.named "u16"), false⟩], .stored,
      some (.ofModifier .pub)⟩,
    ⟨[⟨"unit", some (.named "u8"), false⟩], .static, none⟩,
    ⟨[⟨"cache", some (.named "u8"), false⟩, ⟨"index", none, false⟩], .lazy, none⟩]

/-- The three names of the first member are collected as fields, with the type of the last, and the
two of the third as fillers. -/
theorem meter_extraction :
    ∃ fields fillers, Collects (PlacedName.IsField true) (placedNames meterMembers) fields ∧
      Collects PlacedName.IsFiller (placedNames meterMembers) fillers ∧
      extract true meterMembers = ⟨fields.map (·.2), fillers.map (·.2)⟩ ∧
      fields.map (·.1.place) = [(0, 0), (0, 1), (0, 2)] ∧
      fields.map (·.2.type.tokens) = [[.ident "u16"], [.ident "u16"], [.ident "u16"]] ∧
      fields.map (·.2.hasDefault) = [false, true, false] ∧
      fillers.map (·.1.place) = [(2, 0), (2, 1)] ∧
      (fields.map (·.1.place) ++ fillers.map (·.1.place)).Nodup := by
  obtain ⟨hrules, hnodup, -⟩ := extract_by_rules true meterMembers
  obtain ⟨fields, fillers, hfields, hfillers, hextract⟩ := (hrules _).mp rfl
  -- the two relations are turned into lists, and those compute
  have hfieldList := (Collects.iff_eq_filterMap (PlacedName.isField_iff true)).mp hfields
  have hfillerList := (Collects.iff_eq_filterMap PlacedName.isFiller_iff).mp hfillers
  refine ⟨fields, fillers, hfields, hfillers, hextract, ?_, ?_, ?_, ?_,
    hnodup fields fillers hfields hfillers⟩
  · rw [hfieldList]
    rfl
  · rw [hfieldList]
    rfl
  · rw [hfieldList]
    rfl
  · rw [hfillerList]
    rfl

/-! ## Without the types of groups -/

/-- The rule for names without a type is all that the setting switches off. -/
theorem PlacedName.field?_ungrouped (n : PlacedName) :
    n.field? false = if n.binding.type.isSome then n.field? true else none := by
  cases hty : n.binding.type <;> simp [field?, Binding.resolve, hty]

/-- **Without the types of groups**, the fields are those of the names with types of their own, as
they are otherwise. The fillers are the same, and members that mention field types may be seen at
least as far. -/
theorem extract_ungrouped (members : List Member) :
    let grouped := extract true members
    let ungrouped := extract false members
    (∃ fields, Collects (PlacedName.IsField true) (placedNames members) fields ∧
      grouped.fields = fields.map (·.2) ∧
      ungrouped.fields = (fields.filter (·.1.binding.type.isSome)).map (·.2)) ∧
    ungrouped.fillers = grouped.fillers ∧
    ∀ type, (Visibility.narrowest type (grouped.fields.map (·.visibility))).level ≤
      (Visibility.narrowest type (ungrouped.fields.map (·.visibility))).level := by
  intro grouped ungrouped
  let fields := (placedNames members).filterMap fun n => (n.field? true).map (n, ·)
  have hgrouped : grouped.fields = fields.map (·.2) := by
    rw [map_snd_filterMap_pair]
    exact congrArg Extraction.fields (extract_eq_filterMap true members)
  have hungrouped : ungrouped.fields =
      (fields.filter (·.1.binding.type.isSome)).map (·.2) := by
    have hfields : ungrouped.fields = (placedNames members).filterMap (·.field? false) :=
      congrArg Extraction.fields (extract_eq_filterMap false members)
    rw [hfields, List.filter_filterMap, List.map_filterMap]
    refine List.filterMap_congr fun n _ => ?_
    rw [n.field?_ungrouped]
    cases n.field? true <;> cases hty : n.binding.type <;> simp [Option.filter, hty]
  refine ⟨⟨fields, (Collects.iff_eq_filterMap (PlacedName.isField_iff true)).mpr rfl, hgrouped,
    hungrouped⟩, rfl, fun type => ?_⟩
  -- fewer fields can only make the narrowest of their modifiers wider
  have hsublist : ungrouped.fields.Sublist grouped.fields := by
    rw [hgrouped, hungrouped]
    exact List.filter_sublist.map _
  exact Visibility.level_narrowest_anti type (hsublist.map _).subset

end Specimen
