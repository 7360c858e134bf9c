import Mathlib.Data.List.Nodup
import Mathlib.Data.List.Perm.Subperm
import Mathlib.Order.Bounds.Defs
import Specimen.Proofs.Names
import Specimen.Proofs.StructLiterals

/-!
# The name of a builder's marker

The marker gets the first of its candidates that no field is written with. There are more candidates
than fields, so the search ends with a name that is no field's. It compares names as they are
written, though, and a field may be the same identifier in another spelling:
`builder_fields_distinct_iff` says that this is the one way for builder fields to clash.
-/

namespace Specimen

open Target

/-! ## Candidates -/

/-- The underscores in front, character by character. -/
theorem toList_pushn (k : Nat) : ("".pushn '_' k).toList = List.replicate k '_' := by
  rw [String.pushn_eq_repeat_push]
  induction k with
  | zero => rfl
  | succ k ih =>
    rw [List.replicate_succ', ← ih]
    exact String.toList_push '_'

/-- Candidates differ in the number of their underscores alone. -/
theorem toList_markerCandidate (k : Nat) :
    (markerCandidate k).toList = '_' :: (List.replicate k '_' ++ "_fixture_marker".toList) := by
  have hshift : List.replicate k '_' ++ ['_'] = '_' :: List.replicate k '_' := by
    rw [← List.replicate_succ', List.replicate_succ]
  rw [markerCandidate, String.toList_append, toList_pushn]
  show List.replicate k '_' ++ (['_'] ++ "_fixture_marker".toList) = _
  rw [← List.append_assoc, hshift]
  rfl

/-- Each candidate is longer than the one before. -/
theorem markerCandidate_injective : Function.Injective markerCandidate := by
  intro j k h
  have hlength := congrArg (fun name => name.toList.length) h
  simp only [toList_markerCandidate, List.length_cons, List.length_append,
    List.length_replicate] at hlength
  omega

/-- A candidate is a plain identifier. -/
theorem bareName_markerCandidate (k : Nat) :
    bareName (markerCandidate k) = markerCandidate k :=
  bareName_eq_self (toList_markerCandidate k) (by decide)

/-- There are more candidates than names to avoid. -/
theorem exists_free_candidate (taken : List String) :
    ∃ k ≤ taken.length, markerCandidate k ∉ taken := by
  by_contra hnone
  have hall : ∀ k ≤ taken.length, markerCandidate k ∈ taken := by
    intro k hk
    by_contra hfree
    exact hnone ⟨k, hk, hfree⟩
  -- if all candidates were taken, they would be a list of different names within a shorter one
  have hsub : (List.range (taken.length + 1)).map markerCandidate ⊆ taken := by
    intro name hname
    obtain ⟨k, hk, rfl⟩ := List.mem_map.mp hname
    have hlt := List.mem_range.mp hk
    exact hall k (by omega)
  have hnodup : ((List.range (taken.length + 1)).map markerCandidate).Nodup :=
    List.nodup_range.map markerCandidate_injective
  have hlength := (hnodup.subperm hsub).length_le
  rw [List.length_map, List.length_range] at hlength
  omega

/-! ## The search -/

/-- The search passes over candidates that are taken, and stops before it runs out of tries only at
one that is free. -/
theorem freeMarker_spec (taken : List String) (fuel start : Nat) :
    ∃ k ≤ fuel, freeMarker taken fuel start = markerCandidate (start + k) ∧
      (∀ j < k, markerCandidate (start + j) ∈ taken) ∧
      (k < fuel → markerCandidate (start + k) ∉ taken) := by
  -- on the tries; each one that fails moves the start on by one
  induction fuel generalizing start with
  | zero => exact ⟨0, Nat.le_refl 0, rfl, by omega, by omega⟩
  | succ fuel ih =>
    by_cases hstart : markerCandidate start ∈ taken
    · obtain ⟨k, hk, heq, hbefore, hfree⟩ := ih (start + 1)
      have hshift (j : Nat) : start + 1 + j = start + (j + 1) := by omega
      rw [hshift] at heq hfree
      refine ⟨k + 1, by omega, ?_, ?_, fun hlt => hfree (by omega)⟩
      · rw [freeMarker, if_pos (List.contains_iff_mem.mpr hstart), heq]
      · intro j hj
        cases j with
        | zero => exact hstart
        | succ j =>
          rw [← hshift]
          exact hbefore j (by omega)
    · refine ⟨0, by omega, ?_, by omega, fun _ => hstart⟩
      rw [freeMarker, if_neg]
      · rfl
      · rwa [List.contains_iff_mem]

/-- **The marker name** is the first candidate that is not taken. -/
theorem markerName_spec (taken : List String) :
    ∃ k ≤ taken.length, markerName taken = markerCandidate k ∧ markerCandidate k ∉ taken ∧
      ∀ j < k, markerCandidate j ∈ taken := by
  obtain ⟨k, hk, heq, hbefore, hfree⟩ := freeMarker_spec taken taken.length 0
  simp only [Nat.zero_add] at heq hbefore hfree
  refine ⟨k, hk, heq, ?_, hbefore⟩
  -- after the last try only one candidate is left, and not all can be taken
  obtain ⟨i, hi, hnot⟩ := exists_free_candidate taken
  by_cases hlt : k < taken.length
  · exact hfree hlt
  · have hik : i = k := by
      by_contra hne
      exact hnot (hbefore i (by omega))
    rwa [← hik]

/-! ## The search as a loop -/

/-- A run of the search as a loop from one name to another: as long as the name is taken, it gets
one more underscore in front. A run counts its rounds and has no bound on them. -/
inductive MarkerRun (taken : List String) : (rounds : Nat) → (name result : String) → Prop where
  | stop {name : String} (hfree : name ∉ taken) : MarkerRun taken 0 name name
  | again {rounds : Nat} {name result : String} (htaken : name ∈ taken)
      (rest : MarkerRun taken rounds ("_" ++ bareName name) result) :
      MarkerRun taken (rounds + 1) name result

/-- A round of the loop leads from a candidate to the next one. -/
theorem markerCandidate_succ (k : Nat) :
    "_" ++ bareName (markerCandidate k) = markerCandidate (k + 1) := by
  rw [bareName_markerCandidate]
  apply String.toList_injective
  rw [String.toList_append, toList_markerCandidate, toList_markerCandidate, List.replicate_succ]
  rfl

/-- The loop runs over taken candidates up to a free one. -/
theorem markerRun_of_taken {taken : List String} {rounds start : Nat}
    (hbefore : ∀ j < rounds, markerCandidate (start + j) ∈ taken)
    (hfree : markerCandidate (start + rounds) ∉ taken) :
    MarkerRun taken rounds (markerCandidate start) (markerCandidate (start + rounds)) := by
  induction rounds generalizing start with
  | zero => exact .stop hfree
  | succ rounds ih =>
    have hshift (j : Nat) : start + (j + 1) = start + 1 + j := by omega
    have htaken : markerCandidate start ∈ taken := hbefore 0 (by omega)
    -- one round leads to the next candidate, from which the same run is one shorter
    rw [hshift] at hfree ⊢
    refine .again htaken ?_
    rw [markerCandidate_succ]
    refine ih (fun j hj => ?_) hfree
    rw [← hshift]
    exact hbefore (j + 1) (by omega)

/-- From each name there is at most one run. -/
theorem MarkerRun.unique {taken : List String} {m n : Nat} {name r s : String}
    (hm : MarkerRun taken m name r) (hn : MarkerRun taken n name s) : m = n ∧ r = s := by
  induction hm generalizing n with
  -- where only one of the two runs stops, its candidate would be both free and taken
  | stop hfree =>
    cases hn with
    | stop _ => exact ⟨rfl, rfl⟩
    | again htaken _ => exact absurd htaken hfree
  | again htaken _ ih =>
    cases hn with
    | stop hfree => exact absurd htaken hfree
    | again _ rest =>
      obtain ⟨hrounds, hresult⟩ := ih rest
      exact ⟨by omega, hresult⟩

/-- **The search ends.** Whatever the fields of a record are called, the loop has exactly one run
from the first candidate. It takes no more rounds than there are fields, and ends at the marker name
of the builder, which is the candidate with the fewest underscores that no field is written with. -/
theorem marker_search_ends (s : RecordScan) :
    let taken := s.fields.map (·.name)
    ∃ k ≤ s.fields.length,
      (∀ rounds name, MarkerRun taken rounds "__fixture_marker" name ↔
        rounds = k ∧ name = markerName taken) ∧
      markerName taken = "".pushn '_' k ++ "__fixture_marker" ∧
      IsLeast {j | "".pushn '_' j ++ "__fixture_marker" ∉ taken} k ∧
      ∀ cx : Context, (s.builderIn cx).marker =
        if cx.declaration.generics.params.isEmpty then none else some (markerName taken) := by
  intro taken
  obtain ⟨k, hk, hname, hfree, hbefore⟩ := markerName_spec taken
  -- the run from no underscore to the candidate that the bounded search finds
  have hrun : MarkerRun taken k (markerCandidate 0) (markerCandidate (0 + k)) := by
    refine markerRun_of_taken (fun j hj => ?_) ?_
    · rw [Nat.zero_add]
      exact hbefore j hj
    · rwa [Nat.zero_add]
  rw [Nat.zero_add, ← hname] at hrun
  have hlength : taken.length = s.fields.length := List.length_map _
  refine ⟨k, hlength ▸ hk, fun rounds name => ⟨fun h => h.unique hrun, ?_⟩, hname, ?_,
    s.builderIn_marker⟩
  · rintro ⟨rfl, rfl⟩
    exact hrun
  · refine ⟨hfree, fun j hj => ?_⟩
    by_contra hlt
    exact hj (hbefore j (by omega))

/-- The marker is no field as the fields are written, and is the same identifier as a field only if
that one is written as a raw name. -/
theorem bareName_markerName_mem_iff (taken : List String) :
    bareName (markerName taken) ∈ taken.map bareName ↔ "r#" ++ markerName taken ∈ taken := by
  obtain ⟨k, -, hname, hfree, -⟩ := markerName_spec taken
  have hplain := bareName_markerCandidate k
  rw [hname, hplain, List.mem_map]
  -- the marker itself is free, so a clash can only come from its raw spelling
  constructor
  · rintro ⟨name, hmem, hbare⟩
    rcases (bareName_eq_iff hplain).mp hbare with rfl | rfl
    · exact absurd hmem hfree
    · exact hmem
  · intro hmem
    exact ⟨_, hmem, (bareName_eq_iff hplain).mpr (.inr rfl)⟩

/-! ## The fields of a builder -/

/-- The names of a builder's fields: those of the record's fields, and the marker's where there are
type parameters. -/
theorem RecordScan.expansion_builder_names (s : RecordScan) (cx : Context) :
    (structsOf (s.expansion cx).items).map (fun x => x.2.map (·.item.1)) = [s.slotNames cx] := by
  have hslots (fields : List (Declared (String × Ty))) :
      fields.map (·.item.1) = (fields.map (·.item)).map (·.1) := by
    rw [List.map_map]
    rfl
  rw [expansion_structs, List.map_singleton, hslots, Builder.map_item_fields]
  exact congrArg ([·]) (s.map_fst_slots cx)

/-- **Names of builder fields.** Where the constructible fields of a record are different
identifiers, so are the fields of its builder, marker included, unless the record has parameters and
a field is written as the raw form of the marker's name. -/
theorem builder_fields_distinct_iff (v : Deriver) {d : Declaration} {members : List Member}
    (hkind : d.kind = .record members)
    (hdistinct : Distinct ((extract v.inherit members).fields.map (·.name))) :
    let names := (extract v.inherit members).fields.map (·.name)
    let held := names ++ if d.generics.params.isEmpty then [] else [markerName names]
    ∃ e, v.expand d = .ok e ∧ e.tokens = e.items.flatMap itemTokens ∧
      (structsOf e.items).map (fun x => x.2.map (·.item.1)) = [held] ∧
      (Distinct held ↔ d.generics.params = [] ∨ "r#" ++ markerName names ∉ names) := by
  intro names held
  have hscanned : (d.scan v.inherit members).fields.map (·.name) = names :=
    d.scan_field_names v.inherit members
  -- the builder's names, with the marker where there are parameters
  have hheld : (d.scan v.inherit members).slotNames (.ofDeclaration v d) = held := by
    rw [RecordScan.slotNames, RecordScan.builderIn_marker, hscanned]
    show names ++ (if d.generics.params.isEmpty then none
      else some (markerName names)).toList = held
    cases hg : d.generics.params.isEmpty <;> simp [held, hg]
  refine ⟨_, v.expand_record hkind, (Expansion.items_tokens _).symm, ?_, ?_⟩
  · rw [RecordScan.expansion_builder_names, hheld]
  · cases hg : d.generics.params with
    | nil => simpa [held, hg] using hdistinct
    | cons p ps =>
      -- the fields are distinct by hypothesis, so only the marker can clash
      have hsplit : Distinct held ↔ bareName (markerName names) ∉ names.map bareName := by
        have hfields : (names.map bareName).Nodup := hdistinct
        simp [Distinct, held, hg, List.nodup_append, hfields]
      rw [hsplit, bareName_markerName_mem_iff]
      simp

def fieldsNamed (names : List String) : List Member :=
  names.map fun name => ⟨[⟨name, some (.named "T"), false⟩], .stored, none⟩

/-- `struct Tagged<T>` with fields of these names, all of type `T`. -/
def taggedDeclaration (names : List String) : Declaration where
  name := ⟨"Tagged", .nowhere⟩
  generics := ⟨[.type [] "T" [] false none], false, none⟩
  visibility := none
  enclosing := none
  options := ⟨none, none, false, none⟩
  kind := .record (fieldsNamed names)

/-- The marker keeps clear of fields that are called like the first candidates. -/
theorem marker_clear_of_candidates :
    let names := ["__fixture_marker", "___fixture_marker"]
    (taggedDeclaration names).kind = .record (fieldsNamed names) ∧
      Distinct ((extract true (fieldsNamed names)).fields.map (·.name)) ∧
      ∃ e, Deriver.standard.expand (taggedDeclaration names) = .ok e ∧
        ∀ s ∈ structsOf e.items, Distinct (s.2.map (·.item.1)) := by
  intro names
  have hdistinct : Distinct ((extract true (fieldsNamed names)).fields.map (·.name)) := by decide
  obtain ⟨e, hexpand, -, hnames, hiff⟩ :=
    builder_fields_distinct_iff .standard (d := taggedDeclaration names) rfl hdistinct
  refine ⟨rfl, hdistinct, e, hexpand, fun s hs => ?_⟩
  -- the one struct emitted is the builder, whose names the theorem lists
  have hmem := List.mem_map_of_mem (f := fun x => x.2.map (·.item.1)) hs
  rw [hnames, List.mem_singleton] at hmem
  rw [hmem]
  exact hiff.mpr (.inr (by decide))

/-- The raw form of the first candidate is another name for the search and the same identifier as
the marker. -/
theorem raw_field_is_marker :
    ¬ ∀ (v : Deriver) (d : Declaration) (members : List Member), d.kind = .record members →
      Distinct ((extract v.inherit members).fields.map (·.name)) →
        ∀ e, v.expand d = .ok e → ∀ s ∈ structsOf e.items, Distinct (s.2.map (·.item.1)) := by
  intro h
  have hclear := h .standard (taggedDeclaration ["r#__fixture_marker"]) _ rfl (by decide) _ rfl _
    List.mem_cons_self
  revert hclear
  decide

end Specimen
