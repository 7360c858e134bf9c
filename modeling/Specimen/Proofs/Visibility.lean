import Specimen.Visibility

/-!
# The narrowest visibility

Candidates are compared one after another, and an equal one does not take the place of an earlier
one. What that comes to is said once, for all candidates together. They may be compared in rounds as
well, and the order of the fields decides about the modifier and not about its level.
-/

namespace Specimen

/-! ## The lowest levels -/

namespace Level

/-- There is no level below that of the own module. -/
theorem eq_own_of_le {l : Level} (h : l ≤ .own) : l = .own :=
  rank_injective (Nat.le_zero.mp h)

/-- There is one level below that of modules above, and it is the own module's. -/
theorem eq_ancestor_of_le {l : Level} (h : l ≤ .ancestor) (hne : l ≠ .own) : l = .ancestor := by
  rw [le_def] at h
  have hrank : l.rank ≠ 0 := fun hzero => hne (rank_injective hzero)
  have hone : l.rank = 1 := by
    have hle : l.rank ≤ 1 := h
    omega
  exact rank_injective hone

end Level

/-! ## The first of the narrowest -/

namespace Visibility

/-- **The narrowest visibility** comes before all others that are as narrow. -/
theorem narrowest_split (type : Option Visibility) (fields : List (Option Visibility)) :
    ∃ before w after, type :: fields = before ++ w :: after ∧
      narrowest type fields = w.getD unstated ∧
      (∀ x ∈ before, levelOf w < levelOf x) ∧ ∀ x ∈ after, levelOf w ≤ levelOf x := by
  -- on the fields, with what is narrowest so far in place of the type
  induction fields generalizing type with
  | nil => exact ⟨[], type, [], rfl, rfl, by simp, by simp⟩
  | cons f fs ih =>
    rw [narrowest_cons]
    obtain ⟨before, w, after, heq, hw, hbefore, hafter⟩ := ih (narrower type f)
    rw [hw]
    by_cases hlt : levelOf f < levelOf type
    · -- the field takes the place of what was narrowest so far
      rw [narrower, if_pos hlt] at heq
      refine ⟨type :: before, w, after, by rw [heq]; rfl, rfl, ?_, hafter⟩
      intro x hx
      rcases List.mem_cons.mp hx with rfl | hx'
      · cases before with
        | nil =>
          rw [← (List.cons.inj heq).1]
          exact hlt
        | cons b bs =>
          have hwb := hbefore b List.mem_cons_self
          rw [← (List.cons.inj heq).1] at hwb
          exact Nat.lt_trans hwb hlt
      · exact hbefore x hx'
    -- the field is passed over, and stands before or behind what is narrowest in the end
    · rw [narrower, if_neg hlt] at heq
      have hge : levelOf type ≤ levelOf f := Nat.le_of_not_lt hlt
      cases before with
      | nil =>
        obtain ⟨rfl, rfl⟩ := List.cons.inj heq
        refine ⟨[], type, f :: fs, rfl, rfl, by simp, ?_⟩
        intro x hx
        rcases List.mem_cons.mp hx with rfl | hx'
        · exact hge
        · exact hafter x hx'
      | cons b bs =>
        obtain ⟨rfl, hfs⟩ := List.cons.inj heq
        refine ⟨type :: f :: bs, w, after, by rw [hfs]; rfl, rfl, ?_, hafter⟩
        have htype : levelOf w < levelOf type := hbefore type List.mem_cons_self
        intro x hx
        rcases List.mem_cons.mp hx with rfl | hx'
        · exact htype
        · rcases List.mem_cons.mp hx' with rfl | hx''
          · exact Nat.lt_of_lt_of_le htype hge
          · exact hbefore x (List.mem_cons_of_mem _ hx'')

/-- No candidate is narrower than the narrowest. -/
theorem level_narrowest_le (type : Option Visibility) (fields : List (Option Visibility)) :
    ∀ x ∈ type :: fields, (narrowest type fields).level ≤ levelOf x := by
  obtain ⟨before, w, after, heq, hw, hbefore, hafter⟩ := narrowest_split type fields
  rw [heq, hw, levelOf_getD]
  intro x hx
  rcases List.mem_append.mp hx with hx | hx
  · exact Nat.le_of_lt (hbefore x hx)
  · rcases List.mem_cons.mp hx with rfl | hx
    · exact Nat.le_refl _
    · exact hafter x hx

/-- The narrowest level is that of a candidate. -/
theorem exists_level_narrowest (type : Option Visibility) (fields : List (Option Visibility)) :
    ∃ w ∈ type :: fields, (narrowest type fields).level = levelOf w := by
  obtain ⟨before, w, after, heq, hw, -, -⟩ := narrowest_split type fields
  refine ⟨w, ?_, by rw [hw, levelOf_getD]⟩
  rw [heq]
  exact List.mem_append_right before List.mem_cons_self

/-- If for each candidate there is another one that is as narrow, the narrowest of the others is as
narrow. -/
theorem level_narrowest_mono {type type' : Option Visibility}
    {fields fields' : List (Option Visibility)}
    (h : ∀ x ∈ type :: fields, ∃ y ∈ type' :: fields', levelOf y ≤ levelOf x) :
    (narrowest type' fields').level ≤ (narrowest type fields).level := by
  obtain ⟨w, hw, hlevel⟩ := exists_level_narrowest type fields
  obtain ⟨y, hy, hle⟩ := h w hw
  rw [hlevel]
  exact Nat.le_trans (level_narrowest_le type' fields' y hy) hle

/-- With fewer candidates the narrowest level does not go down. -/
theorem level_narrowest_anti (type : Option Visibility) {fields more : List (Option Visibility)}
    (h : fields ⊆ more) : (narrowest type more).level ≤ (narrowest type fields).level := by
  apply level_narrowest_mono
  intro x hx
  exact ⟨x, List.cons_subset_cons type h hx, Nat.le_refl _⟩

/-- Two candidates that are first among the narrowest are one and the same. -/
theorem eq_of_first_narrowest {before before' after after' : List (Option Visibility)}
    {w w' : Option Visibility} (heq : before ++ w :: after = before' ++ w' :: after')
    (hbefore : ∀ x ∈ before, levelOf w < levelOf x)
    (hbefore' : ∀ x ∈ before', levelOf w' < levelOf x)
    (hall : ∀ x ∈ before ++ w :: after, levelOf w ≤ levelOf x)
    (hall' : ∀ x ∈ before ++ w :: after, levelOf w' ≤ levelOf x) : w = w' := by
  have hmem : w ∈ before ++ w :: after := List.mem_append_right before List.mem_cons_self
  have hmem' : w' ∈ before ++ w :: after := by
    rw [heq]
    exact List.mem_append_right before' List.mem_cons_self
  rcases List.append_eq_append_iff.mp heq with ⟨between, hb, ha⟩ | ⟨between, hb, ha⟩
  · cases between with
    | nil => exact (List.cons.inj ha).1
    | cons x xs =>
      -- `w` would be one of those before `w'`, and so reach further
      obtain ⟨rfl, -⟩ := List.cons.inj ha
      have hlt := hbefore' w (by rw [hb]; exact List.mem_append_right before List.mem_cons_self)
      exact absurd (hall w' hmem') (Nat.not_le_of_lt hlt)
  · cases between with
    | nil => exact (List.cons.inj ha).1.symm
    | cons x xs =>
      obtain ⟨rfl, -⟩ := List.cons.inj ha
      have hlt := hbefore w' (by rw [hb]; exact List.mem_append_right before' List.mem_cons_self)
      exact absurd (hall' w hmem) (Nat.not_le_of_lt hlt)

/-- **The narrowest visibility** is that of the first candidate that is as narrow as any: the type's
before those of the fields, and an earlier field's before a later one's. It has the modifier that
the candidate was written with, and `pub(crate)` if the candidate is not stated. -/
theorem narrowest_eq_iff (type : Option Visibility) (fields : List (Option Visibility))
    (v : Visibility) :
    narrowest type fields = v ↔
      ∃ before w after, type :: fields = before ++ w :: after ∧
        (∀ x ∈ before, levelOf w < levelOf x) ∧ (∀ x ∈ type :: fields, levelOf w ≤ levelOf x) ∧
        v = w.getD ⟨.crate, .crate⟩ := by
  obtain ⟨before, w, after, heq, hw, hbefore, -⟩ := narrowest_split type fields
  have hall : ∀ x ∈ type :: fields, levelOf w ≤ levelOf x := by
    rw [← levelOf_getD, ← hw]
    exact level_narrowest_le type fields
  constructor
  · rintro rfl
    exact ⟨before, w, after, heq, hbefore, hall, hw⟩
  · rintro ⟨before', w', after', heq', hbefore', hall', rfl⟩
    have hsame : w = w' := eq_of_first_narrowest (heq.symm.trans heq') hbefore hbefore'
      (heq ▸ hall) (heq ▸ hall')
    rw [hw, hsame]
    rfl

/-- Both `pub(super)` and `pub(in a)` are for a module above, and the first of them is taken. -/
example :
    let up : Visibility := .ofModifier .parent
    let path : Visibility := .ofModifier (.restricted true false ["a"])
    narrowest none [some up, none, some path] = up ∧
      narrowest (some .unstated) [some path, some up] = path ∧
      narrowest none [none] = .unstated := by
  decide

/-! ## In rounds, and in any order -/

/-- The order of the fields may decide which modifier is taken, and not its level. -/
theorem level_narrowest_perm (type : Option Visibility) {fields fields' : List (Option Visibility)}
    (h : fields.Perm fields') : (narrowest type fields).level = (narrowest type fields').level :=
  Level.rank_injective (Nat.le_antisymm (level_narrowest_anti type h.symm.subset)
    (level_narrowest_anti type h.subset))

/-- It makes no difference whether the type's visibility is left out or stated as what it is then
taken for. -/
theorem narrowest_getD (type : Option Visibility) (fields : List (Option Visibility)) :
    narrowest (some (type.getD unstated)) fields = narrowest type fields := by
  induction fields generalizing type with
  | nil => rfl
  | cons f fs ih =>
    rw [narrowest_cons, narrowest_cons, narrower, narrower, levelOf_some, levelOf_getD]
    split
    · rfl
    · exact ih type

/-- Candidates may be compared in two rounds: what is narrowest in the first one goes into the
second one in place of the type. -/
theorem narrowest_append (type : Option Visibility) (xs ys : List (Option Visibility)) :
    narrowest type (xs ++ ys) = narrowest (some (narrowest type xs)) ys := by
  induction xs generalizing type with
  | nil => rw [List.nil_append, narrowest_nil, narrowest_getD]
  | cons x xs ih => rw [List.cons_append, narrowest_cons, ih, narrowest_cons]

/-- A candidate that is as wide as the one before it is not taken. -/
theorem narrowest_self (v : Visibility) : narrowest (some v) [some v] = v := by
  rw [narrowest_cons, narrower, ite_self]
  rfl

/-- **Composition.** Candidates may be compared in two rounds, so that more fields make nothing
wider, and one more field like what is taken already changes nothing. The level depends on no order
of the fields, and narrowing one candidate does not widen it. -/
theorem narrowest_composes (type : Option Visibility) (xs ys : List (Option Visibility)) :
    narrowest type (xs ++ ys) = narrowest (some (narrowest type xs)) ys ∧
      (narrowest type (xs ++ ys)).level ≤ (narrowest type xs).level ∧
      narrowest type (xs ++ [some (narrowest type xs)]) = narrowest type xs ∧
      (∀ zs, zs.Perm xs → (narrowest type zs).level = (narrowest type xs).level) ∧
      ∀ before w w' after type' zs, type :: xs = before ++ w :: after →
        type' :: zs = before ++ w' :: after → levelOf w' ≤ levelOf w →
          (narrowest type' zs).level ≤ (narrowest type xs).level := by
  refine ⟨narrowest_append type xs ys, ?_, ?_, fun zs h => level_narrowest_perm type h, ?_⟩
  · exact level_narrowest_anti type (List.subset_append_left xs ys)
  · rw [narrowest_append, narrowest_self]
  · intro before w w' after type' zs hxs hzs hle
    apply level_narrowest_mono
    rw [hxs, hzs]
    -- every candidate is still there, but for one that is as narrow now or narrower
    intro x hx
    rcases List.mem_append.mp hx with hx | hx
    · exact ⟨x, List.mem_append_left _ hx, Nat.le_refl _⟩
    · rcases List.mem_cons.mp hx with rfl | hx
      · exact ⟨w', List.mem_append_right before List.mem_cons_self, hle⟩
      · exact ⟨x, List.mem_append_right before (List.mem_cons_of_mem w' hx), Nat.le_refl _⟩

/-- `pub(super)` before or behind `pub(in a)`: the first one is taken, both are of one level, and
the level goes down with a private type. -/
theorem path_and_parent_compose :
    let up := some (ofModifier .parent)
    let path := some (ofModifier (.restricted true false ["a"]))
    narrowest none [path, none, up] = narrowest path [up] ∧
      [up, path].Perm [path, up] ∧ narrowest none [up, path] ≠ narrowest none [path, up] ∧
      (narrowest none [up, path]).level = (narrowest none [path, up]).level ∧
      levelOf (some (ofModifier .inherited)) ≤ levelOf none ∧
      (narrowest (some (ofModifier .inherited)) [path, up]).level ≤
        (narrowest none [path, up]).level := by
  intro up path
  -- both candidates have one level, so the first of them is kept
  obtain ⟨hround, -⟩ := narrowest_composes none [path, none] [up]
  obtain ⟨-, -, -, horder, hnarrow⟩ := narrowest_composes none [path, up] []
  have hperm : [up, path].Perm [path, up] := List.Perm.swap path up []
  have hle : levelOf (some (ofModifier .inherited)) ≤ levelOf none := by decide
  refine ⟨hround, hperm, by decide, horder _ hperm, hle, ?_⟩
  exact hnarrow [] none _ [path, up] _ _ rfl rfl hle

end Visibility

end Specimen
