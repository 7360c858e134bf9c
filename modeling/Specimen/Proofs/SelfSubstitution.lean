import Specimen.Proofs.SelfNesting

/-!
# Substitution for `Self`

What it means that `Self` is spelled out in a type is said twice here. `Spells` is the
substitution: a path type that is `Self` becomes the replacement, one that goes on after `Self`
becomes a path into the replacement, and the replacement is left alone in both. `Visits` is how
a type is gone through: what takes the place of a path that goes on is gone through in its turn, the
replacement in it included. For a replacement without `Self` the two agree
(`replaceSelf_substitutes`). For others the second one may insert something else or not come to an
end, and `visits_iff` says when.
-/

namespace Specimen

/-! ## One type at a time -/

/-- The three forms of a type, as far as `Self` in front of it matters. -/
inductive Ty.SelfForm : Ty → Prop where
  | self : SelfForm (.named "Self")
  | into (next : Segment) (rest : List Segment) :
      SelfForm (.path false (.plain "Self" :: next :: rest))
  | inside {ty : Ty} (h : ty.isSelfPath = false) : SelfForm ty

/-- A type that starts with a bare `Self` is `Self`, or a path that goes on behind it. -/
theorem Ty.selfForm (ty : Ty) : ty.SelfForm := by
  cases h : ty.isSelfPath with
  | false => exact .inside h
  | true =>
    -- of the types only an unrooted path can start with `Self`
    cases ty with
    | path rooted segments =>
      obtain ⟨rfl, rest, rfl⟩ := exists_of_startsWithSelf h
      cases rest with
      | nil => exact .self
      | cons next rest => exact .into next rest
    | _ => simp [Ty.isSelfPath] at h

section

variable (self base : Ty)

/-- `Self` on its own is the type that is spelled out. -/
theorem Ty.spell_self : (Ty.named "Self").spell self base = self := by
  simp [Ty.spell, Ty.named, Ty.mapPaths, Segment.mapPathsEach, Segment.mapPaths, spellPath]

/-- A path behind `Self` is one into `base`, with the same segments. -/
theorem Ty.spell_into (next : Segment) (rest : List Segment) :
    (Ty.path false (.plain "Self" :: next :: rest)).spell self base =
      .qualified base false []
        (Segment.mapNestedEach (·.spell self base) (next :: rest)) := by
  rw [Ty.spell, Ty.mapPaths, Segment.mapPathsEach, Segment.mapPathsEach_eq_mapNestedEach,
    Segment.mapNestedEach, Segment.mapPaths, spellPath]
  · rfl
  · simp

/-- What a path starts with does not depend on the types inside. -/
theorem Ty.isSelfPath_mapNested (f : Ty → Ty) (ty : Ty) :
    (ty.mapNested f).isSelfPath = ty.isSelfPath := by
  cases ty with
  | path rooted segments =>
    cases segments with
    | nil => rw [Ty.mapNested, Segment.mapNestedEach]
    | cons s ss =>
      cases s <;> cases rooted <;>
        simp [Ty.mapNested, Segment.mapNestedEach, Segment.mapNested, Ty.isSelfPath,
          startsWithSelf]
  | _ => rfl

/-- Any other type is left to the types inside. -/
theorem Ty.spell_inside {ty : Ty} (h : ty.isSelfPath = false) :
    ty.spell self base = ty.mapNested (·.spell self base) := by
  have hmap := Ty.isSelfPath_mapNested (·.mapPaths (spellPath self base)) ty
  rw [h] at hmap
  rw [Ty.spell, Ty.mapPaths_eq_mapNested]
  -- the types inside may change, but not whether the path starts with `Self`
  split
  · next rooted segments heq =>
    rw [heq] at hmap
    rw [spellPath_of_not_startsWithSelf hmap, ← heq]
    rfl
  · rfl

end

theorem Ty.nested_named (name : String) : (Ty.named name).nested = [] := by
  simp [Ty.named, Ty.nested, Segment.nestedEach, Segment.nested]

/-- The types inside of a path behind a plain name are those behind it. -/
theorem Ty.nested_into (name : String) (rest : List Segment) :
    (Ty.path false (.plain name :: rest)).nested = Segment.nestedEach rest := by
  simp [Ty.nested, Segment.nestedEach, Segment.nested]

/-- The types inside of a path into a type are that type and what is behind it. -/
theorem Ty.nested_qualified (self : Ty) (rest : List Segment) :
    (Ty.qualified self false [] rest).nested = self :: Segment.nestedEach rest := by
  simp [Ty.nested, Segment.nestedEach]

/-! ## Substitution -/

/-- The second type is the first one with `replacement` for `Self`. Types inside are those in the
code of array lengths, constant arguments and attributes as well; all that is no type is kept. -/
inductive Spells (replacement : Ty) : Ty → Ty → Prop where
  /-- `Self` is the replacement. -/
  | self : Spells replacement (.named "Self") replacement
  /-- A path that goes on after `Self` is a path into the replacement. -/
  | into {next : Segment} {rest : List Segment} (g : Ty → Ty)
      (h : ∀ t ∈ Segment.nestedEach (next :: rest), Spells replacement t (g t)) :
      Spells replacement (.path false (.plain "Self" :: next :: rest))
        (.qualified replacement false [] (Segment.mapNestedEach g (next :: rest)))
  /-- Of any other type the types inside are spelled out. -/
  | inside {ty : Ty} (g : Ty → Ty) (h : ty.isSelfPath = false)
      (hg : ∀ t ∈ ty.nested, Spells replacement t (g t)) :
      Spells replacement ty (ty.mapNested g)

/-- Substitution is spelling with the replacement in both places. -/
theorem spells_iff {replacement ty out : Ty} :
    Spells replacement ty out ↔ out = ty.spell replacement replacement := by
  constructor
  · intro h
    -- any choice of the types inside is the one that spelling makes of them
    induction h with
    | self => rw [Ty.spell_self]
    | into g h ih => rw [Ty.spell_into, Segment.mapNestedEach_congr _ ih]
    | inside g h hg ih => rw [Ty.spell_inside _ _ h, Ty.mapNested_congr ih]
  · rintro rfl
    -- spelling makes a choice for each type inside
    induction ty using Ty.nested_induction with
    | step ty ih =>
      cases ty.selfForm with
      | self =>
        rw [Ty.spell_self]
        exact .self
      | into next rest =>
        rw [Ty.nested_into] at ih
        rw [Ty.spell_into]
        exact .into _ ih
      | inside h =>
        rw [Ty.spell_inside _ _ h]
        exact .inside _ h ih

/-- A type without paths to be spelled out is left as it is. -/
theorem Ty.spell_eq_self (self base : Ty) {ty : Ty} (h : ty.hasSelf true false = false) :
    ty.spell self base = ty := by
  induction ty using Ty.nested_induction with
  | step ty ih =>
    rw [Ty.hasSelf_eq_any_nested, Bool.or_eq_false_iff, List.any_eq_false] at h
    rw [Ty.spell_inside _ _ h.1]
    exact Ty.mapNested_eq_self fun t ht => ih t ht (Bool.eq_false_iff.mpr (h.2 t ht))

/-- Spelling with types that have no paths to be spelled out leaves none. -/
theorem Ty.hasSelf_spell_eq_false {self base : Ty} (hself : self.hasSelf true false = false)
    (hbase : base.hasSelf true false = false) (ty : Ty) :
    (ty.spell self base).hasSelf true false = false := by
  induction ty using Ty.nested_induction with
  | step ty ih =>
    cases ty.selfForm with
    | self => rwa [Ty.spell_self]
    | into next rest =>
      -- the path is now one into `base`, which is the first type inside of it
      rw [Ty.nested_into] at ih
      rw [Ty.spell_into, Ty.hasSelf_eq_any_nested, Ty.nested_qualified,
        Segment.nestedEach_mapNestedEach, List.any_cons, hbase]
      simpa [Ty.isSelfPath, List.any_eq_false] using ih
    | inside h =>
      rw [Ty.spell_inside _ _ h, Ty.hasSelf_eq_any_nested, Ty.isSelfPath_mapNested, h,
        Ty.nested_mapNested]
      simpa [List.any_eq_false] using ih

/-! ## Going through a type -/

/-- The second type is what going through the first one ends with. What takes the place of a path
that goes on after `Self` is gone through as well, and the replacement is a type inside of it; on
its own the replacement is inserted and left. There are pairs for which nothing is gone through to
the end, and then there is no second type. -/
inductive Visits (replacement : Ty) : Ty → Ty → Prop where
  | self : Visits replacement (.named "Self") replacement
  | into {next : Segment} {rest : List Segment} (g : Ty → Ty)
      (h : ∀ t ∈ (Ty.qualified replacement false [] (next :: rest)).nested,
        Visits replacement t (g t)) :
      Visits replacement (.path false (.plain "Self" :: next :: rest))
        ((Ty.qualified replacement false [] (next :: rest)).mapNested g)
  | inside {ty : Ty} (g : Ty → Ty) (h : ty.isSelfPath = false)
      (hg : ∀ t ∈ ty.nested, Visits replacement t (g t)) :
      Visits replacement ty (ty.mapNested g)

/-- A path that goes on after `Self` stands in a type. -/
inductive Ty.GoesOn : Ty → Prop where
  | here (next : Segment) (rest : List Segment) :
      GoesOn (.path false (.plain "Self" :: next :: rest))
  | inside {ty t : Ty} (h : t ∈ ty.nested) (ht : t.GoesOn) : GoesOn ty

/-- `Self` on its own has nothing behind it, and no types inside. -/
theorem Ty.not_goesOn_self : ¬ (Ty.named "Self").GoesOn := by
  intro h
  cases h with
  | inside h ht => simp [Ty.nested_named] at h

/-- A path that goes on is one to be spelled out. -/
theorem Ty.GoesOn.hasSelf {ty : Ty} (h : ty.GoesOn) : ty.hasSelf true false = true := by
  induction h with
  | here next rest => simp [Ty.hasSelf_eq_any_nested, Ty.isSelfPath, startsWithSelf]
  | inside h ht ih =>
    rw [Ty.hasSelf_eq_any_nested, Bool.or_eq_true, List.any_eq_true]
    exact .inr ⟨_, h, ih⟩

/-- Of a type without paths that go on, the types inside are such types. -/
theorem Ty.not_goesOn_of_mem {ty t : Ty} (h : ¬ ty.GoesOn) (ht : t ∈ ty.nested) : ¬ t.GoesOn :=
  fun hgo => h (.inside ht hgo)

/-- Where no path goes on, it does not matter where such paths would lead. -/
theorem Ty.spell_base (self base base' : Ty) {ty : Ty} (h : ¬ ty.GoesOn) :
    ty.spell self base = ty.spell self base' := by
  induction ty using Ty.nested_induction with
  | step ty ih =>
    cases ty.selfForm with
    | self => rw [Ty.spell_self, Ty.spell_self]
    | into next rest => exact absurd (.here next rest) h
    | inside hform =>
      rw [Ty.spell_inside _ _ hform, Ty.spell_inside _ _ hform]
      exact Ty.mapNested_congr fun t ht => ih t ht (Ty.not_goesOn_of_mem h ht)

section

variable {replacement ty out : Ty}

/-- If a path goes on in the replacement, a visit that meets such a path meets it again and again:
the replacement stands in what it leaves behind. -/
theorem Visits.not_goesOn (h : Visits replacement ty out) (hr : replacement.GoesOn) :
    ¬ ty.GoesOn := by
  induction h with
  | self => exact Ty.not_goesOn_self
  | into g h ih =>
    -- the replacement is the first type inside of what takes the place of the path
    exact absurd hr (ih replacement List.mem_cons_self)
  | inside g h hg ih =>
    intro hgo
    cases hgo with
    | here next rest => simp [Ty.isSelfPath, startsWithSelf] at h
    | inside ht hgo => exact ih _ ht hgo

/-- If no path goes on in the type, nothing is gone through twice. -/
theorem visits_of_not_goesOn (base : Ty) (h : ¬ ty.GoesOn) :
    Visits replacement ty (ty.spell replacement base) := by
  induction ty using Ty.nested_induction with
  | step ty ih =>
    -- without a `Self::` to go on from, only `Self` itself is replaced
    cases ty.selfForm with
    | self =>
      rw [Ty.spell_self]
      exact .self
    | into next rest => exact absurd (.here next rest) h
    | inside hform =>
      rw [Ty.spell_inside _ _ hform]
      exact .inside _ hform fun t ht => ih t ht (Ty.not_goesOn_of_mem h ht)

/-- If no path goes on in the replacement, a visit ends: the replacement is gone through once for
each path that goes on. -/
theorem visits_replaceSelf (hr : ¬ replacement.GoesOn) (ty : Ty) :
    Visits replacement ty (ty.replaceSelf replacement) := by
  induction ty using Ty.nested_induction with
  | step ty ih =>
    cases ty.selfForm with
    | self =>
      rw [Ty.replaceSelf, Ty.spell_self]
      exact .self
    | into next rest =>
      rw [Ty.nested_into] at ih
      -- the replacement is left with what it spells in itself
      have hbase : Visits replacement replacement (replacement.spell replacement replacement) :=
        visits_of_not_goesOn _ hr
      rw [Ty.spell_base _ _ (replacement.spell replacement replacement) hr] at hbase
      -- so the path into it is gone through as the types inside are
      have hinto : ∀ t ∈ (Ty.qualified replacement false [] (next :: rest)).nested,
          Visits replacement t (t.replaceSelf replacement) := by
        rw [Ty.nested_qualified, List.forall_mem_cons]
        exact ⟨hbase, ih⟩
      have hvisits := Visits.into _ hinto
      rw [Ty.mapNested, Segment.mapNestedEach, Ty.replaceSelf,
        ← Ty.spell_base _ replacement (replacement.spell replacement replacement) hr] at hvisits
      rw [Ty.replaceSelf, Ty.spell_into]
      exact hvisits
    | inside h =>
      rw [Ty.replaceSelf, Ty.spell_inside _ _ h]
      exact .inside _ h ih

/-- What a visit ends with is the replacement for `Self`, and for a path that goes on a path into
what the replacement spells in itself. -/
theorem Visits.eq_replaceSelf (h : Visits replacement ty out) :
    out = ty.replaceSelf replacement := by
  induction h with
  | self => rw [Ty.replaceSelf, Ty.spell_self]
  | @into next rest g h ih =>
    -- the replacement was gone through too, and to the end, so no path goes on in it
    have hr : ¬ replacement.GoesOn := fun hgo =>
      (h replacement List.mem_cons_self).not_goesOn hgo hgo
    rw [Ty.nested_qualified, List.forall_mem_cons] at ih
    rw [Ty.mapNested, Segment.mapNestedEach, ih.1, Segment.mapNestedEach_congr _ ih.2,
      Ty.replaceSelf, Ty.replaceSelf, Ty.spell_into,
      ← Ty.spell_base _ replacement (replacement.spell replacement replacement) hr]
    rfl
  | inside g h hg ih =>
    -- a step at any other type is one at the types inside
    rw [Ty.mapNested_congr ih, Ty.replaceSelf, Ty.spell_inside _ _ h]
    rfl

/-- **When a visit ends**, and what with. -/
theorem visits_iff_replaceSelf :
    Visits replacement ty out ↔
      ¬ (ty.GoesOn ∧ replacement.GoesOn) ∧ out = ty.replaceSelf replacement := by
  constructor
  · intro h
    exact ⟨fun ⟨hty, hr⟩ => h.not_goesOn hr hty, h.eq_replaceSelf⟩
  · rintro ⟨h, rfl⟩
    by_cases hty : ty.GoesOn
    · exact visits_replaceSelf (fun hr => h ⟨hty, hr⟩) ty
    · exact visits_of_not_goesOn _ hty

end

/-! ## Replacements without `Self` -/

/-- A type whose tokens do not name `Self` has no paths to be spelled out. -/
theorem Ty.hasSelf_eq_false_of_namesSelf {ty : Ty} (h : namesSelf ty.tokens = false) :
    ty.hasSelf true false = false := by
  rw [Ty.namesSelf_tokens, Ty.hasSelf_split, Bool.or_eq_false_iff] at h
  exact h.2

/-- A replacement without paths to be spelled out is inserted word for word. -/
theorem Ty.replaceSelf_eq_spell {replacement : Ty} (hr : replacement.hasSelf true false = false)
    (ty : Ty) : ty.replaceSelf replacement = ty.spell replacement replacement := by
  rw [Ty.replaceSelf, Ty.spell_eq_self _ _ hr]

/-- A type without paths to be spelled out has none that goes on. -/
theorem Ty.not_goesOn_of_hasSelf {ty : Ty} (h : ty.hasSelf true false = false) : ¬ ty.GoesOn :=
  fun hgo => Bool.false_ne_true (h.symm.trans hgo.hasSelf)

/-- **Substitution for `Self`.** With a replacement that does not name `Self`, spelling out is the
substitution, and going through the type ends with it. A type without paths to be spelled out is
left as it is, none stands in the result, and spelling that out again changes nothing. -/
theorem replaceSelf_substitutes (ty replacement : Ty) (hr : namesSelf replacement.tokens = false) :
    (∀ out, Spells replacement ty out ↔ out = ty.replaceSelf replacement) ∧
      (∀ out, Visits replacement ty out ↔ out = ty.replaceSelf replacement) ∧
      (ty.hasSelf true false = false → ty.replaceSelf replacement = ty) ∧
      (ty.replaceSelf replacement).hasSelf true false = false ∧
      (ty.replaceSelf replacement).replaceSelf replacement = ty.replaceSelf replacement := by
  have hnone := Ty.hasSelf_eq_false_of_namesSelf hr
  have hkept : ∀ t : Ty, t.hasSelf true false = false → t.replaceSelf replacement = t :=
    fun t ht => Ty.spell_eq_self _ _ ht
  -- what is inserted has no `Self` in it, and none of the declared ones is left
  have hleft : (ty.replaceSelf replacement).hasSelf true false = false := by
    rw [Ty.replaceSelf_eq_spell hnone]
    exact Ty.hasSelf_spell_eq_false hnone hnone ty
  refine ⟨fun out => ?_, fun out => ?_, hkept ty, hleft, hkept _ hleft⟩
  · rw [spells_iff, Ty.replaceSelf_eq_spell hnone]
  · rw [visits_iff_replaceSelf]
    exact and_iff_right fun h => Ty.not_goesOn_of_hasSelf hnone h.2

/-- `Node<T>` -/
def nodeType : Ty := .path false [.angled "Node" false [.type (.named "T")] false]

/-- A link of the form `fn(&ty) -> a::Self<path<ty>>`, where `path` may be one into a type. -/
def linkType (ty : Ty) (path : Segment → Ty) : Ty :=
  .function [] [] [.mk [] none (.reference none false ty)] false []
    (some (.path false [.plain "a", .angled "Self" false
      [.type (path (.angled "Key" false [.type ty] false))] false]))

/-- In `fn(&Self) -> a::Self<Self::Key<Self>>` two of four are the type on its own, one leads into
it, and `a::Self` is something else. -/
theorem link_spelled_out :
    let link := linkType (.named "Self") fun s => .path false [.plain "Self", s]
    let spelled := linkType nodeType fun s => .qualified nodeType false [] [s]
    namesSelf nodeType.tokens = false ∧ Spells nodeType link spelled ∧
      Visits nodeType link spelled ∧ nodeType.hasSelf true false = false ∧
      nodeType.replaceSelf nodeType = nodeType ∧ spelled.hasSelf true false = false ∧
      spelled.replaceSelf nodeType = spelled := by
  intro link spelled
  have hr : namesSelf nodeType.tokens = false := by decide
  have hnone : nodeType.hasSelf true false = false := by decide
  -- the result is computed once, and each reading of it comes from the theorem
  have hresult : spelled = link.replaceSelf nodeType := rfl
  obtain ⟨hspells, hvisits, -, hleft, htwice⟩ := replaceSelf_substitutes link nodeType hr
  obtain ⟨-, -, hkept, -⟩ := replaceSelf_substitutes nodeType nodeType hr
  rw [← hresult] at hleft htwice
  exact ⟨hr, (hspells _).mpr hresult, (hvisits _).mpr hresult, hnone, hkept hnone, hleft, htwice⟩

/-! ## Replacements with `Self` -/

/-- Spelling out a type spells out the types inside of it. -/
theorem Ty.spell_mem_nested (self base : Ty) {ty t : Ty} (h : ty.isSelfPath = false)
    (ht : t ∈ ty.nested) : t.spell self base ∈ (ty.spell self base).nested := by
  rw [Ty.spell_inside _ _ h, Ty.nested_mapNested]
  exact List.mem_map_of_mem ht

/-- Where `Self` is spelled out and no path goes on, the result is as large as the replacement. -/
theorem Ty.sizeOf_le_spell (self base : Ty) {ty : Ty} (h : ty.hasSelf true false = true)
    (hgo : ¬ ty.GoesOn) : sizeOf self ≤ sizeOf (ty.spell self base) := by
  induction ty using Ty.nested_induction with
  | step ty ih =>
    cases ty.selfForm with
    | self => exact Nat.le_of_eq (by rw [Ty.spell_self])
    | into next rest => exact absurd (.here next rest) hgo
    | inside hform =>
      rw [Ty.hasSelf_eq_any_nested, hform, Bool.false_or, List.any_eq_true] at h
      -- the type inside that says `Self` is spelled out inside of the result
      obtain ⟨t, ht, hself⟩ := h
      have hle := ih t ht hself (Ty.not_goesOn_of_mem hgo ht)
      have hlt := Ty.sizeOf_lt_of_mem_nested (Ty.spell_mem_nested self base hform ht)
      exact Nat.le_of_lt (Nat.lt_of_le_of_lt hle hlt)

/-- The only type that says `Self` and spells itself in itself is `Self`. -/
theorem Ty.eq_self_of_spell_eq {ty base : Ty} (h : ty.spell ty base = ty)
    (hself : ty.hasSelf true false = true) (hgo : ¬ ty.GoesOn) : ty = .named "Self" := by
  cases hcase : ty.selfForm with
  | self => rfl
  | into next rest => exact absurd (.here next rest) hgo
  | inside hform =>
    -- a type inside says `Self`, and would be as large as the type
    rw [Ty.hasSelf_eq_any_nested, hform, Bool.false_or, List.any_eq_true] at hself
    obtain ⟨t, ht, hself⟩ := hself
    have hle := Ty.sizeOf_le_spell ty base hself (Ty.not_goesOn_of_mem hgo ht)
    have hmem := Ty.spell_mem_nested ty base hform ht
    rw [h] at hmem
    exact absurd (Ty.sizeOf_lt_of_mem_nested hmem) (Nat.not_lt_of_le hle)

/-- Where a path goes on, it can be seen where it leads. -/
theorem Ty.GoesOn.base_eq {self base base' ty : Ty} (hgo : ty.GoesOn)
    (h : ty.spell self base = ty.spell self base') : base = base' := by
  induction hgo with
  | here next rest =>
    rw [Ty.spell_into, Ty.spell_into] at h
    exact (Ty.qualified.inj h).1
  | @inside ty t ht hgo ih =>
    cases ty.selfForm with
    | self =>
      rw [Ty.nested_named] at ht
      exact absurd ht List.not_mem_nil
    | into next rest =>
      rw [Ty.spell_into, Ty.spell_into] at h
      exact (Ty.qualified.inj h).1
    | inside hform =>
      rw [Ty.spell_inside _ _ hform, Ty.spell_inside _ _ hform] at h
      -- the two results agree in all types inside, so in the one that the path goes on in
      exact ih (Ty.eq_of_mapNested_eq h t ht)

/-- **Visits.** A visit ends unless a path goes on after `Self` in the type and in the replacement
as well. It inserts the replacement word for word if no path goes on in the type, if the replacement
has nothing to be spelled out or if it is `Self`, and in no other case. -/
theorem visits_iff (ty replacement : Ty) :
    (∀ out, Visits replacement ty out ↔
        ¬ (ty.GoesOn ∧ replacement.GoesOn) ∧ out = ty.replaceSelf replacement) ∧
      ((∃ out, Visits replacement ty out ∧ Spells replacement ty out) ↔
        ¬ ty.GoesOn ∨ replacement.hasSelf true false = false ∨ replacement = .named "Self") := by
  refine ⟨fun out => visits_iff_replaceSelf, ?_⟩
  simp only [visits_iff_replaceSelf, spells_iff]
  constructor
  · rintro ⟨out, ⟨hends, rfl⟩, hword⟩
    by_cases hgo : ty.GoesOn
    · have hr : ¬ replacement.GoesOn := fun hr => hends ⟨hgo, hr⟩
      -- the two results lead into the same type only if the replacement spells itself
      have hbase : replacement.spell replacement replacement = replacement := hgo.base_eq hword
      cases hself : replacement.hasSelf true false with
      | false => exact .inr (.inl rfl)
      | true => exact .inr (.inr (Ty.eq_self_of_spell_eq hbase hself hr))
    · exact .inl hgo
  · rintro (hgo | hnone | rfl)
    · exact ⟨_, ⟨fun h => hgo h.1, rfl⟩, Ty.spell_base _ _ _ hgo⟩
    · have hends : ¬ (ty.GoesOn ∧ replacement.GoesOn) :=
        fun h => Ty.not_goesOn_of_hasSelf hnone h.2
      exact ⟨_, ⟨hends, rfl⟩, Ty.replaceSelf_eq_spell hnone ty⟩
    · refine ⟨_, ⟨fun h => Ty.not_goesOn_self h.2, rfl⟩, ?_⟩
      rw [Ty.replaceSelf, Ty.spell_self]

/-- `Vec<element>` -/
def vecOf (element : Ty) : Ty := .path false [.angled "Vec" false [.type element] false]

theorem nested_vecOf (element : Ty) : (vecOf element).nested = [element] := by
  simp [vecOf, Ty.nested, Segment.nestedEach, Segment.nested, Arg.nestedEach, Arg.nested]

/-- `Self::name` -/
def selfPath (name : String) : Ty := .path false [.plain "Self", .plain name]

/-- With `Vec<Self>` for `Self`, the visit of `Self::A` ends with `<Vec<Vec<Self>>>::A`, where the
replacement is not to be found as it was given; with `Self::A`, that of `Self::B` does not end. -/
theorem replacement_spelled_out :
    Visits (vecOf (.named "Self")) (selfPath "A")
        (.qualified (vecOf (vecOf (.named "Self"))) false [] [.plain "A"]) ∧
      ¬ (∃ out, Visits (vecOf (.named "Self")) (selfPath "A") out ∧
        Spells (vecOf (.named "Self")) (selfPath "A") out) ∧
      ¬ ∃ out, Visits (selfPath "A") (selfPath "B") out := by
  have hvec : ¬ (vecOf (.named "Self")).GoesOn := by
    intro h
    cases h with
    | inside ht hgo =>
      rw [nested_vecOf, List.mem_singleton] at ht
      exact Ty.not_goesOn_self (ht ▸ hgo)
  refine ⟨?_, ?_, ?_⟩
  · rw [visits_iff_replaceSelf]
    exact ⟨fun h => hvec h.2, rfl⟩
  · rintro ⟨out, hvisits, hspells⟩
    rw [visits_iff_replaceSelf] at hvisits
    rw [spells_iff, hvisits.2] at hspells
    -- the path leads into what the list spells in itself, and that is not the list
    have hword : vecOf (vecOf (.named "Self")) = vecOf (.named "Self") :=
      Ty.GoesOn.base_eq (.here _ _) hspells
    simp [vecOf, Ty.named] at hword
  · rintro ⟨out, h⟩
    exact h.not_goesOn (.here _ _) (.here _ _)

end Specimen
