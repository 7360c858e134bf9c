import Specimen.Proofs.SampledTypes

/-!
# What the debug guard covers

Where the guard is in force, generated code is meant for builds with debug assertions only. All
items and all functions of the declared type are marked for that, except for the impl that holds
those functions. `guarded_expansion` says what remains of an expansion in other builds: the empty
impl, with its bounds.
-/

namespace Specimen

open Token Target

/-! ## Marked attributes -/

/-- No attribute of generated code but the guard itself says what the guard does. -/
theorem docContent_ne_debugCondition (text : String) : docContent text ≠ debugCondition := by
  simp [docContent, debugCondition]

theorem lintContent_ne_debugCondition (lints : List (List Token)) :
    lintContent lints ≠ debugCondition := by
  simp [lintContent, debugCondition]

theorem derivedContent_ne_debugCondition : derivedContent ≠ debugCondition := by
  simp [derivedContent, debugCondition]

/-- What has the guard in front of other attributes is marked exactly if the guard is in force. -/
theorem Target.Declared.guarded_iff {α : Type} {x : Declared α} {cx : Context}
    {others : List (List Token)} (hx : x.attributes = guardAttributes cx ++ others)
    (hothers : ∀ a ∈ others, a ≠ debugCondition) : x.Guarded ↔ cx.guarded = true := by
  have hnot : debugCondition ∉ others := fun hmem => hothers _ hmem rfl
  rw [Declared.Guarded, hx, List.mem_append, or_iff_left hnot, mem_guardAttributes]

/-- What has no attributes is not marked. -/
theorem Target.Declared.not_guarded_of_nil {α : Type} {x : Declared α} (hx : x.attributes = []) :
    ¬x.Guarded := by
  rw [Declared.Guarded, hx]
  exact List.not_mem_nil

/-! ## Fragments -/

namespace Builder

variable (b : Builder) (cx : Context)

/-- The struct of a builder has the guard, and beside it a text and lints. -/
theorem guarded_struct : (b.struct cx).Guarded ↔ cx.guarded = true := by
  refine Declared.guarded_iff rfl fun a ha => ?_
  rcases List.mem_cons.mp ha with rfl | ha'
  · exact docContent_ne_debugCondition _
  · obtain rfl := List.mem_singleton.mp ha'
    exact lintContent_ne_debugCondition _

/-- An impl for a builder has the guard, and beside it the mark of derived code. -/
theorem guarded_impl (trait : List Token) (f : Declared Function) :
    (b.impl cx trait f).Guarded ↔ cx.guarded = true := by
  refine Declared.guarded_iff rfl fun a ha => ?_
  obtain rfl := List.mem_singleton.mp ha
  exact derivedContent_ne_debugCondition

/-- What has nothing in front of its functions is the same in all builds. -/
theorem released_impl (trait : List Token) {f : Declared Function} (hf : f.attributes = []) :
    (b.impl cx trait f).item.released = (b.impl cx trait f).item := by
  have hnone : ∀ g ∈ [f], ¬g.Guarded := by
    intro g hg
    obtain rfl := List.mem_singleton.mp hg
    exact Declared.not_guarded_of_nil hf
  rw [impl, Block.released, unguarded_eq_self hnone]

/-- Fields have no attributes, so the struct keeps all of them. -/
theorem released_struct : (b.struct cx).item.released = (b.struct cx).item := by
  have hnone : ∀ f ∈ b.fields cx.declaration.selfType, ¬f.Guarded := by
    intro f hf
    rcases List.mem_append.mp hf with hf | hf
    · obtain ⟨_, -, rfl⟩ := List.mem_map.mp hf
      exact Declared.not_guarded_of_nil rfl
    · obtain ⟨_, -, rfl⟩ := List.mem_map.mp hf
      exact Declared.not_guarded_of_nil rfl
  rw [struct, Block.released, unguarded_eq_self hnone]

end Builder

namespace Fragment

variable (cx : Context)

/-- A function of the declared type has the guard, and beside it a text and possibly lints. -/
theorem guarded_functions (f : Fragment) :
    ∀ x ∈ f.functions cx, (x.Guarded ↔ cx.guarded = true) := by
  intro x hx
  -- what else stands on a function is a doc or a lint, and neither is the guard
  cases f with
  | constructor c =>
    obtain rfl := List.mem_singleton.mp hx
    refine Declared.guarded_iff rfl fun a ha => ?_
    rcases List.mem_cons.mp ha with rfl | ha'
    · exact docContent_ne_debugCondition _
    · obtain rfl := List.mem_singleton.mp ha'
      exact lintContent_ne_debugCondition _
  | sampleAccessor a =>
    obtain rfl := List.mem_singleton.mp hx
    refine Declared.guarded_iff rfl fun a ha => ?_
    obtain rfl := List.mem_singleton.mp ha
    exact docContent_ne_debugCondition _
  | builder b => exact absurd hx List.not_mem_nil
  | factory f =>
    obtain rfl := List.mem_singleton.mp hx
    refine Declared.guarded_iff rfl fun a ha => ?_
    obtain rfl := List.mem_singleton.mp ha
    exact docContent_ne_debugCondition _

/-- An item beside the declared type is a struct or impl of the builder. Only the item as a whole is
marked, so nothing is left out inside of it. -/
theorem guarded_items (f : Fragment) :
    ∀ x ∈ f.items cx, (x.Guarded ↔ cx.guarded = true) ∧ x.item.released = x.item := by
  intro x hx
  cases f with
  | builder b =>
    simp only [items, Builder.items, List.mem_append, List.mem_cons, List.not_mem_nil, or_false,
      Option.mem_toList] at hx
    -- the struct, the `Default` impl, and the impl of `new` where there is one
    rcases hx with (rfl | rfl) | hnew
    · exact ⟨b.guarded_struct cx, b.released_struct cx⟩
    · exact ⟨b.guarded_impl cx _ _, b.released_impl cx _ rfl⟩
    · rw [Builder.newImpl?] at hnew
      split at hnew
      · obtain rfl := Option.some.inj hnew
        exact ⟨b.guarded_impl cx _ _, b.released_impl cx _ rfl⟩
      · simp at hnew
  | constructor c => exact absurd hx List.not_mem_nil
  | sampleAccessor a => exact absurd hx List.not_mem_nil
  | factory f => exact absurd hx List.not_mem_nil

end Fragment

/-! ## Expansions -/

namespace Expansion

variable (e : Expansion)

/-- The functions of an expansion are those of its fragments. -/
theorem guarded_functions : ∀ f ∈ e.functions, (f.Guarded ↔ e.context.guarded = true) := by
  intro f hf
  obtain ⟨fragment, -, hmem⟩ := List.mem_flatMap.mp hf
  exact fragment.guarded_functions e.context f hmem

/-- The impl of the declared type is written the same with the guard and without it. -/
theorem not_guarded_inherentImpl : ¬e.inherentImpl.Guarded := by
  intro h
  exact derivedContent_ne_debugCondition (List.mem_singleton.mp h).symm

/-- The impl of `Sampleable` has the guard. -/
theorem guarded_conformanceImpl : e.conformanceImpl.Guarded ↔ e.context.guarded = true := by
  refine Declared.guarded_iff rfl fun a ha => ?_
  obtain rfl := List.mem_singleton.mp ha
  exact derivedContent_ne_debugCondition

def others : List (Declared Block) :=
  e.fragments.flatMap (·.items e.context) ++ [e.conformanceImpl]

/-- Every item but the impl of the declared type has the guard, and nothing inside of it has one. -/
theorem guarded_others :
    ∀ x ∈ e.others, (x.Guarded ↔ e.context.guarded = true) ∧ x.item.released = x.item := by
  intro x hx
  -- an item beside the inherent impl comes from a fragment, or is the conformance
  rcases List.mem_append.mp hx with hx | hx
  · obtain ⟨fragment, -, hmem⟩ := List.mem_flatMap.mp hx
    exact fragment.guarded_items e.context x hmem
  · obtain rfl := List.mem_singleton.mp hx
    have hnone : ∀ f ∈ [Declared.mk [] .inherited sampleFunction], ¬f.Guarded := by
      intro f hf
      obtain rfl := List.mem_singleton.mp hf
      exact Declared.not_guarded_of_nil rfl
    refine ⟨e.guarded_conformanceImpl, ?_⟩
    rw [conformanceImpl, Block.released, unguarded_eq_self hnone]

def emptyImpl : Declared Block where
  attributes := [derivedContent]
  modifier := .inherited
  item := .impl e.generics.implTokens [] (e.generics.applied e.context.declaration.name.text)
    e.generics.whereTokens []

/-- What a build without debug assertions has of guarded code. -/
theorem released_items_of_guarded (h : e.context.guarded = true) :
    released e.items = [e.emptyImpl] := by
  have hothers : unguarded e.others = [] :=
    unguarded_eq_nil fun x hx => (e.guarded_others x hx).1.mpr h
  have hfunctions : unguarded e.functions = [] :=
    unguarded_eq_nil fun f hf => (e.guarded_functions f hf).mpr h
  -- of the items only the impl of the declared type stays
  have hitems : unguarded e.items = [e.inherentImpl] := by
    have hkept : unguarded (e.inherentImpl :: e.others) = e.inherentImpl :: unguarded e.others :=
      List.filter_cons_of_pos (decide_eq_true e.not_guarded_inherentImpl)
    rw [hothers] at hkept
    exact hkept
  rw [released, hitems, List.map_singleton]
  show [{ e.inherentImpl with item := e.inherentImpl.item.released }] = [e.emptyImpl]
  rw [inherentImpl, Block.released, hfunctions, emptyImpl]

/-- Without the guard all builds have the same code. -/
theorem released_items_of_not_guarded (h : e.context.guarded = false) :
    released e.items = e.items := by
  have hoff : ¬e.context.guarded = true := by simp [h]
  have hfunctions : unguarded e.functions = e.functions :=
    unguarded_eq_self fun f hf hguard => hoff ((e.guarded_functions f hf).mp hguard)
  have hinherent : e.inherentImpl.item.released = e.inherentImpl.item := by
    rw [inherentImpl, Block.released, hfunctions]
  -- the inherent impl is never guarded, the other items only with the context
  have hitems : ∀ x ∈ e.items, ¬x.Guarded ∧ x.item.released = x.item := by
    intro x hx
    rcases List.mem_cons.mp hx with rfl | hx
    · exact ⟨e.not_guarded_inherentImpl, hinherent⟩
    · obtain ⟨hguard, hreleased⟩ := e.guarded_others x hx
      exact ⟨fun hmarked => hoff (hguard.mp hmarked), hreleased⟩
  rw [released, unguarded_eq_self fun x hx => (hitems x hx).1]
  refine (List.map_congr_left fun x hx => ?_).trans (List.map_id _)
  rw [(hitems x hx).2]
  rfl

end Expansion

/-! ## Derived code -/

/-- **What is for debug builds only.** Every function of the declared type, and every item but the
impl that has these functions, is marked exactly if the guard is in force. That impl never is: it
stays in all builds, without functions but with the bounds for sampling. -/
theorem guarded_expansion (v : Deriver) {d : Declaration}
    (hkind : (∃ members, d.kind = .record members) ∨ ∃ c cs, d.kind = .taggedUnion (c :: cs)) :
    let inForce := v.guarded || d.options.debugOnly
    let g := d.generics.sampling (d.cratePath v.defaultCrate) (v.sampledTypes d)
    ∃ e, v.expand d = .ok e ∧ e.tokens = e.items.flatMap itemTokens ∧
      e.items = e.inherentImpl :: e.others ∧
      (∀ f ∈ e.inherentImpl.item.functions, (f.Guarded ↔ inForce = true)) ∧
      (∀ x ∈ e.others, (x.Guarded ↔ inForce = true)) ∧
      ¬e.inherentImpl.Guarded ∧
      released e.items =
        if inForce then
          [⟨[derivedContent], .inherited, .impl g.implTokens [] d.selfType g.whereTokens []⟩]
        else e.items := by
  intro inForce g
  obtain ⟨e, hexpand, hcx, hgenerics⟩ := v.expand_ok hkind
  have hguard : e.context.guarded = inForce := by
    rw [hcx]
    rfl
  refine ⟨e, hexpand, e.items_tokens.symm, rfl, ?_, ?_, e.not_guarded_inherentImpl, ?_⟩
  · rw [← hguard]
    exact e.guarded_functions
  · rw [← hguard]
    exact fun x hx => (e.guarded_others x hx).1
  · rw [← hguard]
    cases h : e.context.guarded with
    | false => exact e.released_items_of_not_guarded h
    | true =>
      have hself : e.generics.applied e.context.declaration.name.text = d.selfType := by
        rw [hgenerics, Generics.sampling_applied, hcx]
        rfl
      rw [e.released_items_of_guarded h, Expansion.emptyImpl, hself, hgenerics]
      rfl

/-- `#[fixture(debug_only)] struct Probe<T> { reading: T }` -/
def probeDeclaration : Declaration where
  name := ⟨"Probe", .nowhere⟩
  generics := ⟨[.type [] "T" [] false none], false, none⟩
  visibility := none
  enclosing := none
  options := ⟨none, none, true, none⟩
  kind := .record [⟨[⟨"reading", some (.named "T"), false⟩], .stored, none⟩]

/-- The functions of `Probe` are for debug builds only. -/
theorem probe_functions_guarded :
    ((∃ members, probeDeclaration.kind = .record members) ∨
        ∃ c cs, probeDeclaration.kind = .taggedUnion (c :: cs)) ∧
      ∃ e, Deriver.standard.expand probeDeclaration = .ok e ∧ e.functions.length = 3 ∧
        ∀ f ∈ e.functions, f.Guarded := by
  have hkind : (∃ members, probeDeclaration.kind = .record members) ∨
      ∃ c cs, probeDeclaration.kind = .taggedUnion (c :: cs) := .inl ⟨_, rfl⟩
  obtain ⟨e, hexpand, -, -, hfunctions, -⟩ := guarded_expansion .standard hkind
  refine ⟨hkind, e, hexpand, ?_, fun f hf => (hfunctions f hf).mpr rfl⟩
  obtain rfl := Except.ok.inj hexpand
  rfl

/-- In other builds, what is left of the code for `Probe` is an impl with a bound. -/
theorem probe_impl_remains :
    ¬ ∀ (v : Deriver) (d : Declaration),
      (∃ members, d.kind = .record members) ∨ (∃ c cs, d.kind = .taggedUnion (c :: cs)) →
        (v.guarded || d.options.debugOnly) = true →
          ∀ e, v.expand d = .ok e → (∀ x ∈ e.items, x.Guarded) ∧ released e.items = [] := by
  intro h
  obtain ⟨hguarded, -⟩ := h .standard probeDeclaration (.inl ⟨_, rfl⟩) rfl _ rfl
  exact Expansion.not_guarded_inherentImpl _ (hguarded _ List.mem_cons_self)

end Specimen
