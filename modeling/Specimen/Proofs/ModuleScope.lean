import Mathlib.Data.List.Infix
import Specimen.Proofs.EmittedModifiers
import Specimen.Proofs.MarkerName

/-!
# Where generated members can be seen

A modifier stands for a scope: the places from which a declaration can be seen. Levels only order
modifiers by kind, and all modifiers that name a module above have one level, so the narrowest level
need not be the narrowest scope. `narrowed_noWider_iff` says exactly when it is.
-/

namespace Specimen

open Target

/-! ## Scopes -/

/-- A place of code: a module of the crate, by its path from the root, or some other crate. -/
inductive Place where
  | inside (module : List String)
  | outside

/-- The places from which something can be seen: a module with all modules below, or all places. -/
inductive Scope where
  | within (module : List String)
  | everywhere
deriving DecidableEq

namespace Scope

/-- Whether something can be seen from a place. -/
def Admits : Scope → Place → Prop
  | within top, .inside m => top <+: m
  | within _, .outside => False
  | everywhere, _ => True

/-- A scope is part of another if it has no other places. -/
instance : LE Scope := ⟨fun a b => ∀ p, a.Admits p → b.Admits p⟩

theorem le_refl (a : Scope) : a ≤ a := fun _ h => h

/-- Nothing is seen from more places than all. -/
theorem le_everywhere (a : Scope) : a ≤ everywhere := fun _ _ => trivial

/-- The scope of a module is part of the scopes that can be seen from there. -/
theorem within_le {m : List String} {s : Scope} : within m ≤ s ↔ s.Admits (.inside m) := by
  constructor
  · intro h
    exact h (.inside m) (List.prefix_refl m)
  -- a scope is an initial segment of the module path, so its module speaks for all below
  · intro h p hp
    cases s with
    | everywhere => trivial
    | within top =>
      cases p with
      | outside => exact hp
      | inside n => exact List.IsPrefix.trans h hp

end Scope

/-! ## Modifiers at a module -/

def pathKeywords : List String := ["crate", "self", "super"]

/-- The module that is reached from a module by going down. -/
def descend (m names : List String) : Option (List String) :=
  if names.any pathKeywords.contains then none else some (m ++ names.map bareName)

/-- The module that is reached by going up as long as the path says so. -/
def climb (m : List String) : List String → Option (List String)
  | "super" :: rest => if m.isEmpty then none else climb m.dropLast rest
  | rest => descend m rest

/-- The module that a path means in a module. -/
def resolve (m : List String) : List String → Option (List String)
  | "crate" :: rest => descend [] rest
  | "self" :: rest => climb m rest
  | "super" :: rest => climb m ("super" :: rest)
  | _ => none

@[simp] theorem resolve_crate (m : List String) : resolve m ["crate"] = some [] := rfl

@[simp] theorem resolve_self (m : List String) : resolve m ["self"] = some m := by
  simp [resolve, climb, descend]

namespace Modifier

/-- The scope that a modifier means in a module, if it means one. -/
def scope? (m : List String) : Modifier → Option Scope
  | inherited => some (.within m)
  | pub => some .everywhere
  | restricted _ true _ => none
  | restricted _ false names => (resolve m names).map .within

/-- A modifier names its own module or one above it, or it names none. -/
def ResolvesAt (m : List String) (a : Modifier) : Prop :=
  ∃ s, a.scope? m = some s ∧ s.Admits (.inside m)

/-- What one modifier lets see is no more than what the other lets see. -/
def NoWider (m : List String) (a b : Modifier) : Prop :=
  ∃ s t, a.scope? m = some s ∧ b.scope? m = some t ∧ s ≤ t

/-- What a level says about the scope of a modifier that resolves. -/
def LevelScope (m : List String) : Level → Scope → Prop
  | .own, s => s = .within m
  | .ancestor, s => ∃ top, s = .within top ∧ top <+: m
  | .crate, s => s = .within []
  | .workspace, _ => False
  | .everywhere, s => s = .everywhere

/-- **Levels and scopes.** Only the level of modules above leaves a choice of scope. -/
theorem levelScope {m : List String} {a : Modifier} {s : Scope} (hs : a.scope? m = some s)
    (hm : s.Admits (.inside m)) : LevelScope m a.level s := by
  cases a with
  | inherited =>
    simp only [scope?, Option.some.injEq] at hs
    exact hs.symm
  | pub =>
    simp only [scope?, Option.some.injEq] at hs
    exact hs.symm
  | restricted explicit rooted names =>
    -- a path from the root of all crates names no module
    cases rooted with
    | true => simp [scope?] at hs
    | false =>
      simp only [scope?, Option.map_eq_some_iff] at hs
      obtain ⟨top, htop, rfl⟩ := hs
      -- `crate` and `self` are the paths with a level of their own
      by_cases hc : names = ["crate"]
      · subst hc
        rw [resolve_crate] at htop
        rw [← Option.some.inj htop]
        rfl
      · by_cases hself : names = ["self"]
        · subst hself
          rw [resolve_self] at htop
          rw [← Option.some.inj htop]
          rfl
        · have hlevel : (restricted explicit false names).level = .ancestor := by
            unfold level
            split <;> simp_all
          rw [hlevel]
          exact ⟨top, rfl, hm⟩

/-- Nothing that resolves has less scope than the module itself. -/
theorem noWider_of_own {m : List String} {a b : Modifier} (ha : a.ResolvesAt m)
    (hb : b.ResolvesAt m) (hown : a.level = .own) : a.NoWider m b := by
  obtain ⟨s, hs, hms⟩ := ha
  obtain ⟨t, ht, hmt⟩ := hb
  have hscope := levelScope hs hms
  rw [hown] at hscope
  refine ⟨s, t, hs, ht, ?_⟩
  rw [show s = .within m from hscope]
  exact Scope.within_le.mpr hmt

/-- A modifier reaches as far as itself, once it means a scope. -/
theorem noWider_refl {m : List String} {a : Modifier} (ha : a.ResolvesAt m) : a.NoWider m a := by
  obtain ⟨s, hs, _⟩ := ha
  exact ⟨s, s, hs, hs, s.le_refl⟩

/-- Up to the level of the crate, scopes lie within the crate. -/
theorem LevelScope.le_crate {m : List String} {l : Level} {s : Scope} (h : LevelScope m l s)
    (hle : l ≤ .crate) : s ≤ .within [] := by
  -- the crate's scope holds every module's, and the two levels above are excluded or empty
  cases l with
  | own =>
    rw [show s = .within m from h]
    exact Scope.within_le.mpr List.nil_prefix
  | ancestor =>
    obtain ⟨top, rfl, _⟩ := h
    exact Scope.within_le.mpr List.nil_prefix
  | crate =>
    rw [show s = .within [] from h]
    exact Scope.le_refl _
  | workspace => exact h.elim
  | everywhere =>
    rw [Level.le_def] at hle
    exact absurd hle (by decide)

/-- A narrower level has no wider scope; nor has the same level, unless it is that of modules
above. -/
theorem noWider_of_level {m : List String} {a b : Modifier} (ha : a.ResolvesAt m)
    (hb : b.ResolvesAt m) (hle : a.level ≤ b.level)
    (hne : a.level = .ancestor → b.level ≠ .ancestor) : a.NoWider m b := by
  by_cases hown : a.level = .own
  · exact noWider_of_own ha hb hown
  · obtain ⟨s, hs, hms⟩ := ha
    obtain ⟨t, ht, hmt⟩ := hb
    have hsl := levelScope hs hms
    have htl := levelScope ht hmt
    refine ⟨s, t, hs, ht, ?_⟩
    cases hbl : b.level with
    | own =>
      -- nothing is narrower than the own module
      rw [hbl] at hle
      exact absurd (Level.eq_own_of_le hle) hown
    | ancestor =>
      -- only the own module is narrower than the modules above
      rw [hbl] at hle
      exact absurd hbl (hne (Level.eq_ancestor_of_le hle hown))
    | crate =>
      rw [hbl] at htl hle
      rw [show t = .within [] from htl]
      exact hsl.le_crate hle
    | workspace =>
      rw [hbl] at htl
      exact htl.elim
    | everywhere =>
      rw [hbl] at htl
      rw [show t = .everywhere from htl]
      exact Scope.le_everywhere s

end Modifier

/-! ## The modifiers of a record -/

namespace Visibility

/-- A visibility as source has it: the level is that of the written modifier. -/
def Written (v : Visibility) : Prop := v = .ofModifier v.modifier

theorem written_ofModifier (m : Modifier) : (ofModifier m).Written := rfl

/-- A written visibility cannot claim another level than its modifier has. -/
theorem Written.level_modifier {v : Visibility} (h : v.Written) : v.modifier.level = v.level := by
  rw [h]
  rfl

end Visibility

/-- A visibility that is stated is a written one. -/
def WrittenIfAny (v : Option Visibility) : Prop := (v.getD .unstated).Written

/-- An unstated visibility is compared like the one that is written for it. -/
theorem level_of_writtenIfAny {v : Option Visibility} (h : WrittenIfAny v) :
    (v.getD .unstated).modifier.level = Visibility.levelOf v := by
  rw [h.level_modifier, Visibility.levelOf_getD]

namespace RecordScan

/-- The modifiers that stand between the outside and the fields of a record: that of the type and
those of its constructible fields. -/
def barriers (s : RecordScan) : List Modifier :=
  s.typeVisibility.modifier :: s.fields.map fun f => (f.visibility.getD .unstated).modifier

end RecordScan

def Declaration.candidates (d : Declaration) (inherit : Bool) (members : List Member) :
    List (Option Visibility) :=
  d.typeVisibility :: (extract inherit members).fields.map (·.visibility)

/-- A scan compares the visibilities of its barriers, in the same order. -/
theorem Declaration.scan_barriers (d : Declaration) (inherit : Bool) (members : List Member) :
    (d.scan inherit members).barriers =
      (d.candidates inherit members).map fun v => (v.getD .unstated).modifier := by
  simp [RecordScan.barriers, candidates, scan, spelledFields, Function.comp_def]

/-- All visibilities of a record from source are written modifiers. -/
theorem Declaration.written_candidates {item : Item} {d : Declaration} {members : List Member}
    (h : Declaration.ofItem item = .ok d) (hkind : d.kind = .record members) (inherit : Bool) :
    ∀ v ∈ d.candidates inherit members, WrittenIfAny v := by
  intro v hv
  rcases List.mem_cons.mp hv with rfl | hfield
  · obtain ⟨-, -, -, -, hvis, henc⟩ := Declaration.ofItem_ok h
    rw [typeVisibility, hvis, henc]
    -- with a scope around it or without, the visibility is one of two written modifiers
    cases d.options.enclosing with
    | none => exact Visibility.written_ofModifier _
    | some m =>
      simp only [Option.map_some]
      split <;> exact Visibility.written_ofModifier _
  · obtain ⟨g, hg, rfl⟩ := List.mem_map.mp hfield
    obtain ⟨f, _, _, _, hvis⟩ := Declaration.exists_namedField h hkind inherit hg
    rw [hvis]
    exact Visibility.written_ofModifier _

/-- The modifier that generation takes is the first of the lowest level. -/
theorem Declaration.scan_effective {d : Declaration} {inherit : Bool} {members : List Member}
    (hw : ∀ v ∈ d.candidates inherit members, WrittenIfAny v) :
    ∃ before m after, (d.scan inherit members).barriers = before ++ m :: after ∧
      (d.scan inherit members).effective.modifier = m ∧
      (∀ a ∈ before, m.level < a.level) ∧ ∀ a ∈ after, m.level ≤ a.level := by
  obtain ⟨before, w, after, heq, heff, hbefore, hafter⟩ :=
    Visibility.narrowest_split d.typeVisibility
      ((extract inherit members).fields.map (·.visibility))
  -- the same split, seen through the modifiers
  have hmem : ∀ v ∈ before ++ w :: after, WrittenIfAny v := by
    rw [← heq]
    exact hw
  have hlevel : ∀ v ∈ before ++ w :: after,
      (v.getD .unstated).modifier.level = Visibility.levelOf v :=
    fun v hv => level_of_writtenIfAny (hmem v hv)
  have hlw := hlevel w (by simp)
  refine ⟨before.map fun v => (v.getD .unstated).modifier, (w.getD .unstated).modifier,
    after.map fun v => (v.getD .unstated).modifier, ?_, ?_, ?_, ?_⟩
  · rw [scan_barriers, candidates, heq]
    simp
  · show (Visibility.narrowest _ _).modifier = _
    rw [heff]
  · intro a ha
    obtain ⟨v, hv, rfl⟩ := List.mem_map.mp ha
    rw [hlw, hlevel v (by simp [hv])]
    exact hbefore v hv
  · intro a ha
    obtain ⟨v, hv, rfl⟩ := List.mem_map.mp ha
    rw [hlw, hlevel v (by simp [hv])]
    exact hafter v hv

/-- The modifiers in front of what shows field types: the constructor, the factory, the builder and
each of its fields. `RecordScan.narrowed_perm_written` says where they are written. -/
def Fragment.narrowed : Fragment → List Modifier
  | sampleAccessor _ => []
  | builder b => (builder b).modifier :: b.seeds.map fun _ => b.visibility.modifier
  | f => [f.modifier]

/-- All narrowed modifiers of a record are the same one. -/
theorem RecordScan.narrowed_expansion (s : RecordScan) (cx : Context) (p : Modifier → Prop) :
    (∀ f ∈ (s.expansion cx).fragments, ∀ m ∈ f.narrowed, p m) ↔ p s.effective.modifier := by
  constructor
  · intro h
    -- the factory is among the fragments of every record, so it speaks for the others
    have hfactory : Fragment.factory s.factory ∈ (s.expansion cx).fragments := by simp [expansion]
    exact h _ hfactory s.effective.modifier List.mem_cons_self
  · intro h f hf m hm
    have hm' : m = s.effective.modifier := by
      simp only [expansion, List.mem_append, List.mem_cons, List.not_mem_nil, or_false] at hf
      -- constructor, accessor, builder, factory; the accessor carries none
      rcases hf with hc | rfl | rfl | rfl
      · split at hc
        · rw [List.mem_singleton] at hc
          subst hc
          exact List.mem_singleton.mp hm
        · simp at hc
      · simp [Fragment.narrowed] at hm
      · simp only [Fragment.narrowed, List.mem_cons, List.mem_map] at hm
        rcases hm with rfl | ⟨_, _, rfl⟩
        · rfl
        · rfl
      · exact List.mem_singleton.mp hm
    rw [hm']
    exact h

/-- The modifiers that stand in some items in front of the constructor and the factory, and of
structs and their fields with some names. -/
def Target.writtenModifiers (fields : List String) (items : List (Declared Block)) :
    List Modifier :=
  ((functionModifiers items).filter (·.1 ∈ ["fixture_new", "fixture_with"])).map (·.2) ++
    (structModifiers items).flatMap fun x => x.1 :: (x.2.filter (·.1 ∈ fields)).map (·.2)

/-- What is written for a record: `fixture_new` if there is a constructor, `fixture_with`, and the
builder with one field for each constructible field. -/
theorem RecordScan.writtenModifiers_expansion (s : RecordScan) (cx : Context) :
    writtenModifiers (s.fields.map (·.name)) (s.expansion cx).items =
      (if s.hasConstructor then [s.effective.modifier] else []) ++ [s.effective.modifier] ++
        s.effective.modifier :: s.fields.map fun _ => s.effective.modifier := by
  let m := s.effective.modifier
  let names := s.fields.map (·.name)
  have hfunctions : ((functionModifiers (s.expansion cx).items).filter
      (·.1 ∈ ["fixture_new", "fixture_with"])).map (·.2) =
        (if s.hasConstructor then [m] else []) ++ [m] := by
    rw [s.functionModifiers_expansion]
    cases s.hasConstructor <;> split <;> simp [m]
  have hfields : (names.map (·, m)).filter (·.1 ∈ names) = names.map (·, m) := by
    refine List.filter_eq_self.mpr fun x hx => ?_
    obtain ⟨name, hname, rfl⟩ := List.mem_map.mp hx
    exact decide_eq_true hname
  -- the marker is called like no field, so nothing else is left of the struct
  have hmarker : (if cx.declaration.generics.params.isEmpty then []
      else [(markerName names, Modifier.inherited)]).filter (·.1 ∈ names) = [] := by
    obtain ⟨k, -, hname, hfree, -⟩ := markerName_spec names
    split
    · rfl
    · exact List.filter_cons_of_neg (by simpa [hname] using hfree)
  rw [writtenModifiers, hfunctions, s.structModifiers_expansion, List.flatMap_singleton,
    List.filter_append, hfields, hmarker, List.append_nil, List.map_map, List.map_map]
  rfl

/-- **Narrowed modifiers** are those in front of the written constructor, factory, builder and
builder fields, each as often as it stands there. -/
theorem RecordScan.narrowed_perm_written (s : RecordScan) (cx : Context) :
    ((s.expansion cx).fragments.flatMap Fragment.narrowed).Perm
      (writtenModifiers (s.fields.map (·.name)) (s.expansion cx).items) := by
  have hfragments : (s.expansion cx).fragments.flatMap Fragment.narrowed =
      (if s.hasConstructor then [s.effective.modifier] else []) ++
        ((s.effective.modifier :: s.fields.map fun _ => s.effective.modifier) ++
          [s.effective.modifier]) := by
    have hseeds : ((s.builderIn cx).seeds.map fun _ => s.effective.modifier) =
        s.fields.map fun _ => s.effective.modifier := List.map_map
    rw [← hseeds]
    cases h : s.hasConstructor <;> simp only [expansion, h] <;> rfl
  -- the builder is generated before the factory, but is written behind all functions
  rw [hfragments, s.writtenModifiers_expansion, List.append_assoc]
  exact List.perm_append_comm.append_left _

/-! ## When nothing is widened -/

def namingAbove (ms : List Modifier) : List Modifier := ms.filter (·.level = .ancestor)

theorem mem_namingAbove {ms : List Modifier} {a : Modifier} :
    a ∈ namingAbove ms ↔ a ∈ ms ∧ a.level = .ancestor := by
  rw [namingAbove, List.mem_filter, decide_eq_true_iff]

/-- The first of the lowest level is the first that names a module above, if that is its level. -/
theorem namingAbove_of_first {before after : List Modifier} {m : Modifier}
    (hbefore : ∀ a ∈ before, m.level < a.level) (hm : m.level = .ancestor) :
    namingAbove (before ++ m :: after) = m :: namingAbove after := by
  have hnone : namingAbove before = [] := by
    rw [List.eq_nil_iff_forall_not_mem]
    intro a ha
    obtain ⟨hmem, hlevel⟩ := mem_namingAbove.mp ha
    have hlt := hbefore a hmem
    rw [hm, hlevel] at hlt
    exact Nat.lt_irrefl _ hlt
  rw [namingAbove, List.filter_append]
  show namingAbove before ++ _ = _
  rw [hnone, List.nil_append]
  exact List.filter_cons_of_pos (decide_eq_true_iff.mpr hm)

/-- **The first of the lowest level and its scope.** It is no wider than any other exactly if one of
them is private, or if the first that names a module above is no wider than the others that do. -/
theorem first_noWider_iff {M : List String} {before after : List Modifier} {m : Modifier}
    (hres : ∀ a ∈ before ++ m :: after, a.ResolvesAt M)
    (hbefore : ∀ a ∈ before, m.level < a.level) (hafter : ∀ a ∈ after, m.level ≤ a.level) :
    (∀ a ∈ before ++ m :: after, m.NoWider M a) ↔
      (∃ a ∈ before ++ m :: after, a.level = .own) ∨
        ∀ first rest, namingAbove (before ++ m :: after) = first :: rest →
          ∀ a ∈ rest, first.NoWider M a := by
  have hmem : m ∈ before ++ m :: after := by simp
  have hmin : ∀ a ∈ before ++ m :: after, m.level ≤ a.level := by
    intro a ha
    rcases List.mem_append.mp ha with hb | hc
    · exact Nat.le_of_lt (hbefore a hb)
    · rcases List.mem_cons.mp hc with rfl | ha'
      · exact Nat.le_refl _
      · exact hafter a ha'
  constructor
  · intro hall
    by_cases hown : ∃ a ∈ before ++ m :: after, a.level = .own
    · exact .inl hown
    · refine .inr fun first rest hties a ha => ?_
      have hsub : ∀ b ∈ first :: rest, b ∈ before ++ m :: after ∧ b.level = .ancestor := by
        intro b hb
        rw [← hties] at hb
        exact mem_namingAbove.mp hb
      -- nothing is private, so the lowest level is that of modules above
      have hm : m.level = .ancestor := by
        have hle := hmin first (hsub first List.mem_cons_self).1
        rw [(hsub first List.mem_cons_self).2] at hle
        exact Level.eq_ancestor_of_le hle fun h => hown ⟨m, hmem, h⟩
      rw [namingAbove_of_first hbefore hm] at hties
      rw [← (List.cons.inj hties).1]
      exact hall a (hsub a (List.mem_cons_of_mem _ ha)).1
  · rintro (⟨b, hb, hown⟩ | hties)
    · -- next to a private one the chosen modifier is private too
      have hm : m.level = .own := by
        have hle := hmin b hb
        rw [hown] at hle
        exact Level.eq_own_of_le hle
      exact fun a ha => Modifier.noWider_of_own (hres m hmem) (hres a ha) hm
    · intro a ha
      by_cases htie : m.level = .ancestor ∧ a.level = .ancestor
      · have hin : a ∈ m :: namingAbove after := by
          rw [← namingAbove_of_first hbefore htie.1]
          exact mem_namingAbove.mpr ⟨ha, htie.2⟩
        rcases List.mem_cons.mp hin with rfl | hrest
        · exact Modifier.noWider_refl (hres a ha)
        · exact hties m _ (namingAbove_of_first hbefore htie.1) a hrest
      · exact Modifier.noWider_of_level (hres m hmem) (hres a ha) (hmin a ha)
          fun hm hl => htie ⟨hm, hl⟩

/-- **Generated members and scopes.** The narrowed modifiers of an expansion are those in front of
the written constructor, factory, builder and builder fields. At a module where the modifiers of the
record resolve, none of them reaches further than the type or a constructible field, exactly if one
of those is private to the module, or the first one that names a module above reaches no further
than the others that do. -/
theorem narrowed_noWider_iff (v : Deriver) {item : Item} {d : Declaration} {members : List Member}
    (h : Declaration.ofItem item = .ok d) (hkind : d.kind = .record members) {M : List String}
    (hres : ∀ a ∈ (d.scan v.inherit members).barriers, a.ResolvesAt M) :
    let s := d.scan v.inherit members
    let e := s.expansion (.ofDeclaration v d)
    v.expand d = .ok e ∧ e.tokens = e.items.flatMap itemTokens ∧
      (e.fragments.flatMap Fragment.narrowed).Perm
        (writtenModifiers (s.fields.map (·.name)) e.items) ∧
      ((∀ f ∈ e.fragments, ∀ m ∈ f.narrowed, ∀ a ∈ s.barriers, m.NoWider M a) ↔
        (∃ a ∈ s.barriers, a.level = .own) ∨
          ∀ first rest, namingAbove s.barriers = first :: rest →
            ∀ a ∈ rest, first.NoWider M a) := by
  intro s e
  refine ⟨v.expand_record hkind, e.items_tokens.symm, s.narrowed_perm_written _, ?_⟩
  obtain ⟨before, m, after, hbarriers, heff, hbefore, hafter⟩ :=
    Declaration.scan_effective (Declaration.written_candidates h hkind v.inherit)
  rw [s.narrowed_expansion _ fun m => ∀ a ∈ s.barriers, m.NoWider M a, heff, hbarriers]
  rw [hbarriers] at hres
  exact first_noWider_iff hres hbefore hafter

/-- `pub struct Pair { first x: u8, second y: u8 }` -/
def pairItem (first second : Modifier) : Item where
  attributes := []
  modifier := .pub
  name := ⟨"Pair", .nowhere⟩
  generics := .empty
  body := .record (.named
    [⟨[], first, ⟨"x", .nowhere⟩, .named "u8", .nowhere⟩,
     ⟨[], second, ⟨"y", .nowhere⟩, .named "u8", .nowhere⟩])

def pairMembers (first second : Modifier) : List Member :=
  [⟨[⟨"x", some (.named "u8"), false⟩], .stored, some (.ofModifier first)⟩,
   ⟨[⟨"y", some (.named "u8"), false⟩], .stored, some (.ofModifier second)⟩]

def pairDeclaration (first second : Modifier) : Declaration where
  name := ⟨"Pair", .nowhere⟩
  generics := .empty
  visibility := some (.ofModifier .pub)
  enclosing := none
  options := ⟨none, none, false, none⟩
  kind := .record (pairMembers first second)

/-- `Pair` is lowered without looking at its modifiers. -/
theorem ofItem_pairItem (first second : Modifier) :
    Declaration.ofItem (pairItem first second) = .ok (pairDeclaration first second) := rfl

def inA : Modifier := .restricted true false ["crate", "a"]

theorem barriers_pair (first second : Modifier) :
    ((pairDeclaration first second).scan true (pairMembers first second)).barriers =
      [.pub, first, second] := rfl

/-- In `a::b::c`, both modifiers name a module above. -/
theorem resolvesAt_pair : ∀ a ∈ [Modifier.pub, inA, .parent], a.ResolvesAt ["a", "b", "c"] := by
  simp only [List.forall_mem_cons, List.not_mem_nil, false_imp_iff, implies_true, and_true]
  exact ⟨⟨.everywhere, rfl, trivial⟩, ⟨.within ["a"], rfl, ["b", "c"], rfl⟩,
    ⟨.within ["a", "b"], rfl, ["c"], rfl⟩⟩

/-- With the narrower scope first, nothing is widened. -/
theorem narrow_first_noWider :
    let d := pairDeclaration .parent inA
    let s := d.scan true (pairMembers .parent inA)
    Declaration.ofItem (pairItem .parent inA) = .ok d ∧
      d.kind = .record (pairMembers .parent inA) ∧
      (∀ a ∈ s.barriers, a.ResolvesAt ["a", "b", "c"]) ∧
      ∀ f ∈ (s.expansion (.ofDeclaration .standard d)).fragments, ∀ m ∈ f.narrowed,
        ∀ a ∈ s.barriers, m.NoWider ["a", "b", "c"] a := by
  intro d s
  have hres : ∀ a ∈ s.barriers, a.ResolvesAt ["a", "b", "c"] := by
    intro a ha
    apply resolvesAt_pair a
    rw [barriers_pair] at ha
    simpa [or_comm] using ha
  refine ⟨ofItem_pairItem .parent inA, rfl, hres, ?_⟩
  obtain ⟨-, -, -, hnarrowed⟩ :=
    narrowed_noWider_iff .standard (ofItem_pairItem .parent inA) rfl hres
  refine hnarrowed.mpr (.inr ?_)
  intro first rest hfilter a ha
  have hties : namingAbove s.barriers = [.parent, inA] := by decide
  obtain ⟨rfl, rfl⟩ := List.cons.inj (hfilter.symm.trans hties)
  rw [List.mem_singleton] at ha
  subst ha
  exact ⟨.within ["a", "b"], .within ["a"], rfl, rfl, Scope.within_le.mpr ⟨["b"], rfl⟩⟩

/-- With the wider scope first, the members of `Pair` reach further than its second field. -/
theorem wide_first_widens :
    ¬ ∀ (v : Deriver) (item : Item) (d : Declaration) (members : List Member) (M : List String),
      Declaration.ofItem item = .ok d → d.kind = .record members →
        (∀ a ∈ (d.scan v.inherit members).barriers, a.ResolvesAt M) →
          ∀ f ∈ ((d.scan v.inherit members).expansion (.ofDeclaration v d)).fragments,
            ∀ m ∈ f.narrowed, ∀ a ∈ (d.scan v.inherit members).barriers, m.NoWider M a := by
  intro h
  have hpair := h .standard (pairItem inA .parent) _ _ ["a", "b", "c"]
    (ofItem_pairItem inA .parent) rfl resolvesAt_pair
  -- everything is written with the first field's modifier
  have hall := (RecordScan.narrowed_expansion _ _
    fun m => ∀ a ∈ RecordScan.barriers _, m.NoWider ["a", "b", "c"] a).mp hpair
  have hwidened : inA.NoWider ["a", "b", "c"] .parent := hall .parent (by decide)
  obtain ⟨a, b, ha, hb, hle⟩ := hwidened
  -- but `a` has modules outside of `a::b`
  have ha' : Scope.within ["a"] = a := Option.some.inj ha
  have hb' : Scope.within ["a", "b"] = b := Option.some.inj hb
  rw [← ha', ← hb'] at hle
  have hprefix : ["a", "b"] <+: ["a"] := Scope.within_le.mp hle
  have hlength := hprefix.length_le
  simp at hlength

end Specimen
