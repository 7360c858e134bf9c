import Specimen.Proofs.DebugGuard

/-!
# What the debug guard changes

Code is expanded in the same way with the debug guard and without it. Where the guard is in force,
one attribute is put in front of every function of the declared type and every other item, and
`guard_only_inserts` says that this is all.
-/

namespace Specimen

open Token Target

/-! ## Attributes in front -/

namespace Target.Declared

variable {α : Type}

/-- Something with more attributes before its own. -/
def prepend (attributes : List (List Token)) (x : Declared α) : Declared α :=
  { x with attributes := attributes ++ x.attributes }

/-- Attributes are written in front of what was there. -/
theorem prepend_tokens (attributes : List (List Token)) (write : α → List Token)
    (x : Declared α) :
    (x.prepend attributes).tokens write =
      attributes.flatMap hashAttribute ++ x.tokens write := by
  rw [tokens, prepend, tokens, List.flatMap_append]
  simp only [List.append_assoc]

/-- Attributes in front of each of some things are code in front of each of their codes. -/
theorem flatMap_prepend (attributes : List (List Token)) (write : α → List Token)
    (xs : List (Declared α)) :
    (xs.map (prepend attributes)).flatMap (tokens write) =
      xs.flatMap fun x => attributes.flatMap hashAttribute ++ x.tokens write := by
  rw [List.flatMap_map]
  exact List.flatMap_congr fun x _ => x.prepend_tokens attributes write

end Target.Declared

/-! ## Contexts with the guard and without -/

def Context.unguarded (cx : Context) : Context :=
  { cx with
    guarded := false
    declaration :=
      { cx.declaration with options := { cx.declaration.options with debugOnly := false } } }

/-- The functions of a fragment have the guard in front of all other attributes. -/
theorem Fragment.functions_eq_prepend (f : Fragment) (cx : Context) :
    f.functions cx = (f.functions cx.unguarded).map (.prepend (guardAttributes cx)) := by
  cases f <;> rfl

/-- So have its items. What is inside of them has no guard of its own. -/
theorem Fragment.items_eq_prepend (f : Fragment) (cx : Context) :
    f.items cx = (f.items cx.unguarded).map (.prepend (guardAttributes cx)) := by
  cases f with
  | builder b =>
    show b.items cx = (b.items cx.unguarded).map _
    rw [Builder.items, Builder.items, Builder.newImpl?, Builder.newImpl?]
    -- the level of the builder, which decides on its named constructor, knows no guard
    split <;> rfl
  | constructor c => rfl
  | sampleAccessor a => rfl
  | factory f => rfl

/-- The code of a fragment with some tokens in front of each of its functions and items. -/
def Fragment.tokensWith (f : Fragment) (cx : Context) (front : List Token) : List Token :=
  (f.functions cx).flatMap (fun x => front ++ x.tokens Function.tokens) ++
    (f.items cx).flatMap fun x => front ++ itemTokens x

/-- The code of a fragment is that without the guard, with the guard in front of each part. -/
theorem Fragment.tokens_eq_unguarded (f : Fragment) (cx : Context) :
    f.tokens cx = f.tokensWith cx.unguarded cx.guard := by
  have hparts : f.tokens cx = (f.functions cx).flatMap (Declared.tokens Function.tokens) ++
      (f.items cx).flatMap (Declared.tokens Block.tokens) := by
    -- a fragment is either functions or items
    show _ = _ ++ (f.items cx).flatMap itemTokens
    rw [f.functions_tokens, f.items_tokens]
    cases f.kind.isMember <;> simp
  rw [hparts, f.functions_eq_prepend, f.items_eq_prepend, Declared.flatMap_prepend,
    Declared.flatMap_prepend, flatMap_guardAttributes]
  rfl

namespace Expansion

variable (e : Expansion)

def plain : Expansion := { e with context := e.context.unguarded }

/-- What holds of fragments holds of the functions of an expansion. -/
theorem functions_eq_prepend :
    e.functions = e.plain.functions.map (.prepend (guardAttributes e.context)) := by
  rw [functions, functions, List.map_flatMap]
  exact List.flatMap_congr fun f _ => f.functions_eq_prepend e.context

/-- And it holds of all items but the impl of the declared type. -/
theorem others_eq_prepend :
    e.others = e.plain.others.map (.prepend (guardAttributes e.context)) := by
  have hbeside : e.fragments.flatMap (·.items e.context) =
      (e.plain.fragments.flatMap (·.items e.plain.context)).map
        (.prepend (guardAttributes e.context)) := by
    rw [List.map_flatMap]
    exact List.flatMap_congr fun f _ => f.items_eq_prepend e.context
  rw [others, others, List.map_append, ← hbeside]
  rfl

/-- The code of an expansion with some tokens in front of each function of the declared type, and in
front of each item but the impl that has these functions. -/
def tokensWith (front : List Token) : List Token :=
  derivedAttribute ++
    implBlock e.generics.implTokens [] (e.generics.applied e.context.declaration.name.text)
      e.generics.whereTokens (e.functions.flatMap fun f => front ++ f.tokens Function.tokens) ++
    e.others.flatMap fun x => front ++ itemTokens x

/-- All that the guard adds to code stands in front of a function or an item. -/
theorem tokens_eq_plain : e.tokens = e.plain.tokensWith e.context.guard := by
  have hfunctions : e.functions.flatMap (Declared.tokens Function.tokens) =
      e.plain.functions.flatMap fun f => e.context.guard ++ f.tokens Function.tokens := by
    rw [e.functions_eq_prepend, Declared.flatMap_prepend, flatMap_guardAttributes]
  have hothers : e.others.flatMap itemTokens =
      e.plain.others.flatMap fun x => e.context.guard ++ itemTokens x := by
    show e.others.flatMap (Declared.tokens Block.tokens) = _
    rw [e.others_eq_prepend, Declared.flatMap_prepend, flatMap_guardAttributes]
    rfl
  -- the impl of the declared type is the first item, and the only one without the guard
  have hitems : e.tokens = itemTokens e.inherentImpl ++ e.others.flatMap itemTokens := by
    rw [← e.items_tokens, show e.items = e.inherentImpl :: e.others from rfl, List.flatMap_cons]
  have hinherent : itemTokens e.inherentImpl = derivedAttribute ++
      implBlock e.generics.implTokens [] (e.generics.applied e.context.declaration.name.text)
        e.generics.whereTokens (e.functions.flatMap (Declared.tokens Function.tokens)) := rfl
  rw [hitems, hinherent, hfunctions, hothers]
  rfl

/-- The impl of `Sampleable` has the guard in front. -/
theorem conformance_eq_plain : e.conformance = e.context.guard ++ e.plain.conformance := by
  rw [conformance, conformance]
  show _ = e.context.guard ++ ([] ++ _ ++ _ ++ _ ++ _ ++ _ ++ _ ++ _)
  simp only [List.append_assoc, List.nil_append]
  rfl

/-- Without the guard nothing of an expansion is for debug builds only. -/
theorem plain_not_guarded :
    (∀ f ∈ e.plain.functions, ¬f.Guarded) ∧ ∀ x ∈ e.plain.items, ¬x.Guarded := by
  have hoff : ¬e.plain.context.guarded = true := Bool.false_ne_true
  constructor
  · exact fun f hf hguarded => hoff ((e.plain.guarded_functions f hf).mp hguarded)
  · intro x hx hguarded
    rcases List.mem_cons.mp hx with rfl | hx
    · exact e.plain.not_guarded_inherentImpl hguarded
    · exact hoff ((e.plain.guarded_others x hx).1.mp hguarded)

end Expansion

/-! ## Derived code -/

def Deriver.withGuard (v : Deriver) (guarded : Bool) : Deriver := { v with guarded }

/-- The declaration with or without the option that its code is guarded. -/
def Declaration.withDebugOnly (d : Declaration) (debugOnly : Bool) : Declaration :=
  { d with options := { d.options with debugOnly } }

/-- The guard plays no part in whether and to what a declaration is expanded. -/
theorem Deriver.expand_plain (v : Deriver) (d : Declaration) (byDeriver byType : Bool) :
    (v.withGuard false).expand (d.withDebugOnly false) =
      ((v.withGuard byDeriver).expand (d.withDebugOnly byType)).map Expansion.plain := by
  obtain ⟨name, generics, visibility, enclosing, options, kind⟩ := d
  -- what is generated depends on the kind of the declaration alone
  cases kind with
  | record members => rfl
  | taggedUnion cases =>
    cases cases with
    | nil => rfl
    | cons c cs => rfl
  | unsupported kind => rfl

/-- The guard of an expansion is in force if the deriver or the type asks for it. -/
theorem Deriver.expand_guard {v : Deriver} {d : Declaration} {byDeriver byType : Bool}
    {e : Expansion} (h : (v.withGuard byDeriver).expand (d.withDebugOnly byType) = .ok e) :
    e.context.guard = if byDeriver || byType then hashAttribute debugCondition else [] := by
  obtain ⟨members, -, rfl⟩ | ⟨c, cs, -, rfl⟩ := Deriver.expand_cases h
  · rfl
  · rfl

/-- **What the guard does.** With the guard from the deriver or from the type, a declaration is
refused as without it or expanded to the same fragments, and the attribute of debug builds comes
before every function of the declared type and every other item, where it was not before. Only
whether one of the two asks for the guard matters. -/
theorem guard_only_inserts (v : Deriver) (d : Declaration) (byDeriver byType : Bool) :
    let expand (g b : Bool) := (v.withGuard g).expand (d.withDebugOnly b)
    let mark := if byDeriver || byType then hashAttribute debugCondition else []
    (∀ err, expand byDeriver byType = .error err ↔ expand false false = .error err) ∧
    (∀ e₀, expand false false = .ok e₀ → ∃ e, expand byDeriver byType = .ok e ∧
      e.fragments = e₀.fragments ∧ e.generics = e₀.generics ∧
      e.context.declaration.name = e₀.context.declaration.name ∧
      e₀.HasItemsOf d.kind ∧ (∀ f ∈ e₀.functions, ¬f.Guarded) ∧ (∀ x ∈ e₀.items, ¬x.Guarded) ∧
      (∀ f ∈ e₀.fragments, f.tokens e₀.context = f.tokensWith e₀.context [] ∧
        f.tokens e.context = f.tokensWith e₀.context mark) ∧
      e.conformance = mark ++ e₀.conformance ∧
      e₀.tokens = e₀.tokensWith [] ∧ e.tokens = e₀.tokensWith mark) ∧
    (expand byDeriver byType).map Expansion.tokens =
      (expand (byDeriver || byType) false).map Expansion.tokens := by
  intro expand mark
  -- both settings come to one run without the guard
  have hplain (g b : Bool) : expand false false = (expand g b).map Expansion.plain :=
    v.expand_plain d g b
  refine ⟨?_, ?_, ?_⟩
  · intro err
    rw [hplain byDeriver byType]
    cases expand byDeriver byType with
    | error err' => rfl
    | ok e =>
      constructor
      · intro h
        cases h
      · intro h
        cases h
  · intro e₀ he₀
    have hmap := (hplain byDeriver byType).symm.trans he₀
    cases he : expand byDeriver byType with
    | error err =>
      rw [he] at hmap
      cases hmap
    | ok e =>
      rw [he] at hmap
      obtain rfl := Except.ok.inj hmap
      have hmark : e.context.guard = mark := Deriver.expand_guard he
      have hitems : e.plain.HasItemsOf (d.withDebugOnly false).kind :=
        Deriver.expand_hasItemsOf he₀
      refine ⟨e, rfl, rfl, rfl, rfl, hitems, e.plain_not_guarded.1, e.plain_not_guarded.2, ?_, ?_,
        e.plain.tokens_eq_plain, ?_⟩
      · intro f _
        refine ⟨f.tokens_eq_unguarded e.plain.context, ?_⟩
        rw [← hmark]
        exact f.tokens_eq_unguarded e.context
      · rw [← hmark]
        exact e.conformance_eq_plain
      · rw [← hmark]
        exact e.tokens_eq_plain
  · -- both runs are the plain one with the same mark
    have hcode (g b : Bool) (h : (g || b) = (byDeriver || byType)) :
        (expand g b).map Expansion.tokens =
          (expand false false).map (·.tokensWith mark) := by
      rw [hplain g b]
      cases he : expand g b with
      | error err => rfl
      | ok e =>
        have hmark : e.context.guard = mark := by
          rw [Deriver.expand_guard he, h]
        show Except.ok e.tokens = Except.ok (e.plain.tokensWith mark)
        rw [e.tokens_eq_plain, hmark]
    rw [hcode byDeriver byType rfl, hcode (byDeriver || byType) false (Bool.or_false _)]

/-- Both the deriver and `Probe` ask for the guard, and each of its six places gets it once. -/
theorem probe_guard_inserted :
    ∃ e₀ e, (Deriver.standard.withGuard false).expand (probeDeclaration.withDebugOnly false) =
        .ok e₀ ∧
      (Deriver.standard.withGuard true).expand (probeDeclaration.withDebugOnly true) = .ok e ∧
      e₀.functions.length = 3 ∧ e₀.others.length = 3 ∧ e₀.tokens = e₀.tokensWith [] ∧
      e.tokens = e₀.tokensWith (hashAttribute debugCondition) := by
  obtain ⟨-, hinserted, -⟩ := guard_only_inserts .standard probeDeclaration true true
  obtain ⟨e, hexpand, -, -, -, -, -, -, -, -, htokens₀, htokens⟩ := hinserted _ rfl
  exact ⟨_, e, rfl, hexpand, rfl, rfl, htokens₀, htokens⟩

end Specimen
