import Specimen.Proofs.SampledTypes

/-!
# Bounds for sampling

Generated code samples types that may mention the parameters of the declaration, so its impls need
these types to be `Sampleable`. `sampling_bounds` says what the where clause of every item is: the
impls add one bound for each sampled type behind the declared predicates, the builder struct adds
none.
-/

namespace Specimen

open Token Target

/-! ## Where clauses -/

def Target.clauseTokens (predicates : List (List Token)) (trailing : Bool) : List Token :=
  if predicates.isEmpty then [] else ident "where" :: punctuated (sym ",") predicates trailing

/-- `T: K::Sampleable` -/
def Target.boundTokens (crate : Path) (ty : Ty) : List Token :=
  ty.tokens ++ sym ":" ++ (crate.join "Sampleable").tokens

/-- Pushing bounds leaves a comma at the end only if there are no bounds. -/
theorem trailing_foldl_push (crate : Path) (sampled : List Ty) (w : WhereClause) :
    (sampled.foldl (fun w ty => w.push (.sampleable crate ty)) w).trailing =
      (w.trailing && sampled.isEmpty) := by
  induction sampled generalizing w with
  | nil => simp
  | cons ty tys ih =>
    -- the first push takes the comma at the end away, and no later one brings it back
    rw [List.foldl_cons, ih]
    simp [WhereClause.push]

namespace Generics

variable (g : Generics)

def endsInComma : Bool := (g.whereClause.map WhereClause.trailing).getD false

/-- A where clause is written as its predicates, and one without predicates not at all. -/
theorem whereTokens_eq :
    g.whereTokens = clauseTokens (g.predicates.map Predicate.tokens) g.endsInComma := by
  rw [whereTokens, predicates, endsInComma]
  cases g.whereClause with
  | none => rfl
  | some w => simp [WhereClause.tokens, clauseTokens]

/-- A clause that gets bounds loses the comma at its end. -/
theorem sampling_whereClause {g : Generics} (h : g.params ≠ []) (crate : Path)
    (sampled : List Ty) :
    (g.sampling crate sampled).whereClause =
      some ⟨g.predicates ++ sampled.map (.sampleable crate), g.endsInComma && sampled.isEmpty⟩ := by
  have hparams : g.params.isEmpty = false := List.isEmpty_eq_false_iff.mpr h
  -- pushing one predicate at a time adds the list, and the first push drops a closing comma
  have hclause (w : WhereClause) :
      sampled.foldl (fun w ty => w.push (.sampleable crate ty)) w =
        ⟨w.predicates ++ sampled.map (.sampleable crate), w.trailing && sampled.isEmpty⟩ := by
    rw [← predicates_foldl_push, ← trailing_foldl_push crate]
  rw [sampling, hparams, predicates, endsInComma]
  show some (sampled.foldl _ _) = _
  rw [hclause]
  cases g.whereClause <;> rfl

/-- How that clause is written. -/
theorem sampling_whereTokens {g : Generics} (h : g.params ≠ []) (crate : Path)
    (sampled : List Ty) :
    (g.sampling crate sampled).whereTokens =
      clauseTokens (g.predicates.map Predicate.tokens ++ sampled.map (boundTokens crate))
        (g.endsInComma && sampled.isEmpty) := by
  have hbounds : sampled.map (Predicate.tokens ∘ Predicate.sampleable crate) =
      sampled.map (boundTokens crate) :=
    List.map_congr_left fun ty _ => Predicate.sampleable_tokens crate ty
  rw [whereTokens_eq, predicates, endsInComma, sampling_whereClause h]
  show clauseTokens (List.map _ (_ ++ _)) _ = _
  rw [List.map_append, List.map_map, hbounds]
  rfl

end Generics

/-! ## Items -/

/-- An impl is written with the parameters and the where clause of `impls`, a struct with those of
`declared`. -/
def Target.Block.HeadedBy (impls declared : Generics) : Block → Prop
  | .impl params _ _ bounds _ => params = impls.implTokens ∧ bounds = impls.whereTokens
  | .struct _ params bounds _ _ => params = declared.declTokens ∧ bounds = declared.whereTokens

/-- The items of a builder have its generics, but its struct has the declared ones. -/
theorem Builder.items_headedBy (b : Builder) (cx : Context) :
    ∀ x ∈ b.items cx, x.item.HeadedBy b.generics cx.declaration.generics := by
  intro x hx
  simp only [items, List.mem_append, List.mem_cons, List.not_mem_nil, or_false,
    Option.mem_toList] at hx
  -- struct, `Default` impl, and the impl of `new` if there is one
  rcases hx with (rfl | rfl) | hnew
  · exact ⟨rfl, rfl⟩
  · exact ⟨rfl, rfl⟩
  · rw [newImpl?] at hnew
    split at hnew
    · rw [← Option.some.inj hnew]
      exact ⟨rfl, rfl⟩
    · cases hnew

/-- The expansion of a record has one builder. -/
theorem RecordScan.builder_mem_expansion (s : RecordScan) (cx : Context) (b : Builder) :
    Fragment.builder b ∈ (s.expansion cx).fragments ↔
      b = s.builder (cx.declaration.generics.sampling cx.crate s.sampled) := by
  cases h : s.hasConstructor <;> simp [expansion, h]

/-- The generics of an expansion are those of all its impls, if its builder has them too. -/
theorem Expansion.items_headedBy {e : Expansion}
    (h : ∀ b, Fragment.builder b ∈ e.fragments → b.generics = e.generics) :
    ∀ x ∈ e.items, x.item.HeadedBy e.generics e.context.declaration.generics := by
  intro x hx
  rcases List.mem_append.mp hx with hx | hx
  · rcases List.mem_cons.mp hx with rfl | hx
    · exact ⟨rfl, rfl⟩
    · obtain ⟨fragment, hfragment, hitem⟩ := List.mem_flatMap.mp hx
      -- only the builder has items of its own
      cases fragment with
      | builder b =>
        have hb := b.items_headedBy e.context x hitem
        rwa [h b hfragment] at hb
      | constructor c => cases hitem
      | sampleAccessor a => cases hitem
      | factory f => cases hitem
  · rw [List.mem_singleton.mp hx]
    exact ⟨rfl, rfl⟩

/-- The impls of a derived type have the generics for sampling, its struct the declared ones. -/
theorem Deriver.expand_headedBy {v : Deriver} {d : Declaration} {e : Expansion}
    (h : v.expand d = .ok e) : ∀ x ∈ e.items, x.item.HeadedBy e.generics d.generics := by
  obtain ⟨members, -, rfl⟩ | ⟨c, cs, -, rfl⟩ := v.expand_cases h
  · refine Expansion.items_headedBy fun b hb => ?_
    rw [(RecordScan.builder_mem_expansion _ _ b).mp hb]
    rfl
  · refine Expansion.items_headedBy fun b hb => ?_
    -- a tagged union has no builder
    cases List.mem_singleton.mp hb

/-! ## Derived code -/

/-- **Where sampled types are bounded.** If there are parameters, the impls of a derived type have
the declared parameters and a where clause with the declared predicates and then one bound for each
sampled type. Without parameters they have the declared generics as they are, and so has the builder
struct in either case. Sampled types are those of all constructible fields, with `Self` spelled out,
or those of the values of the first case. -/
theorem sampling_bounds (v : Deriver) {d : Declaration}
    (hkind : (∃ members, d.kind = .record members) ∨ ∃ c cs, d.kind = .taggedUnion (c :: cs)) :
    let own := d.generics
    let crate := d.cratePath v.defaultCrate
    let types := v.sampledTypes d
    (∀ members, d.kind = .record members →
      types = (extract v.inherit members).fields.map fun f => f.type.replaceSelf d.selfType) ∧
    (∀ c cs, d.kind = .taggedUnion (c :: cs) → types = match c.payload with
      | .unit => []
      | .unlabeled tys => tys
      | .labeled params => params.map (·.2)) ∧
    ∃ e, v.expand d = .ok e ∧ e.tokens = e.items.flatMap itemTokens ∧ e.HasItemsOf d.kind ∧
      (∀ x ∈ e.items, x.item.HeadedBy e.generics own) ∧
      own.whereTokens = clauseTokens (own.predicates.map Predicate.tokens) own.endsInComma ∧
      (own.params = [] → e.generics = own) ∧
      (own.params ≠ [] →
        e.generics.params = own.params ∧ e.generics.trailing = own.trailing ∧
        e.generics.whereClause = some ⟨own.predicates ++ types.map (.sampleable crate),
          own.endsInComma && types.isEmpty⟩ ∧
        e.generics.whereTokens =
          clauseTokens (own.predicates.map Predicate.tokens ++ types.map (boundTokens crate))
            (own.endsInComma && types.isEmpty)) := by
  intro own crate types
  obtain ⟨e, hexpand, -, hgenerics⟩ := v.expand_ok hkind
  refine ⟨fun members h => v.sampledTypes_record h, fun c cs h => v.sampledTypes_taggedUnion h,
    e, hexpand, e.items_tokens.symm, v.expand_hasItemsOf hexpand, v.expand_headedBy hexpand,
    own.whereTokens_eq, ?_, ?_⟩
  -- without parameters nothing is added, the `where` clause included
  · intro hparams
    rw [hgenerics, Generics.sampling, show d.generics.params = [] from hparams]
    rfl
  · intro hparams
    rw [hgenerics]
    refine ⟨Generics.sampling_params _ _ _, ?_, Generics.sampling_whereClause hparams _ _,
      Generics.sampling_whereTokens hparams _ _⟩
    rw [Generics.sampling]
    split <;> rfl

/-- `pub struct Gauge<'a, T> where T: Clone, { low: T, high: &'a T = .., next: T }` -/
def gaugeDeclaration : Declaration where
  name := ⟨"Gauge", .nowhere⟩
  generics := ⟨[.lifetime [] "a" [] false, .type [] "T" [] false none], false,
    some ⟨[.type [] (.named "T") [.trait false false [] false [.plain "Clone"]] false], true⟩⟩
  visibility := some (.ofModifier .pub)
  enclosing := none
  options := ⟨some (.ofNames false ["kit"]), none, false, none⟩
  kind := .record
    [⟨[⟨"low", some (.named "T"), false⟩], .stored, some (.ofModifier .pub)⟩,
     ⟨[⟨"high", some (.reference (some "a") false (.named "T")), true⟩], .stored,
      some (.ofModifier .pub)⟩,
     ⟨[⟨"next", some (.named "T"), false⟩], .stored, some (.ofModifier .pub)⟩]

/-- `T` is sampled twice for `Gauge` and bounded twice; the comma behind the declared predicate
separates it from the first bound. -/
theorem gauge_bounds :
    ((∃ members, gaugeDeclaration.kind = .record members) ∨
        ∃ c cs, gaugeDeclaration.kind = .taggedUnion (c :: cs)) ∧
      gaugeDeclaration.generics.params ≠ [] ∧
      ∃ e, Deriver.standard.expand gaugeDeclaration = .ok e ∧ e.items.length = 5 ∧
        text e.generics.whereTokens =
          "where T : Clone , T : kit :: Sampleable , & 'a T : kit :: Sampleable , " ++
            "T : kit :: Sampleable" := by
  have hkind : (∃ members, gaugeDeclaration.kind = .record members) ∨
      ∃ c cs, gaugeDeclaration.kind = .taggedUnion (c :: cs) := .inl ⟨_, rfl⟩
  have hparams : gaugeDeclaration.generics.params ≠ [] := List.cons_ne_nil _ _
  obtain ⟨-, -, e, hexpand, -, -, -, -, -, hbounds⟩ := sampling_bounds .standard hkind
  obtain ⟨-, -, -, htokens⟩ := hbounds hparams
  refine ⟨hkind, hparams, e, hexpand, ?_, ?_⟩
  · obtain rfl := Except.ok.inj hexpand
    rfl
  · rw [htokens]
    decide

end Specimen
