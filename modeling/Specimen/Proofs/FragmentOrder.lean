import Specimen.Proofs.Target.Reading

/-!
# Where fragments are written

An expansion holds its fragments in one list and writes them at two places: members inside of the
impl of the declared type, builders beside it. `Expansion.Writes` says what it means that each
fragment is written once, in order and at its place. `fragments_in_order` says that every expansion
is written so, whatever its fragments are, and which fragments the expansion of a declaration has.
-/

namespace Specimen

open Token Target

/-! ## Two places -/

/-- The code of an expansion has some of its fragments inside of the impl of the declared type, the
others behind that impl, and the impl of `Sampleable` at the end. -/
structure Expansion.Writes (e : Expansion) (inside beside : List Fragment) : Prop where
  /-- What is inside can be a member of a type. -/
  members : ∀ f ∈ inside, f.kind ≠ .builder
  builders : ∀ f ∈ beside, f.kind = .builder
  /-- At both places fragments keep their order. -/
  insideOrder : inside.Sublist e.fragments
  besideOrder : beside.Sublist e.fragments
  /-- No fragment is lost or written twice. -/
  once : (inside ++ beside).Perm e.fragments
  tokens : e.tokens =
    derivedAttribute ++
      implBlock e.generics.implTokens [] (e.generics.applied e.context.declaration.name.text)
        e.generics.whereTokens (inside.flatMap (·.tokens e.context)) ++
      beside.flatMap (·.tokens e.context) ++ e.conformance

/-- A part of a list in which the others have no place is what the list has of its kind. -/
theorem eq_filter_of_perm {α : Type} {p : α → Bool} {part others whole : List α}
    (horder : part.Sublist whole) (honce : (part ++ others).Perm whole)
    (hpart : ∀ x ∈ part, p x = true) (hothers : ∀ x ∈ others, p x = false) :
    part = whole.filter p := by
  have hkept : (part ++ others).filter p = part := by
    rw [List.filter_append, List.filter_eq_self.mpr hpart, List.filter_eq_nil_iff.mpr,
      List.append_nil]
    simpa using hothers
  -- `part` keeps its order and has the length of the filtered list, so it is that list
  have hsublist : part.Sublist (whole.filter p) := by
    rw [← List.filter_eq_self.mpr hpart]
    exact horder.filter p
  have hlength := (honce.filter p).length_eq
  rw [hkept] at hlength
  exact hsublist.eq_of_length hlength

namespace Expansion

/-- An expansion is written with its members inside and its builders beside. -/
theorem writes_filter (e : Expansion) :
    e.Writes (e.fragments.filter (·.kind.isMember)) (e.fragments.filter (!·.kind.isMember)) where
  members f hf := by
    have hmember := (List.mem_filter.mp hf).2
    simpa [FragmentKind.isMember] using hmember
  builders f hf := by
    have hother := (List.mem_filter.mp hf).2
    simpa [FragmentKind.isMember] using hother
  insideOrder := List.filter_sublist
  besideOrder := List.filter_sublist
  once := List.filter_append_perm _ _
  tokens := by
    -- the inherent impl, written out around the members' tokens
    have hinherent : e.inherent = derivedAttribute ++
        implBlock e.generics.implTokens [] (e.generics.applied e.context.declaration.name.text)
          e.generics.whereTokens (e.tokensOf (·.isMember)) := by
      rw [← inherentImpl_tokens, itemTokens, Declared.tokens, inherentImpl, Block.tokens,
        functions_tokens, List.flatMap_singleton]
      rfl
    rw [Expansion.tokens, hinherent]
    rfl

/-- Fragments are written at their places in one way only. -/
theorem Writes.eq_filter {e : Expansion} {inside beside : List Fragment}
    (h : e.Writes inside beside) :
    inside = e.fragments.filter (·.kind.isMember) ∧
      beside = e.fragments.filter (!·.kind.isMember) := by
  have hinside : ∀ f ∈ inside, f.kind.isMember = true := fun f hf => by
    simpa [FragmentKind.isMember] using h.members f hf
  have hbeside : ∀ f ∈ beside, f.kind.isMember = false := fun f hf => by
    simpa [FragmentKind.isMember] using h.builders f hf
  constructor
  · exact eq_filter_of_perm h.insideOrder h.once hinside hbeside
  -- the same lemma with the two lists exchanged
  · refine eq_filter_of_perm h.besideOrder (List.perm_append_comm.trans h.once) ?_ ?_
    · simpa using hbeside
    · simpa using hinside

/-! ## One more fragment -/

def withFragments (e : Expansion) (fragments : List Fragment) : Expansion := { e with fragments }

variable (e : Expansion) (xs ys : List Fragment) (f : Fragment)

/-- At either place fragments are written one list after the other. -/
theorem tokensOf_withFragments_append (keep : FragmentKind → Bool) :
    (e.withFragments (xs ++ ys)).tokensOf keep =
      (e.withFragments xs).tokensOf keep ++ (e.withFragments ys).tokensOf keep := by
  simp [tokensOf, withFragments]

/-- A fragment writes its own tokens at one place and nothing at the other. -/
theorem tokensOf_withFragments_cons (keep : FragmentKind → Bool) :
    (e.withFragments (f :: ys)).tokensOf keep =
      (if keep f.kind then f.tokens e.context else []) ++ (e.withFragments ys).tokensOf keep := by
  cases hkeep : keep f.kind <;> simp [tokensOf, withFragments, hkeep]

def opened : List Token :=
  derivedAttribute ++ [ident "impl"] ++ e.generics.implTokens ++ e.target ++ [opening .brace]

/-- Which fragments there are matters between the braces and behind them only. -/
theorem tokens_withFragments (fragments : List Fragment) :
    (e.withFragments fragments).tokens =
      e.opened ++ (e.withFragments fragments).tokensOf (·.isMember) ++ [closing .brace] ++
        (e.withFragments fragments).tokensOf (!·.isMember) ++ e.conformance := by
  have hbraces (body : List Token) : braces body = [opening .brace] ++ body ++ [closing .brace] :=
    rfl
  show derivedAttribute ++ [ident "impl"] ++ e.generics.implTokens ++ e.target ++ braces _ ++ _ ++
    e.conformance = _
  rw [hbraces, opened]
  simp only [List.append_assoc]

/-- **One more fragment** puts its tokens in at one place and leaves everything else alone. -/
theorem tokens_insert :
    ∃ before after, (e.withFragments (xs ++ ys)).tokens = before ++ after ∧
      (e.withFragments (xs ++ f :: ys)).tokens = before ++ f.tokens e.context ++ after := by
  let part (fragments : List Fragment) (keep : FragmentKind → Bool) :=
    (e.withFragments fragments).tokensOf keep
  cases hkind : f.kind.isMember with
  | true =>
    -- a member comes in between the members before and after it
    refine ⟨e.opened ++ part xs (·.isMember),
      part ys (·.isMember) ++ [closing .brace] ++ part (xs ++ ys) (!·.isMember) ++ e.conformance,
      ?_, ?_⟩ <;>
    simp [part, tokens_withFragments, tokensOf_withFragments_append, tokensOf_withFragments_cons,
      hkind]
  | false =>
    refine ⟨e.opened ++ part (xs ++ ys) (·.isMember) ++ [closing .brace] ++ part xs (!·.isMember),
      part ys (!·.isMember) ++ e.conformance, ?_, ?_⟩ <;>
    simp [part, tokens_withFragments, tokensOf_withFragments_append, tokensOf_withFragments_cons,
      hkind]

end Expansion

/-! ## The fragments of a declaration -/

/-- The fragments that a declaration gets, by their kinds. -/
theorem Deriver.expand_kinds {v : Deriver} {d : Declaration} {e : Expansion}
    (h : v.expand d = .ok e) :
    (∃ members, d.kind = .record members ∧
        e.kinds = (if (extract v.inherit members).fields.isEmpty then [] else [.constructor]) ++
          [.sampleAccessor, .builder, .factory]) ∨
      ∃ cases, d.kind = .taggedUnion cases ∧ e.kinds = [.sampleAccessor] := by
  obtain ⟨members, hkind, rfl⟩ | ⟨c, cs, hkind, rfl⟩ := v.expand_cases h
  · have hconstructor : (d.scan v.inherit members).hasConstructor =
        !(extract v.inherit members).fields.isEmpty := by
      simp [RecordScan.hasConstructor, Declaration.scan, Declaration.spelledFields]
    refine .inl ⟨members, hkind, ?_⟩
    rw [Expansion.kinds, RecordScan.expansion, hconstructor]
    cases (extract v.inherit members).fields.isEmpty <;> rfl
  · exact .inr ⟨c :: cs, hkind, rfl⟩

/-- The impl that members stand in is for the declared type. -/
theorem Deriver.expand_applied {v : Deriver} {d : Declaration} {e : Expansion}
    (h : v.expand d = .ok e) :
    e.generics.applied e.context.declaration.name.text = d.selfType := by
  obtain ⟨members, -, rfl⟩ | ⟨c, cs, -, rfl⟩ := v.expand_cases h
  · exact Generics.sampling_applied _ _ _ _
  · exact Generics.sampling_applied _ _ _ _

/-- **Fragments in order.** The expansion of a record has a constructor if a field is constructed,
and then the sample accessor, the builder and the factory; that of a tagged union has the sample
accessor only. Any expansion, with whatever fragments in whatever order, is written with each of
them once, the members inside of the impl of the type and the builders behind it, and one more
fragment is one more piece of code. -/
theorem fragments_in_order :
    (∀ (v : Deriver) (d : Declaration) (e : Expansion), v.expand d = .ok e →
      e.generics.applied e.context.declaration.name.text = d.selfType ∧
        ((∃ members, d.kind = .record members ∧
          e.kinds = (if (extract v.inherit members).fields.isEmpty then [] else [.constructor]) ++
            [.sampleAccessor, .builder, .factory]) ∨
        ∃ cases, d.kind = .taggedUnion cases ∧ e.kinds = [.sampleAccessor])) ∧
      ∀ e : Expansion, (∃! places : List Fragment × List Fragment, e.Writes places.1 places.2) ∧
        ∀ xs f ys, ∃ before after, (e.withFragments (xs ++ ys)).tokens = before ++ after ∧
          (e.withFragments (xs ++ f :: ys)).tokens = before ++ f.tokens e.context ++ after := by
  refine ⟨fun v d e h => ⟨v.expand_applied h, v.expand_kinds h⟩, fun e => ⟨?_, ?_⟩⟩
  -- the filter is one placement, and every placement is the filter
  · refine ⟨(_, _), e.writes_filter, fun places h => ?_⟩
    obtain ⟨hinside, hbeside⟩ := h.eq_filter
    exact Prod.ext hinside hbeside
  · intro xs f ys
    exact e.tokens_insert xs ys f

/-- The members of `struct Badge { id: u8, slot: OnceCell<u8> }`. -/
def badgeMembers : List Member :=
  [⟨[⟨"id", some (.named "u8"), false⟩], .stored, none⟩,
   ⟨[⟨"slot", some (.named "OnceCell"), false⟩], .lazy, none⟩]

def badgeDeclaration : Declaration where
  name := ⟨"Badge", .nowhere⟩
  generics := .empty
  visibility := none
  enclosing := none
  options := ⟨none, none, false, none⟩
  kind := .record badgeMembers

/-- `Badge` has all four fragments. Written in reverse, and with the factory twice, the builder
still stands alone behind the impl of `Badge`. -/
theorem badge_fragments :
    ∃ e, Deriver.standard.expand badgeDeclaration = .ok e ∧
      e.kinds = [.constructor, .sampleAccessor, .builder, .factory] ∧
      ∃ inside beside, (e.withFragments (e.fragments.drop 3 ++ e.fragments.reverse)).Writes inside
          beside ∧
        inside.map (·.kind) = [.factory, .factory, .sampleAccessor, .constructor] ∧
        beside.map (·.kind) = [.builder] := by
  have hexpand : Deriver.standard.expand badgeDeclaration = .ok _ := rfl
  obtain ⟨hkinds, hwritten⟩ := fragments_in_order
  refine ⟨_, hexpand, ?_, ?_⟩
  -- the kinds follow from the theorem once the declaration is known to be a record
  · obtain ⟨-, ⟨members, hmembers, h⟩ | ⟨cases, hcases, -⟩⟩ := hkinds _ _ _ hexpand
    · rw [h, ← DeclarationKind.record.inj hmembers]
      rfl
    · cases hcases
  · obtain ⟨⟨places, hplaces, -⟩, -⟩ := hwritten (Expansion.withFragments _ _)
    refine ⟨places.1, places.2, hplaces, ?_, ?_⟩
    · rw [hplaces.eq_filter.1]
      rfl
    · rw [hplaces.eq_filter.2]
      rfl

end Specimen
