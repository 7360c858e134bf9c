import Specimen.Proofs.FieldStorage

/-!
# What lowering tells about a declaration

A declaration that comes from an item is not any declaration: its visibilities are written
modifiers, its members have one name each, and every name has a type. Each step of lowering is
inverted here, from single results up to `Declaration.ofItem_record`, so that nothing else has to
open it.
-/

namespace Specimen

/-! ## Results -/

/-- Two steps give a result exactly if the first does and the second does with it. -/
theorem bind_eq_ok {ε α β : Type} {x : Except ε α} {f : α → Except ε β} {b : β} :
    x >>= f = .ok b ↔ ∃ a, x = .ok a ∧ f a = .ok b := by
  cases x with
  | error r => simp [bind, Except.bind]
  | ok a => simp [bind, Except.bind]

/-- What follows a result is only run on what the result is. -/
theorem bind_congr_ok {ε α β : Type} {x : Except ε α} {f g : α → Except ε β}
    (h : ∀ a, x = .ok a → f a = g a) : x >>= f = x >>= g := by
  cases x with
  | error r => rfl
  | ok a => exact h a rfl

/-- A result that is only renamed was there before. -/
theorem map_eq_ok {ε α β : Type} {x : Except ε α} {f : α → β} {b : β} :
    f <$> x = .ok b ↔ ∃ a, x = .ok a ∧ f a = b := by
  cases x with
  | error r => simp [Functor.map, Except.map]
  | ok a => simp [Functor.map, Except.map]

/-- An error passes through a map as it is. -/
theorem map_eq_error {ε α β : Type} {x : Except ε α} {f : α → β} {e : ε} :
    f <$> x = .error e ↔ x = .error e := by
  cases x with
  | error r => simp [Functor.map, Except.map]
  | ok a => simp [Functor.map, Except.map]

theorem toOption_eq_some {ε α : Type} {x : Except ε α} {a : α} :
    x.toOption = some a ↔ x = .ok a := by
  cases x with
  | error r => simp [Except.toOption]
  | ok b => simp [Except.toOption]

/-- Checks that all succeed are a list of results. -/
theorem collect_ok {α : Type} {results : List (Except Report α)} {as : List α} :
    collect results = .ok as ↔ results = as.map .ok := by
  induction results generalizing as with
  | nil => simp [collect, eq_comm]
  | cons r rs ih =>
    cases r with
    | error report => cases as <;> simp [collect]
    | ok a =>
      -- a success changes neither which checks fail nor the other results
      have hcons : collect (.ok a :: rs) = (a :: ·) <$> collect rs := by
        simp only [collect, List.filterMap_cons]
        split
        · next hall =>
          simp only [hall, if_true]
          rfl
        · next hsome =>
          simp only [hsome]
          rfl
      rw [hcons, map_eq_ok]
      constructor
      · rintro ⟨bs, hbs, rfl⟩
        rw [ih.mp hbs, List.map_cons]
      · intro h
        obtain ⟨b, bs, rfl⟩ : ∃ b bs, as = b :: bs := by
          cases as with
          | nil => simp at h
          | cons b bs => exact ⟨b, bs, rfl⟩
        simp only [List.map_cons, List.cons.injEq, Except.ok.injEq] at h
        exact ⟨bs, ih.mpr h.2, by rw [h.1]⟩

/-- Checks that succeed add their results to those of the others. -/
theorem collect_append_ok {α : Type} (results : List (Except Report α)) (as : List α) :
    collect (results ++ as.map .ok) = (· ++ as) <$> collect results := by
  have hnone : as.filterMap (fun _ => (none : Option Report)) = [] :=
    List.filterMap_eq_nil_iff.mpr fun _ _ => rfl
  simp only [collect, List.filterMap_append, List.filterMap_map, Function.comp_def, hnone,
    List.append_nil, List.filterMap_some]
  split <;> rfl

/-! ## Members -/

/-- A struct field is lowered to its member, if at all. -/
theorem Member.ofField_ok {f : NamedField} {m : Member} (h : Member.ofField f = .ok m) :
    m = f.member := by
  rw [Member.ofField, bind_eq_ok] at h
  obtain ⟨options, hoptions, h⟩ := h
  have hread : f.options = options := by
    rw [NamedField.options, hoptions]
    rfl
  split at h
  · simp at h
  · next storage hstorage =>
    -- a storage means that at most one option names it
    rw [FieldOptions.storage?_eq] at hstorage
    split at hstorage
    · simp at hstorage
    · split at h
      · simp at h
      · rw [NamedField.member, NamedField.storage, hread, Option.some.inj hstorage]
        exact (Except.ok.inj h).symm

/-- Struct fields that are all lowered are lowered to their members. -/
theorem Member.map_ofField_ok {fields : List NamedField} {members : List Member}
    (h : fields.map Member.ofField = members.map .ok) : members = fields.map NamedField.member := by
  induction fields generalizing members with
  | nil => exact List.map_eq_nil_iff.mp h.symm
  | cons f fs ih =>
    cases members with
    | nil => simp at h
    | cons m ms =>
      obtain ⟨hm, hms⟩ := List.cons.inj h
      rw [List.map_cons, Member.ofField_ok hm, ih hms]

/-- What a struct field contributes to construction. -/
theorem NamedField.mem_member_fields {f : NamedField} {inherit : Bool} {g : Field}
    (hg : g ∈ f.member.fields inherit) :
    g.name = f.name.text ∧ g.type = f.type ∧ g.visibility = some (.ofModifier f.modifier) := by
  rw [Member.fields] at hg
  split at hg
  · -- a group of one takes nothing from its last name, so `inherit` does not matter
    obtain rfl := List.mem_singleton.mp hg
    exact ⟨rfl, rfl, rfl⟩
  · simp at hg

/-! ## Declarations -/

def ItemBody.namedFields : ItemBody → List NamedField
  | .record (.named fields) => fields
  | _ => []

/-- Only structs have fields with names. -/
theorem ItemBody.eq_record_of_namedFields {body : ItemBody} (h : body.namedFields ≠ []) :
    body = .record (.named body.namedFields) := by
  cases body with
  | record fields =>
    cases fields with
    | named list => rfl
    | unnamed list => exact absurd rfl h
    | unit => exact absurd rfl h
  | enumeration variants => exact absurd rfl h
  | union => exact absurd rfl h

/-- The members of a record are those of the item's fields. -/
theorem DeclarationKind.ofBody_record {options : TypeOptions} {body : ItemBody}
    {members : List Member} (h : DeclarationKind.ofBody options body = .ok (.record members)) :
    members = body.namedFields.map NamedField.member := by
  cases body with
  | record fields =>
    -- a unit struct is the record of no member; a tuple struct is not a record
    cases fields with
    | named list =>
      rw [ofBody, map_eq_ok] at h
      obtain ⟨ms, hms, heq⟩ := h
      cases heq
      exact Member.map_ofField_ok (collect_ok.mp hms)
    | unit =>
      simp only [ofBody, Except.ok.injEq, record.injEq] at h
      exact h.symm
    | unnamed list => simp [ofBody] at h
  | enumeration variants =>
    rw [ofBody, map_eq_ok] at h
    obtain ⟨cs, _, heq⟩ := h
    simp at heq
  | union => simp [ofBody] at h

/-- Everything but the kind of a declaration stands in the item as it is. -/
theorem Declaration.ofItem_ok {item : Item} {d : Declaration}
    (h : Declaration.ofItem item = .ok d) :
    readOptions TypeOptions.keySet item.attributes = .ok d.options ∧
      DeclarationKind.ofBody d.options item.body = .ok d.kind ∧
      d.name = item.name ∧ d.generics = item.generics ∧
      d.visibility = some (.ofModifier item.modifier) ∧
      d.enclosing = d.options.enclosing.map .ofModifier := by
  -- the options are read before the body is looked at
  rw [Declaration.ofItem, bind_eq_ok] at h
  obtain ⟨options, hoptions, h⟩ := h
  rw [bind_eq_ok] at h
  obtain ⟨kind, hkind, h⟩ := h
  simp only [pure, Except.pure, Except.ok.injEq] at h
  subst h
  exact ⟨hoptions, hkind, rfl, rfl, rfl, rfl⟩

/-- **A record from source.** Its members are those of the item's fields, one each. -/
theorem Declaration.ofItem_record {item : Item} {d : Declaration} {members : List Member}
    (h : Declaration.ofItem item = .ok d) (hkind : d.kind = .record members) :
    members = item.body.namedFields.map NamedField.member := by
  have hbody := (Declaration.ofItem_ok h).2.1
  rw [hkind] at hbody
  exact DeclarationKind.ofBody_record hbody

/-- Each constructible field of a record from source is a field of the item. -/
theorem Declaration.exists_namedField {item : Item} {d : Declaration} {members : List Member}
    (h : Declaration.ofItem item = .ok d) (hkind : d.kind = .record members) (inherit : Bool)
    {g : Field} (hg : g ∈ (extract inherit members).fields) :
    ∃ f ∈ item.body.namedFields,
      g.name = f.name.text ∧ g.type = f.type ∧ g.visibility = some (.ofModifier f.modifier) := by
  rw [Declaration.ofItem_record h hkind] at hg
  obtain ⟨m, hm, hgm⟩ := List.mem_flatMap.mp hg
  obtain ⟨f, hf, rfl⟩ := List.mem_map.mp hm
  exact ⟨f, hf, NamedField.mem_member_fields hgm⟩

end Specimen
