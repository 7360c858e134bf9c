import Specimen.Proofs.Complaints

/-!
# What is wrong with options

The reader of options has causes of its own to complain for: how an attribute is written, which keys
it has and what values they are given. The options of a field lead to no other complaints, whatever
stands in its attributes.
-/

namespace Specimen

/-! ## Values -/

/-- Whether a cause is about how options are written. -/
def Cause.isAboutOptions : Cause → Bool
  | assignedAttribute => true
  | malformed _ => true
  | unexpectedFormat _ => true
  | unexpectedType _ => true
  | unknownValue _ => true
  | unknownKey _ _ => true
  | duplicateKey _ => true
  | _ => false

/-- An outcome with a known cause is about options if that cause is. -/
theorem Outcome.isAboutOptions_of_eq {α : Type} {c cause : Cause} {s span : Span}
    (h : (.error (c, s) : Outcome α) = .error (cause, span)) (hc : c.isAboutOptions = true) :
    cause.isAboutOptions = true := by
  obtain ⟨rfl, -⟩ := Prod.mk.inj (Except.error.inj h)
  exact hc

/-- A value of another form than its key asks for is complained about as such. -/
theorem unexpectedForm_isAboutOptions {α : Type} {item : MetaItem} {cause : Cause} {span : Span}
    (h : (unexpectedForm item : Outcome α) = .error (cause, span)) :
    cause.isAboutOptions = true := by
  unfold unexpectedForm at h
  split at h
  · exact Outcome.isAboutOptions_of_eq h rfl
  · exact Outcome.isAboutOptions_of_eq h rfl
  · split at h
    · exact Outcome.isAboutOptions_of_eq h rfl
    · exact Outcome.isAboutOptions_of_eq h rfl
  · exact Outcome.isAboutOptions_of_eq h rfl

/-- A truth value is complained about for its form or for what it says. -/
theorem readBool_isAboutOptions {item : MetaItem} {cause : Cause} {span : Span}
    (h : readBool item = .error (cause, span)) : cause.isAboutOptions = true := by
  unfold readBool at h
  -- one branch per way a flag can be written; only the last ones report
  split at h
  · simp at h
  · split at h
    · simp at h
    · simp at h
    · simp at h
    · exact Outcome.isAboutOptions_of_eq h rfl
    · exact Outcome.isAboutOptions_of_eq h rfl
  · exact unexpectedForm_isAboutOptions h

/-- All keys of fields have truth values. -/
theorem FieldOptions.set_isAboutOptions {key : String} {item : MetaItem} {o : FieldOptions}
    {cause : Cause} {span : Span} (h : keySet.set key item o = .error (cause, span)) :
    cause.isAboutOptions = true := by
  unfold keySet at h
  dsimp only at h
  split at h
  · exact readBool_isAboutOptions (map_eq_error.mp h)
  · exact readBool_isAboutOptions (map_eq_error.mp h)
  · exact readBool_isAboutOptions (map_eq_error.mp h)
  · exact readBool_isAboutOptions (map_eq_error.mp h)
  · simp at h

/-! ## Readings -/

namespace Reading

variable {σ : Type} {ks : KeySet σ}

/-- All problems found so far are about how options are written. -/
def AboutOptions (r : Reading σ) : Prop := ∀ x ∈ r.problems, x.cause.isAboutOptions = true

namespace AboutOptions

variable {r : Reading σ}

/-- A complaint about how options are written may be added. -/
theorem complain (hr : r.AboutOptions) {cause : Cause} (hcause : cause.isAboutOptions = true)
    (span : Span) : (r.complain cause span).AboutOptions := by
  intro x hx
  rcases List.mem_append.mp hx with hx | hx
  · exact hr x hx
  · obtain rfl := List.mem_singleton.mp hx
    exact hcause

-- a key complains about nothing but its value
variable (hset : ∀ {key item o cause span}, ks.set key item o = .error (cause, span) →
  cause.isAboutOptions = true)
include hset

/-- A key is complained about if it is unknown or set twice, and else its value may be. -/
theorem keyed (hr : r.AboutOptions) (key : String) (i : MetaItem) :
    (r.keyed ks key i).AboutOptions := by
  unfold Reading.keyed
  split
  · unfold assign
    split
    · exact hr.complain rfl _
    · split
      · exact hr
      -- the value is refused, for a cause that its key complains about
      · next cause span hbad =>
        intro x hx
        rcases List.mem_append.mp hx with hx | hx
        · exact hr x hx
        · obtain rfl := List.mem_singleton.mp hx
          exact hset hbad
  · exact hr.complain rfl _

/-- Each item is a literal, which is refused, or has a key. -/
theorem item (hr : r.AboutOptions) (i : MetaItem) : (r.item ks i).AboutOptions := by
  unfold Reading.item
  split
  · exact hr.complain rfl _
  · exact hr.keyed hset _ i
  · exact hr.keyed hset _ i
  · exact hr.keyed hset _ i

/-- An attribute is refused as a whole or gone through item by item. -/
theorem readAttribute (hr : r.AboutOptions) (a : Attribute) :
    (r.readAttribute ks a).AboutOptions := by
  unfold Reading.readAttribute
  split
  · exact hr
  · exact hr.complain rfl _
  · split
    · exact hr.complain rfl _
    -- by induction on the items, with what is complained about so far as the invariant
    · next items _ =>
      exact List.foldlRecOn (motive := AboutOptions) items (Reading.item ks) hr
        fun r hr i _ => hr.item hset i

end AboutOptions

end Reading

/-- **The options of a field** are only complained about for how they are written. -/
theorem FieldOptions.complaints_isAboutOptions (attributes : List Attribute) :
    ∀ x ∈ complaintsOf (readOptions keySet attributes), x.cause.isAboutOptions = true := by
  have hall : ((optionAttributes attributes).foldl (Reading.readAttribute keySet)
      ⟨∅, [], []⟩).AboutOptions :=
    List.foldlRecOn (motive := Reading.AboutOptions) (optionAttributes attributes) _
      (fun x hx => absurd hx List.not_mem_nil)
      fun r hr a _ => hr.readAttribute set_isAboutOptions a
  rw [readOptions, complaintsOf_result]
  exact hall

end Specimen
