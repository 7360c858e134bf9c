import Specimen.Code.Name

/-!
# Names built from other names

A parameter is named after its field and a builder after its type. The name of a parameter is a
plain one, and two fields or types share a name only if they are the same identifier.
-/

namespace Specimen

/-! ## Bare names -/

/-- A raw name is the identifier behind its `r#`. -/
theorem bareName_raw {name : String} {cs : List Char} (h : name.toList = 'r' :: '#' :: cs) :
    bareName name = String.ofList cs := by
  rw [bareName, h]
  rfl

/-- Any other name is the identifier that it spells. -/
theorem bareName_plain {name : String} (h : ∀ cs, name.toList ≠ 'r' :: '#' :: cs) :
    bareName name = name := by
  rw [bareName]
  split
  · next cs hraw => exact absurd hraw (h cs)
  · rfl

/-- Only a name that starts with `r` can be a raw one. -/
theorem bareName_eq_self {name : String} {c : Char} {rest : List Char}
    (h : name.toList = c :: rest) (hc : c ≠ 'r') : bareName name = name := by
  refine bareName_plain fun cs hraw => hc ?_
  rw [h] at hraw
  exact (List.cons.inj hraw).1

/-- A plain identifier can be written in two ways. -/
theorem bareName_eq_iff {name plain : String} (h : bareName plain = plain) :
    bareName name = plain ↔ name = plain ∨ name = "r#" ++ plain := by
  have hwritten : ("r#" ++ plain).toList = 'r' :: '#' :: plain.toList := by
    rw [String.toList_append]
    rfl
  constructor
  · intro hname
    -- a name without the raw prefix is its own bare name
    by_cases hraw : ∃ cs, name.toList = 'r' :: '#' :: cs
    · obtain ⟨cs, hcs⟩ := hraw
      refine .inr (String.toList_injective ?_)
      rw [hwritten, ← hname, bareName_raw hcs, String.toList_ofList, hcs]
    · rw [bareName_plain fun cs hcs => hraw ⟨cs, hcs⟩] at hname
      exact .inl hname
  · rintro (rfl | rfl)
    · exact h
    · rw [bareName_raw hwritten, String.ofList_toList]

/-! ## Parameters -/

/-- A parameter name is its own bare form: it starts with `f`, never with `r#`. -/
theorem bareName_parameterName (field : String) :
    bareName (parameterName field) = parameterName field := by
  have h : (parameterName field).toList =
      'f' :: 'i' :: 'x' :: 't' :: 'u' :: 'r' :: 'e' :: (bareName field).toList := by
    simp [parameterName]
  exact bareName_eq_self h (by decide)

/-- The text in front is the same for all fields, so the rest decides. -/
theorem parameterName_inj {f g : String} :
    parameterName f = parameterName g ↔ bareName f = bareName g :=
  String.append_right_inj "fixture"

/-! ## Builders -/

/-- The text behind is the same for all types. -/
theorem builderName_inj {t u : String} :
    builderName t = builderName u ↔ bareName t = bareName u :=
  String.append_left_inj "FixtureBuilder"

end Specimen
