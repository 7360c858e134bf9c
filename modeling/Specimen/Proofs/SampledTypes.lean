import Specimen.Proofs.Target.Reading

/-!
# Sampled types

Generated code samples the types of a record's constructible fields, or those of the values of a
tagged union's first case. Which types these are decides the generics of every generated impl: the
declared parameters stay as they are, and the where clause gets one predicate for each sampled type.
-/

namespace Specimen

open Token

/-! ## Generics for sampling -/

namespace Generics

def predicates (g : Generics) : List Predicate :=
  (g.whereClause.map WhereClause.predicates).getD []

/-- The predicates of the generics for sampling are the declaration's own and one for each sampled
type, if there are parameters at all. -/
theorem predicates_sampling (g : Generics) (crate : Path) (sampled : List Ty) :
    (g.sampling crate sampled).predicates =
      g.predicates ++
        if g.params.isEmpty then [] else sampled.map (Predicate.sampleable crate) := by
  rw [sampling]
  split
  · simp
  · simp only [predicates, Option.map_some, Option.getD_some, predicates_foldl_push]
    cases g.whereClause <;> rfl

/-- Bounds for sampling leave parameter lists alone. -/
theorem sampling_angled (g : Generics) (crate : Path) (sampled : List Ty)
    (write : GenericParam → List Token) :
    (g.sampling crate sampled).angled write = g.angled write := by
  unfold sampling
  split <;> rfl

end Generics

/-! ## What is sampled -/

/-- What a record samples is the types of its constructible fields with `Self` spelled out. -/
theorem Declaration.scan_sampled (d : Declaration) (inherit : Bool) (members : List Member) :
    (d.scan inherit members).sampled =
      (extract inherit members).fields.map fun f => f.type.replaceSelf d.selfType := by
  simp [RecordScan.sampled, scan, spelledFields, Function.comp_def]

/-- The types that the impls of a derived type need to be `Sampleable`. -/
def Deriver.sampledTypes (v : Deriver) (d : Declaration) : List Ty :=
  match d.kind with
  | .record members => (d.scan v.inherit members).sampled
  | .taggedUnion (first :: _) => first.payload.types
  | _ => []

namespace Deriver

variable (v : Deriver) {d : Declaration}

/-- For a record these are the types of all constructible fields, those with a default among
them. -/
theorem sampledTypes_record {members : List Member} (hkind : d.kind = .record members) :
    v.sampledTypes d =
      (extract v.inherit members).fields.map fun f => f.type.replaceSelf d.selfType := by
  rw [sampledTypes, hkind]
  exact d.scan_sampled v.inherit members

/-- Only the first case of a tagged union is sampled, as it is written. -/
theorem sampledTypes_taggedUnion {c : Case} {cs : List Case}
    (hkind : d.kind = .taggedUnion (c :: cs)) :
    v.sampledTypes d = match c.payload with
      | .unit => []
      | .unlabeled types => types
      | .labeled params => params.map (·.2) := by
  rw [sampledTypes, hkind]
  show c.payload.types = _
  cases c.payload <;> rfl

/-- A record, and a tagged union with a case, has an expansion, whose impls have the declared
generics with bounds on the sampled types. -/
theorem expand_ok
    (hkind : (∃ members, d.kind = .record members) ∨ ∃ c cs, d.kind = .taggedUnion (c :: cs)) :
    ∃ e, v.expand d = .ok e ∧ e.context = .ofDeclaration v d ∧
      e.generics = d.generics.sampling (d.cratePath v.defaultCrate) (v.sampledTypes d) := by
  rcases hkind with ⟨members, h⟩ | ⟨c, cs, h⟩
  · refine ⟨_, v.expand_record h, rfl, ?_⟩
    rw [sampledTypes, h]
    rfl
  · refine ⟨c.expansion (.ofDeclaration v d), ?_, rfl, ?_⟩
    · rw [expand, h]
    · rw [sampledTypes, h]
      rfl

end Deriver

end Specimen
