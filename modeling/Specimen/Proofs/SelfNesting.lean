import Specimen.Proofs.NestedTypes
import Specimen.Proofs.SelfMention

/-!
# Spelling out and nesting

Spelling out `Self` and looking for it are recursions on the grammar. Each of them is a step at the
type itself and leaves the rest to the types inside: `Ty.mapPaths_eq_mapNested` says so of the one
and `Ty.hasSelf_eq_any_nested` of the other.
-/

namespace Specimen

/-! ## Replacing path types -/

section

variable (f : Bool → List Segment → Ty)

/-- In a run of pieces, types are replaced one by one. -/
theorem Piece.mapPathsEach_eq_map_mapNested (ps : List Piece) :
    Piece.mapPathsEach f ps = ps.map (Piece.mapNested (Ty.mapPaths f)) := by
  induction ps with
  | nil => rw [Piece.mapPathsEach, List.map_nil]
  | cons p ps ih =>
    rw [Piece.mapPathsEach, ih, List.map_cons]
    cases p <;> rw [Piece.mapPaths, Piece.mapNested]

/-- In a parameter, attributes are runs of pieces. -/
theorem FnParam.mapPathsEach_eq_map_mapNested (ps : List FnParam) :
    FnParam.mapPathsEach f ps = ps.map (FnParam.mapNested (Ty.mapPaths f)) := by
  induction ps with
  | nil => rw [FnParam.mapPathsEach, List.map_nil]
  | cons p ps ih =>
    rw [FnParam.mapPathsEach, ih, List.map_cons]
    cases p
    rw [FnParam.mapPaths, FnParam.mapNested, Piece.mapPathsEach_eq_map_mapNested]

/-- A result type may be left out. -/
theorem Ty.mapPathsOutput_eq_map (output : Option Ty) :
    Ty.mapPathsOutput f output = output.map (Ty.mapPaths f) := by
  cases output <;> rw [Ty.mapPathsOutput] <;> rfl

-- Both sides go through the grammar in the same way and part only where there is a type.
mutual

/-- No segment is a path type itself, so there is no step at a segment. -/
theorem Segment.mapPaths_eq_mapNested : ∀ s : Segment,
    s.mapPaths f = s.mapNested (Ty.mapPaths f)
  | .plain name => by rw [Segment.mapPaths, Segment.mapNested]
  | .angled name turbofish args trailing => by
    rw [Segment.mapPaths, Segment.mapNested, Arg.mapPathsEach_eq_mapNestedEach args]
  | .called name inputs trailing output => by
    rw [Segment.mapPaths, Segment.mapNested, Ty.mapPathsEach_eq_map, Ty.mapPathsOutput_eq_map]

theorem Segment.mapPathsEach_eq_mapNestedEach : ∀ ss : List Segment,
    Segment.mapPathsEach f ss = Segment.mapNestedEach (Ty.mapPaths f) ss
  | [] => by rw [Segment.mapPathsEach, Segment.mapNestedEach]
  | s :: ss => by
    rw [Segment.mapPathsEach, Segment.mapNestedEach, Segment.mapPaths_eq_mapNested s,
      Segment.mapPathsEach_eq_mapNestedEach ss]

theorem Arg.mapPaths_eq_mapNested : ∀ a : Arg, a.mapPaths f = a.mapNested (Ty.mapPaths f)
  | .lifetime name => by rw [Arg.mapPaths, Arg.mapNested]
  | .type ty => by rw [Arg.mapPaths, Arg.mapNested]
  | .const value => by
    rw [Arg.mapPaths, Arg.mapNested, Piece.mapPathsEach_eq_map_mapNested]
  | .assocType item ty => by
    rw [Arg.mapPaths, Arg.mapNested, Segment.mapPaths_eq_mapNested item]
  | .assocConst item value => by
    rw [Arg.mapPaths, Arg.mapNested, Segment.mapPaths_eq_mapNested item,
      Piece.mapPathsEach_eq_map_mapNested]
  | .constraint item list trailing => by
    rw [Arg.mapPaths, Arg.mapNested, Segment.mapPaths_eq_mapNested item,
      Bound.mapPathsEach_eq_mapNestedEach list]

theorem Arg.mapPathsEach_eq_mapNestedEach : ∀ as : List Arg,
    Arg.mapPathsEach f as = Arg.mapNestedEach (Ty.mapPaths f) as
  | [] => by rw [Arg.mapPathsEach, Arg.mapNestedEach]
  | a :: as => by
    rw [Arg.mapPathsEach, Arg.mapNestedEach, Arg.mapPaths_eq_mapNested a,
      Arg.mapPathsEach_eq_mapNestedEach as]

/-- The path of a trait is no path type, and only what is inside of it is replaced. -/
theorem Bound.mapPaths_eq_mapNested : ∀ b : Bound, b.mapPaths f = b.mapNested (Ty.mapPaths f)
  | .lifetime name => by rw [Bound.mapPaths, Bound.mapNested]
  | .trait parenthesized maybe binder rooted segments => by
    rw [Bound.mapPaths, Bound.mapNested, Piece.mapPathsEach_eq_map_mapNested,
      Segment.mapPathsEach_eq_mapNestedEach segments]
  | .verbatim tokens => by rw [Bound.mapPaths, Bound.mapNested]

theorem Bound.mapPathsEach_eq_mapNestedEach : ∀ bs : List Bound,
    Bound.mapPathsEach f bs = Bound.mapNestedEach (Ty.mapPaths f) bs
  | [] => by rw [Bound.mapPathsEach, Bound.mapNestedEach]
  | b :: bs => by
    rw [Bound.mapPathsEach, Bound.mapNestedEach, Bound.mapPaths_eq_mapNested b,
      Bound.mapPathsEach_eq_mapNestedEach bs]

end

/-- Replacing path types is a step at a path and leaves all other types to the types inside. -/
theorem Ty.mapPaths_eq_mapNested (ty : Ty) :
    ty.mapPaths f = match ty.mapNested (Ty.mapPaths f) with
      | .path rooted segments => f rooted segments
      | other => other := by
  cases ty with
  -- here is the step; everything below goes on without one
  | path rooted segments =>
    rw [Ty.mapPaths, Ty.mapNested, Segment.mapPathsEach_eq_mapNestedEach]
  | qualified ty rooted trait rest =>
    rw [Ty.mapPaths, Ty.mapNested, Segment.mapPathsEach_eq_mapNestedEach,
      Segment.mapPathsEach_eq_mapNestedEach]
  | array element length => rw [Ty.mapPaths, Ty.mapNested, Piece.mapPathsEach_eq_map_mapNested]
  | tuple elements trailing => rw [Ty.mapPaths, Ty.mapNested, Ty.mapPathsEach_eq_map]
  | function binder qualifiers params trailing variadic output =>
    rw [Ty.mapPaths, Ty.mapNested, Piece.mapPathsEach_eq_map_mapNested,
      Piece.mapPathsEach_eq_map_mapNested, FnParam.mapPathsEach_eq_map_mapNested,
      Ty.mapPathsOutput_eq_map]
  | bounds keyword list trailing =>
    rw [Ty.mapPaths, Ty.mapNested, Bound.mapPathsEach_eq_mapNestedEach]
  | _ => rw [Ty.mapPaths, Ty.mapNested]

end

/-! ## Paths that are spelled out -/

/-- Whether a type is a path type that starts with a bare `Self`. -/
def Ty.isSelfPath : Ty → Bool
  | .path rooted segments => startsWithSelf rooted segments
  | _ => false

/-- A run of pieces has a path that is spelled out if a type in it has one. -/
theorem Piece.hasSelfEach_eq_any_nested (ps : List Piece) :
    Piece.hasSelfEach true false ps = (ps.flatMap Piece.nested).any (Ty.hasSelf true false) := by
  induction ps with
  | nil => rw [Piece.hasSelfEach, List.flatMap_nil, List.any_nil]
  | cons p ps ih =>
    rw [Piece.hasSelfEach, ih, List.flatMap_cons, List.any_append]
    cases p <;> simp [Piece.hasSelf, Piece.nested]

/-- For parameters it is their attributes and their types that count. -/
theorem FnParam.hasSelfEach_eq_any_nested (ps : List FnParam) :
    FnParam.hasSelfEach true false ps =
      (ps.flatMap FnParam.nested).any (Ty.hasSelf true false) := by
  induction ps with
  | nil => rw [FnParam.hasSelfEach, List.flatMap_nil, List.any_nil]
  | cons p ps ih =>
    rw [FnParam.hasSelfEach, ih, List.flatMap_cons, List.any_append]
    cases p
    simp [FnParam.hasSelf, FnParam.nested, Piece.hasSelfEach_eq_any_nested]

/-- Types one by one. -/
theorem Ty.hasSelfEach_eq_any (ts : List Ty) :
    Ty.hasSelfEach true false ts = ts.any (Ty.hasSelf true false) := by
  induction ts with
  | nil => rw [Ty.hasSelfEach, List.any_nil]
  | cons t ts ih => rw [Ty.hasSelfEach, ih, List.any_cons]

theorem Ty.hasSelfOutput_eq_any (output : Option Ty) :
    Ty.hasSelfOutput true false output = output.toList.any (Ty.hasSelf true false) := by
  cases output <;> simp [Ty.hasSelfOutput]

mutual

/-- The name of a segment is not spelled out, so only its arguments count. -/
theorem Segment.hasSelf_eq_any_nested : ∀ s : Segment,
    s.hasSelf true false = s.nested.any (Ty.hasSelf true false)
  | .plain name => by rw [Segment.hasSelf, Segment.nested, List.any_nil]
  | .angled name turbofish args trailing => by
    rw [Segment.hasSelf, Segment.nested, Arg.hasSelfEach_eq_any_nested args]
  | .called name inputs trailing output => by
    rw [Segment.hasSelf, Segment.nested, List.any_append, Ty.hasSelfEach_eq_any,
      Ty.hasSelfOutput_eq_any]

theorem Segment.hasSelfEach_eq_any_nested : ∀ ss : List Segment,
    Segment.hasSelfEach true false ss = (Segment.nestedEach ss).any (Ty.hasSelf true false)
  | [] => by rw [Segment.hasSelfEach, Segment.nestedEach, List.any_nil]
  | s :: ss => by
    rw [Segment.hasSelfEach, Segment.nestedEach, List.any_append, Segment.hasSelf_eq_any_nested s,
      Segment.hasSelfEach_eq_any_nested ss]

/-- Neither is the name of an associated item. -/
theorem Arg.hasSelf_eq_any_nested : ∀ a : Arg,
    a.hasSelf true false = a.nested.any (Ty.hasSelf true false)
  | .lifetime name => by rw [Arg.hasSelf, Arg.nested, List.any_nil]
  | .type ty => by simp [Arg.hasSelf, Arg.nested]
  | .const value => by rw [Arg.hasSelf, Arg.nested, Piece.hasSelfEach_eq_any_nested]
  | .assocType item ty => by
    simp [Arg.hasSelf, Arg.nested, Segment.hasSelf_eq_any_nested item]
  | .assocConst item value => by
    simp [Arg.hasSelf, Arg.nested, Segment.hasSelf_eq_any_nested item,
      Piece.hasSelfEach_eq_any_nested]
  | .constraint item list trailing => by
    simp [Arg.hasSelf, Arg.nested, Segment.hasSelf_eq_any_nested item,
      Bound.hasSelfEach_eq_any_nested list]

theorem Arg.hasSelfEach_eq_any_nested : ∀ as : List Arg,
    Arg.hasSelfEach true false as = (Arg.nestedEach as).any (Ty.hasSelf true false)
  | [] => by rw [Arg.hasSelfEach, Arg.nestedEach, List.any_nil]
  | a :: as => by
    rw [Arg.hasSelfEach, Arg.nestedEach, List.any_append, Arg.hasSelf_eq_any_nested a,
      Arg.hasSelfEach_eq_any_nested as]

/-- The path of a trait is never spelled out, but the types in it are. -/
theorem Bound.hasSelf_eq_any_nested : ∀ b : Bound,
    b.hasSelf true false = b.nested.any (Ty.hasSelf true false)
  | .lifetime name => by rw [Bound.hasSelf, Bound.nested, List.any_nil]
  | .trait parenthesized maybe binder rooted segments => by
    simp [Bound.hasSelf, Bound.nested, Piece.hasSelfEach_eq_any_nested,
      Segment.hasSelfEach_eq_any_nested segments]
  | .verbatim tokens => by rw [Bound.hasSelf, Bound.nested, List.any_nil, Bool.false_and]

theorem Bound.hasSelfEach_eq_any_nested : ∀ bs : List Bound,
    Bound.hasSelfEach true false bs = (Bound.nestedEach bs).any (Ty.hasSelf true false)
  | [] => by rw [Bound.hasSelfEach, Bound.nestedEach, List.any_nil]
  | b :: bs => by
    rw [Bound.hasSelfEach, Bound.nestedEach, List.any_append, Bound.hasSelf_eq_any_nested b,
      Bound.hasSelfEach_eq_any_nested bs]

end

/-- A path that is spelled out stands in a type if the type is one or a type inside has one. -/
theorem Ty.hasSelf_eq_any_nested (ty : Ty) :
    ty.hasSelf true false = (ty.isSelfPath || ty.nested.any (Ty.hasSelf true false)) := by
  cases ty with
  -- only a path type can be spelled out itself
  | path rooted segments =>
    rw [Ty.hasSelf, Ty.nested, Ty.isSelfPath, Segment.hasSelfEach_eq_any_nested]
    simp
  | qualified ty rooted trait rest =>
    simp [Ty.hasSelf, Ty.nested, Ty.isSelfPath, Segment.hasSelfEach_eq_any_nested, Bool.or_assoc]
  | array element length =>
    simp [Ty.hasSelf, Ty.nested, Ty.isSelfPath, Piece.hasSelfEach_eq_any_nested]
  | tuple elements trailing =>
    simp [Ty.hasSelf, Ty.nested, Ty.isSelfPath, Ty.hasSelfEach_eq_any]
  | function binder qualifiers params trailing variadic output =>
    simp [Ty.hasSelf, Ty.nested, Ty.isSelfPath, Piece.hasSelfEach_eq_any_nested,
      FnParam.hasSelfEach_eq_any_nested, Ty.hasSelfOutput_eq_any, Bool.or_assoc]
  | bounds keyword list trailing =>
    simp [Ty.hasSelf, Ty.nested, Ty.isSelfPath, Bound.hasSelfEach_eq_any_nested]
  | _ => simp [Ty.hasSelf, Ty.nested, Ty.isSelfPath]

end Specimen
