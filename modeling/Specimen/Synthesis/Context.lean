import Specimen.Declaration.Basic
import Specimen.Synthesis.Value

/-!
# What generation knows

The settings of a deriver, and what they come to for one declaration: the crate path, whether the
generated items are for debug builds only, and the parameters with the bounds that sampling needs.
-/

namespace Specimen

open Token

/-- The settings that all declarations share. -/
structure Deriver where
  /-- The path of the crate with `Sampleable`, for types that name none. -/
  defaultCrate : Path
  /-- Whether every generated item is for debug builds only. -/
  guarded : Bool
  /-- Whether a name without a type takes the one of its group. -/
  inherit : Bool

/-- The settings that are not chosen otherwise. -/
def Deriver.standard : Deriver := ⟨.ofNames true ["fixturize"], false, true⟩

/-- What generation knows about a declaration. -/
structure Context where
  declaration : Declaration
  crate : Path
  /-- Whether the generated items are for debug builds only. -/
  guarded : Bool

namespace Context

def ofDeclaration (v : Deriver) (d : Declaration) : Context :=
  ⟨d, d.cratePath v.defaultCrate, v.guarded || d.options.debugOnly⟩

/-- The attribute in front of an item that is for debug builds only. -/
def guard (cx : Context) : List Token :=
  if cx.guarded then hashAttribute (ident "cfg" :: parens [ident "debug_assertions"]) else []

end Context

def derivedAttribute : List Token := hashAttribute [ident "automatically_derived"]

def docAttribute (text : String) : List Token :=
  hashAttribute (ident "doc" :: sym "=" ++ [literal (Text.quote text)])

def code (name : String) : String := s!"`{name}`"

/-! ## Bounds for sampling -/

/-- A predicate opens with the binder that its type opens with: the binder and what remains of the
type. A mark of a relaxed bound stands before its binder, so such a bound opens with no binder. -/
def Ty.splitBinder : Ty → List Piece × Ty
  -- `for<'a> fn(&'a T)`
  | .function binder qualifiers params trailing variadic output =>
    (binder, .function [] qualifiers params trailing variadic output)
  | .bounds .bare (.trait false false binder rooted segments :: list) trailing =>
    -- a single bound without a plus sign is a path type to whoever reads it
    match list, trailing with
    | [], false => (binder, .path rooted segments)
    | _, _ => (binder, .bounds .bare (.trait false false [] rooted segments :: list) trailing)
  | ty => ([], ty)

/-- The binder and what remains are written as the type is. -/
theorem Ty.splitBinder_tokens (ty : Ty) :
    Piece.tokensOf ty.splitBinder.1 ++ ty.splitBinder.2.tokens = ty.tokens := by
  unfold splitBinder
  split
  · simp [Ty.tokens, Piece.tokensOf]
  · next binder rooted segments list trailing =>
    split
    · simp [Ty.tokens, BoundsKeyword.tokens, Bound.tokensEach, Bound.tokens, punctuated, separated]
    · -- the binder comes first in the first bound, and that one in the list
      cases list <;>
        simp [Ty.tokens, BoundsKeyword.tokens, Bound.tokensEach, Bound.tokens, Piece.tokensOf,
          punctuated, separated]
  · simp [Piece.tokensOf]

/-- The predicate that a type is `Sampleable`. -/
def Predicate.sampleable (crate : Path) (ty : Ty) : Predicate :=
  let p := crate.join "Sampleable"
  .type ty.splitBinder.1 ty.splitBinder.2 [.trait false false [] p.rooted p.segments] false

/-- `T: K::Sampleable` -/
theorem Predicate.sampleable_tokens (crate : Path) (ty : Ty) :
    (Predicate.sampleable crate ty).tokens =
      ty.tokens ++ sym ":" ++ (crate.join "Sampleable").tokens := by
  have hbound : punctuated (sym "+") (Bound.tokensEach
      [.trait false false [] (crate.join "Sampleable").rooted
        (crate.join "Sampleable").segments]) false = (crate.join "Sampleable").tokens := by
    simp [Bound.tokensEach, Bound.tokens, Piece.tokensOf, punctuated, separated, Path.tokens]
  rw [← ty.splitBinder_tokens, ← hbound]
  rfl

/-- The generics with the bound that each sampled type is `Sampleable`. A declaration without
parameters needs no bounds. -/
def Generics.sampling (g : Generics) (crate : Path) (sampled : List Ty) : Generics :=
  if g.params.isEmpty then g
  else
    -- the bounds come after the declared predicates
    let clause := g.whereClause.getD ⟨[], false⟩
    { g with
      whereClause := some (sampled.foldl (fun w ty => w.push (.sampleable crate ty)) clause) }

/-- Bounds are written in the where clause, so the parameters stay as they are declared. -/
theorem Generics.sampling_params (g : Generics) (crate : Path) (sampled : List Ty) :
    (g.sampling crate sampled).params = g.params := by
  unfold sampling
  split <;> rfl

/-- The predicates added for sampling come after the declaration's own, one for each type. -/
theorem predicates_foldl_push (crate : Path) (sampled : List Ty) (w : WhereClause) :
    (sampled.foldl (fun w ty => w.push (.sampleable crate ty)) w).predicates =
      w.predicates ++ sampled.map (Predicate.sampleable crate) := by
  induction sampled generalizing w with
  | nil => simp
  | cons ty tys ih => simp [ih]

end Specimen
