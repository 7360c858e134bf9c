import Specimen.Code.Type

/-!
# Spelling out `Self`

A type that is copied out of a declaration into another item has to name the declaration where it
said `Self`. Every path type that is `Self` or starts with it is replaced, at any depth and in the
types inside of expressions. Path expressions and macro calls are left alone: they are no types.
-/

namespace Specimen

/-! ## Replacing path types -/

mutual

/-- A type with `f` applied to every path type in it, after the arguments of the path. -/
def Ty.mapPaths (f : Bool → List Segment → Ty) : Ty → Ty
  -- the arguments come first, so `f` sees them with their paths replaced
  | .path rooted segments => f rooted (Segment.mapPathsEach f segments)
  | .qualified ty rooted trait rest =>
    .qualified (ty.mapPaths f) rooted (Segment.mapPathsEach f trait)
      (Segment.mapPathsEach f rest)
  | .reference region mutable target => .reference region mutable (target.mapPaths f)
  | .pointer mutable target => .pointer mutable (target.mapPaths f)
  | .slice element => .slice (element.mapPaths f)
  | .array element length =>
    .array (element.mapPaths f) (Piece.mapPathsEach f length)
  | .tuple elements trailing => .tuple (Ty.mapPathsEach f elements) trailing
  | .paren inner => .paren (inner.mapPaths f)
  | .function binder qualifiers params trailing variadic output =>
    .function (Piece.mapPathsEach f binder) qualifiers (FnParam.mapPathsEach f params)
      trailing (Piece.mapPathsEach f variadic) (Ty.mapPathsOutput f output)
  | .bounds keyword list trailing => .bounds keyword (Bound.mapPathsEach f list) trailing
  -- there are no paths in these, or none that are told apart
  | .never => .never
  | .inferred => .inferred
  | .verbatim tokens => .verbatim tokens

def Ty.mapPathsEach (f : Bool → List Segment → Ty) : List Ty → List Ty
  | [] => []
  | t :: ts => t.mapPaths f :: Ty.mapPathsEach f ts

def Ty.mapPathsOutput (f : Bool → List Segment → Ty) : Option Ty → Option Ty
  | none => none
  | some t => some (t.mapPaths f)

def Segment.mapPaths (f : Bool → List Segment → Ty) : Segment → Segment
  | .plain name => .plain name
  | .angled name turbofish args trailing =>
    .angled name turbofish (Arg.mapPathsEach f args) trailing
  | .called name inputs trailing output =>
    .called name (Ty.mapPathsEach f inputs) trailing (Ty.mapPathsOutput f output)

def Segment.mapPathsEach (f : Bool → List Segment → Ty) : List Segment → List Segment
  | [] => []
  | s :: ss => s.mapPaths f :: Segment.mapPathsEach f ss

def Arg.mapPaths (f : Bool → List Segment → Ty) : Arg → Arg
  | .lifetime name => .lifetime name
  | .type ty => .type (ty.mapPaths f)
  | .const value => .const (Piece.mapPathsEach f value)
  | .assocType item ty => .assocType (item.mapPaths f) (ty.mapPaths f)
  | .assocConst item value =>
    .assocConst (item.mapPaths f) (Piece.mapPathsEach f value)
  | .constraint item list trailing =>
    .constraint (item.mapPaths f) (Bound.mapPathsEach f list) trailing

def Arg.mapPathsEach (f : Bool → List Segment → Ty) : List Arg → List Arg
  | [] => []
  | a :: as => a.mapPaths f :: Arg.mapPathsEach f as

def Bound.mapPaths (f : Bool → List Segment → Ty) : Bound → Bound
  | .lifetime name => .lifetime name
  | .trait parenthesized maybe binder rooted segments =>
    .trait parenthesized maybe (Piece.mapPathsEach f binder) rooted
      (Segment.mapPathsEach f segments)
  | .verbatim tokens => .verbatim tokens

def Bound.mapPathsEach (f : Bool → List Segment → Ty) : List Bound → List Bound
  | [] => []
  | b :: bs => b.mapPaths f :: Bound.mapPathsEach f bs

def FnParam.mapPaths (f : Bool → List Segment → Ty) : FnParam → FnParam
  | .mk attributes name ty => .mk (Piece.mapPathsEach f attributes) name (ty.mapPaths f)

def FnParam.mapPathsEach (f : Bool → List Segment → Ty) : List FnParam → List FnParam
  | [] => []
  | p :: ps => p.mapPaths f :: FnParam.mapPathsEach f ps

def Piece.mapPaths (f : Bool → List Segment → Ty) : Piece → Piece
  | .token t => .token t
  | .type ty => .type (ty.mapPaths f)

def Piece.mapPathsEach (f : Bool → List Segment → Ty) : List Piece → List Piece
  | [] => []
  | p :: ps => p.mapPaths f :: Piece.mapPathsEach f ps

end

/-- The recursion over a list is the map that it stands for. -/
theorem Ty.mapPathsEach_eq_map (f : Bool → List Segment → Ty) (ts : List Ty) :
    Ty.mapPathsEach f ts = ts.map (Ty.mapPaths f) := by
  induction ts with
  | nil => simp [Ty.mapPathsEach]
  | cons t ts ih => simp [Ty.mapPathsEach, ih]

theorem Segment.mapPathsEach_eq_map (f : Bool → List Segment → Ty) (ss : List Segment) :
    Segment.mapPathsEach f ss = ss.map (Segment.mapPaths f) := by
  induction ss with
  | nil => simp [Segment.mapPathsEach]
  | cons s ss ih => simp [Segment.mapPathsEach, ih]

theorem Arg.mapPathsEach_eq_map (f : Bool → List Segment → Ty) (as : List Arg) :
    Arg.mapPathsEach f as = as.map (Arg.mapPaths f) := by
  induction as with
  | nil => simp [Arg.mapPathsEach]
  | cons a as ih => simp [Arg.mapPathsEach, ih]

/-! ## `Self` -/

/-- What a path type turns into: `self` if it is `Self`, a path into `base` if it goes on after
`Self`, and otherwise itself. A segment with arguments is not `Self`. -/
def spellPath (self base : Ty) : Bool → List Segment → Ty
  | false, [.plain "Self"] => self
  | false, .plain "Self" :: rest => .qualified base false [] rest
  -- with a leading `::` the word `Self` would be a name
  | rooted, segments => .path rooted segments

/-- A type with `self` for `Self`, and with paths into `base` for paths that start with `Self`. -/
def Ty.spell (ty self base : Ty) : Ty := ty.mapPaths (spellPath self base)

/-- A type with `replacement` for `Self`. A path that goes on after `Self` leads into the
replacement, and `Self` inside of that one is spelled out in turn. -/
def Ty.replaceSelf (ty replacement : Ty) : Ty :=
  ty.spell replacement (replacement.spell replacement replacement)

/-- `Self` on its own is the replacement, word for word. -/
theorem Ty.replaceSelf_self (replacement : Ty) :
    (Ty.named "Self").replaceSelf replacement = replacement := by
  simp [Ty.replaceSelf, Ty.spell, Ty.named, Ty.mapPaths, Segment.mapPathsEach, Segment.mapPaths,
    spellPath]

end Specimen
