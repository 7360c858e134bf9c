import Specimen.Code.Type

/-!
# The types inside of a type

A type holds other types: the target of a reference, the arguments of a path, the types that occur
in the length of an array. `Ty.nested` lists those that stand in it directly and not in one of the
others, and `Ty.mapNested` puts others in their places and keeps all else. With the laws of the two
a proof about types goes by induction on nesting, `Ty.nested_induction`, and the grammar is out of
sight.
-/

namespace Specimen

/-! ## What is nested -/

/-- The type that a piece of code may be. -/
def Piece.nested : Piece → List Ty
  | .token _ => []
  | .type ty => [ty]

/-- The types directly inside of a parameter of a function pointer. -/
def FnParam.nested : FnParam → List Ty
  | .mk attributes _ ty => attributes.flatMap Piece.nested ++ [ty]

mutual

/-- The types directly inside of a path segment. -/
def Segment.nested : Segment → List Ty
  | .plain _ => []
  | .angled _ _ args _ => Arg.nestedEach args
  | .called _ inputs _ output => inputs ++ output.toList

def Segment.nestedEach : List Segment → List Ty
  | [] => []
  | s :: ss => s.nested ++ Segment.nestedEach ss

def Arg.nested : Arg → List Ty
  | .lifetime _ => []
  | .type ty => [ty]
  | .const value => value.flatMap Piece.nested
  | .assocType item ty => item.nested ++ [ty]
  | .assocConst item value => item.nested ++ value.flatMap Piece.nested
  | .constraint item list _ => item.nested ++ Bound.nestedEach list

def Arg.nestedEach : List Arg → List Ty
  | [] => []
  | a :: as => a.nested ++ Arg.nestedEach as

/-- The types directly inside of a bound. -/
def Bound.nested : Bound → List Ty
  | .lifetime _ => []
  | .trait _ _ binder _ segments => binder.flatMap Piece.nested ++ Segment.nestedEach segments
  | .verbatim _ => []

def Bound.nestedEach : List Bound → List Ty
  | [] => []
  | b :: bs => b.nested ++ Bound.nestedEach bs

end

/-- The types directly inside of a type, in the order in which they are written. -/
def Ty.nested : Ty → List Ty
  | .path _ segments => Segment.nestedEach segments
  | .qualified ty _ trait rest => ty :: (Segment.nestedEach trait ++ Segment.nestedEach rest)
  | .reference _ _ target => [target]
  | .pointer _ target => [target]
  | .slice element => [element]
  | .array element length => element :: length.flatMap Piece.nested
  | .tuple elements _ => elements
  | .paren inner => [inner]
  | .function binder _ params _ variadic output =>
    binder.flatMap Piece.nested ++ params.flatMap FnParam.nested ++
      variadic.flatMap Piece.nested ++ output.toList
  | .bounds _ list _ => Bound.nestedEach list
  | .never => []
  | .inferred => []
  | .verbatim _ => []

/-! ## Replacing what is nested -/

/-- A piece of code with `f` applied to the type that it may be. -/
def Piece.mapNested (f : Ty → Ty) : Piece → Piece
  | .token t => .token t
  | .type ty => .type (f ty)

def FnParam.mapNested (f : Ty → Ty) : FnParam → FnParam
  | .mk attributes name ty => .mk (attributes.map (Piece.mapNested f)) name (f ty)

mutual

/-- A path segment with `f` applied to the types directly inside. -/
def Segment.mapNested (f : Ty → Ty) : Segment → Segment
  | .plain name => .plain name
  | .angled name turbofish args trailing =>
    .angled name turbofish (Arg.mapNestedEach f args) trailing
  | .called name inputs trailing output => .called name (inputs.map f) trailing (output.map f)

def Segment.mapNestedEach (f : Ty → Ty) : List Segment → List Segment
  | [] => []
  | s :: ss => s.mapNested f :: Segment.mapNestedEach f ss

def Arg.mapNested (f : Ty → Ty) : Arg → Arg
  | .lifetime name => .lifetime name
  | .type ty => .type (f ty)
  | .const value => .const (value.map (Piece.mapNested f))
  | .assocType item ty => .assocType (item.mapNested f) (f ty)
  | .assocConst item value => .assocConst (item.mapNested f) (value.map (Piece.mapNested f))
  | .constraint item list trailing =>
    .constraint (item.mapNested f) (Bound.mapNestedEach f list) trailing

def Arg.mapNestedEach (f : Ty → Ty) : List Arg → List Arg
  | [] => []
  | a :: as => a.mapNested f :: Arg.mapNestedEach f as

def Bound.mapNested (f : Ty → Ty) : Bound → Bound
  | .lifetime name => .lifetime name
  | .trait parenthesized maybe binder rooted segments =>
    .trait parenthesized maybe (binder.map (Piece.mapNested f)) rooted
      (Segment.mapNestedEach f segments)
  | .verbatim tokens => .verbatim tokens

def Bound.mapNestedEach (f : Ty → Ty) : List Bound → List Bound
  | [] => []
  | b :: bs => b.mapNested f :: Bound.mapNestedEach f bs

end

/-- A type with `f` applied to the types directly inside, and all else as it is. -/
def Ty.mapNested (f : Ty → Ty) : Ty → Ty
  | .path rooted segments => .path rooted (Segment.mapNestedEach f segments)
  | .qualified ty rooted trait rest =>
    .qualified (f ty) rooted (Segment.mapNestedEach f trait) (Segment.mapNestedEach f rest)
  | .reference region mutable target => .reference region mutable (f target)
  | .pointer mutable target => .pointer mutable (f target)
  | .slice element => .slice (f element)
  | .array element length => .array (f element) (length.map (Piece.mapNested f))
  | .tuple elements trailing => .tuple (elements.map f) trailing
  | .paren inner => .paren (f inner)
  | .function binder qualifiers params trailing variadic output =>
    .function (binder.map (Piece.mapNested f)) qualifiers (params.map (FnParam.mapNested f))
      trailing (variadic.map (Piece.mapNested f)) (output.map f)
  | .bounds keyword list trailing => .bounds keyword (Bound.mapNestedEach f list) trailing
  | .never => .never
  | .inferred => .inferred
  | .verbatim tokens => .verbatim tokens

/-! ## What is nested after replacing -/

section

variable (f : Ty → Ty)

theorem Piece.nested_mapNested (p : Piece) : (p.mapNested f).nested = p.nested.map f := by
  cases p <;> rfl

/-- What is inside of a run of pieces is replaced piece by piece. -/
theorem Piece.flatMap_nested_mapNested (ps : List Piece) :
    (ps.map (Piece.mapNested f)).flatMap Piece.nested = (ps.flatMap Piece.nested).map f := by
  rw [List.flatMap_map, List.map_flatMap]
  simp only [Piece.nested_mapNested]

theorem FnParam.nested_mapNested (p : FnParam) : (p.mapNested f).nested = p.nested.map f := by
  cases p
  simp [FnParam.mapNested, FnParam.nested, Piece.flatMap_nested_mapNested]

mutual

/-- The name of a segment stays, and its arguments are gone through in order. -/
theorem Segment.nested_mapNested : ∀ s : Segment, (s.mapNested f).nested = s.nested.map f
  | .plain name => by simp [Segment.mapNested, Segment.nested]
  | .angled name turbofish args trailing => by
    rw [Segment.mapNested, Segment.nested, Segment.nested, Arg.nestedEach_mapNestedEach args]
  | .called name inputs trailing output => by
    cases output <;> simp [Segment.mapNested, Segment.nested]

theorem Segment.nestedEach_mapNestedEach : ∀ ss : List Segment,
    Segment.nestedEach (Segment.mapNestedEach f ss) = (Segment.nestedEach ss).map f
  | [] => by simp [Segment.mapNestedEach, Segment.nestedEach]
  | s :: ss => by
    rw [Segment.mapNestedEach, Segment.nestedEach, Segment.nestedEach, List.map_append,
      Segment.nested_mapNested s, Segment.nestedEach_mapNestedEach ss]

/-- An associated item is a segment with arguments of its own, which come first. -/
theorem Arg.nested_mapNested : ∀ a : Arg, (a.mapNested f).nested = a.nested.map f
  | .lifetime name => by simp [Arg.mapNested, Arg.nested]
  | .type ty => by simp [Arg.mapNested, Arg.nested]
  | .const value => by
    rw [Arg.mapNested, Arg.nested, Arg.nested, Piece.flatMap_nested_mapNested]
  | .assocType item ty => by
    rw [Arg.mapNested, Arg.nested, Arg.nested, Segment.nested_mapNested item, List.map_append]
    rfl
  | .assocConst item value => by
    rw [Arg.mapNested, Arg.nested, Arg.nested, Segment.nested_mapNested item,
      Piece.flatMap_nested_mapNested, List.map_append]
  | .constraint item list trailing => by
    rw [Arg.mapNested, Arg.nested, Arg.nested, Segment.nested_mapNested item,
      Bound.nestedEach_mapNestedEach list, List.map_append]

theorem Arg.nestedEach_mapNestedEach : ∀ as : List Arg,
    Arg.nestedEach (Arg.mapNestedEach f as) = (Arg.nestedEach as).map f
  | [] => by simp [Arg.mapNestedEach, Arg.nestedEach]
  | a :: as => by
    rw [Arg.mapNestedEach, Arg.nestedEach, Arg.nestedEach, List.map_append,
      Arg.nested_mapNested a, Arg.nestedEach_mapNestedEach as]

/-- A bound has its binder in front of the path of the trait. -/
theorem Bound.nested_mapNested : ∀ b : Bound, (b.mapNested f).nested = b.nested.map f
  | .lifetime name => by simp [Bound.mapNested, Bound.nested]
  | .trait parenthesized maybe binder rooted segments => by
    rw [Bound.mapNested, Bound.nested, Bound.nested, Piece.flatMap_nested_mapNested,
      Segment.nestedEach_mapNestedEach segments, List.map_append]
  | .verbatim tokens => by simp [Bound.mapNested, Bound.nested]

theorem Bound.nestedEach_mapNestedEach : ∀ bs : List Bound,
    Bound.nestedEach (Bound.mapNestedEach f bs) = (Bound.nestedEach bs).map f
  | [] => by simp [Bound.mapNestedEach, Bound.nestedEach]
  | b :: bs => by
    rw [Bound.mapNestedEach, Bound.nestedEach, Bound.nestedEach, List.map_append,
      Bound.nested_mapNested b, Bound.nestedEach_mapNestedEach bs]

end

/-- The types inside of the result are what the types inside were turned into. -/
theorem Ty.nested_mapNested (ty : Ty) : (ty.mapNested f).nested = ty.nested.map f := by
  cases ty with
  | path rooted segments =>
    rw [Ty.mapNested, Ty.nested, Ty.nested, Segment.nestedEach_mapNestedEach]
  | qualified ty rooted trait rest =>
    rw [Ty.mapNested, Ty.nested, Ty.nested, Segment.nestedEach_mapNestedEach,
      Segment.nestedEach_mapNestedEach, List.map_cons, List.map_append]
  | array element length =>
    rw [Ty.mapNested, Ty.nested, Ty.nested, Piece.flatMap_nested_mapNested, List.map_cons]
  | function binder qualifiers params trailing variadic output =>
    -- parameters are no mutual members, so their laws are put together here
    have hparams : (params.map (FnParam.mapNested f)).flatMap FnParam.nested =
        (params.flatMap FnParam.nested).map f := by
      rw [List.flatMap_map, List.map_flatMap]
      simp only [FnParam.nested_mapNested]
    cases output <;>
      simp [Ty.mapNested, Ty.nested, Piece.flatMap_nested_mapNested, hparams]
  | bounds keyword list trailing =>
    rw [Ty.mapNested, Ty.nested, Ty.nested, Bound.nestedEach_mapNestedEach]
  | _ => rfl

end

/-- Where two replacements give the same, they turn each type inside into the same. -/
theorem Ty.eq_of_mapNested_eq {f g : Ty → Ty} {ty : Ty} (h : ty.mapNested f = ty.mapNested g) :
    ∀ t ∈ ty.nested, f t = g t := by
  -- the lists of what is inside the results are the two images of one list
  have hnested := congrArg Ty.nested h
  rw [Ty.nested_mapNested, Ty.nested_mapNested] at hnested
  exact List.map_inj_left.mp hnested

/-! ## What a replacement depends on -/

section

variable {f g : Ty → Ty}

theorem Piece.mapNested_congr {p : Piece} (h : ∀ t ∈ p.nested, f t = g t) :
    p.mapNested f = p.mapNested g := by
  cases p with
  | token t => rfl
  | type ty => rw [Piece.mapNested, Piece.mapNested, h ty List.mem_cons_self]

/-- A run of pieces depends on the types in it alone. -/
theorem Piece.map_mapNested_congr {ps : List Piece}
    (h : ∀ t ∈ ps.flatMap Piece.nested, f t = g t) :
    ps.map (Piece.mapNested f) = ps.map (Piece.mapNested g) :=
  List.map_congr_left fun p hp =>
    Piece.mapNested_congr fun t ht => h t (List.mem_flatMap.mpr ⟨p, hp, ht⟩)

theorem FnParam.mapNested_congr {p : FnParam} (h : ∀ t ∈ p.nested, f t = g t) :
    p.mapNested f = p.mapNested g := by
  cases p with
  | mk attributes name ty =>
    rw [FnParam.nested, List.forall_mem_append, List.forall_mem_singleton] at h
    rw [FnParam.mapNested, FnParam.mapNested, Piece.map_mapNested_congr h.1, h.2]

-- The lists of what is inside are appended along the members, and so the assumption splits.
mutual

/-- A segment depends on what its arguments turn into. -/
theorem Segment.mapNested_congr : ∀ s : Segment, (∀ t ∈ s.nested, f t = g t) →
    s.mapNested f = s.mapNested g
  | .plain name, _ => by rw [Segment.mapNested, Segment.mapNested]
  | .angled name turbofish args trailing, h => by
    rw [Segment.nested] at h
    rw [Segment.mapNested, Segment.mapNested, Arg.mapNestedEach_congr args h]
  | .called name inputs trailing output, h => by
    rw [Segment.nested, List.forall_mem_append] at h
    have houtput : output.map f = output.map g :=
      Option.map_congr fun t ht => h.2 t (Option.mem_toList.mpr ht)
    rw [Segment.mapNested, Segment.mapNested, List.map_congr_left h.1, houtput]

theorem Segment.mapNestedEach_congr : ∀ ss : List Segment,
    (∀ t ∈ Segment.nestedEach ss, f t = g t) →
      Segment.mapNestedEach f ss = Segment.mapNestedEach g ss
  | [], _ => by rw [Segment.mapNestedEach, Segment.mapNestedEach]
  | s :: ss, h => by
    rw [Segment.nestedEach, List.forall_mem_append] at h
    rw [Segment.mapNestedEach, Segment.mapNestedEach, Segment.mapNested_congr s h.1,
      Segment.mapNestedEach_congr ss h.2]

theorem Arg.mapNested_congr : ∀ a : Arg, (∀ t ∈ a.nested, f t = g t) →
    a.mapNested f = a.mapNested g
  | .lifetime name, _ => by rw [Arg.mapNested, Arg.mapNested]
  | .type ty, h => by
    rw [Arg.nested, List.forall_mem_singleton] at h
    rw [Arg.mapNested, Arg.mapNested, h]
  | .const value, h => by
    rw [Arg.nested] at h
    rw [Arg.mapNested, Arg.mapNested, Piece.map_mapNested_congr h]
  | .assocType item ty, h => by
    rw [Arg.nested, List.forall_mem_append, List.forall_mem_singleton] at h
    rw [Arg.mapNested, Arg.mapNested, Segment.mapNested_congr item h.1, h.2]
  | .assocConst item value, h => by
    rw [Arg.nested, List.forall_mem_append] at h
    rw [Arg.mapNested, Arg.mapNested, Segment.mapNested_congr item h.1,
      Piece.map_mapNested_congr h.2]
  | .constraint item list trailing, h => by
    rw [Arg.nested, List.forall_mem_append] at h
    rw [Arg.mapNested, Arg.mapNested, Segment.mapNested_congr item h.1,
      Bound.mapNestedEach_congr list h.2]

theorem Arg.mapNestedEach_congr : ∀ as : List Arg, (∀ t ∈ Arg.nestedEach as, f t = g t) →
    Arg.mapNestedEach f as = Arg.mapNestedEach g as
  | [], _ => by rw [Arg.mapNestedEach, Arg.mapNestedEach]
  | a :: as, h => by
    rw [Arg.nestedEach, List.forall_mem_append] at h
    rw [Arg.mapNestedEach, Arg.mapNestedEach, Arg.mapNested_congr a h.1,
      Arg.mapNestedEach_congr as h.2]

/-- A bound depends on what is in its binder and in the path of its trait. -/
theorem Bound.mapNested_congr : ∀ b : Bound, (∀ t ∈ b.nested, f t = g t) →
    b.mapNested f = b.mapNested g
  | .lifetime name, _ => by rw [Bound.mapNested, Bound.mapNested]
  | .trait parenthesized maybe binder rooted segments, h => by
    rw [Bound.nested, List.forall_mem_append] at h
    rw [Bound.mapNested, Bound.mapNested, Piece.map_mapNested_congr h.1,
      Segment.mapNestedEach_congr segments h.2]
  | .verbatim tokens, _ => by rw [Bound.mapNested, Bound.mapNested]

theorem Bound.mapNestedEach_congr : ∀ bs : List Bound,
    (∀ t ∈ Bound.nestedEach bs, f t = g t) →
      Bound.mapNestedEach f bs = Bound.mapNestedEach g bs
  | [], _ => by rw [Bound.mapNestedEach, Bound.mapNestedEach]
  | b :: bs, h => by
    rw [Bound.nestedEach, List.forall_mem_append] at h
    rw [Bound.mapNestedEach, Bound.mapNestedEach, Bound.mapNested_congr b h.1,
      Bound.mapNestedEach_congr bs h.2]

end

/-- What becomes of a type depends only on what becomes of the types inside. -/
theorem Ty.mapNested_congr {ty : Ty} (h : ∀ t ∈ ty.nested, f t = g t) :
    ty.mapNested f = ty.mapNested g := by
  cases ty with
  | path rooted segments =>
    rw [Ty.mapNested, Ty.mapNested, Segment.mapNestedEach_congr segments h]
  | qualified ty rooted trait rest =>
    rw [Ty.nested, List.forall_mem_cons, List.forall_mem_append] at h
    obtain ⟨hty, htrait, hrest⟩ := h
    rw [Ty.mapNested, Ty.mapNested, hty, Segment.mapNestedEach_congr trait htrait,
      Segment.mapNestedEach_congr rest hrest]
  | array element length =>
    rw [Ty.nested, List.forall_mem_cons] at h
    rw [Ty.mapNested, Ty.mapNested, h.1, Piece.map_mapNested_congr h.2]
  | tuple elements trailing =>
    rw [Ty.nested] at h
    rw [Ty.mapNested, Ty.mapNested, List.map_congr_left h]
  | function binder qualifiers params trailing variadic output =>
    simp only [Ty.nested, List.forall_mem_append] at h
    -- `f` and `g` agree at each of the four places, so each place is rewritten alike
    obtain ⟨⟨⟨hbinder, hparams⟩, hvariadic⟩, houtput⟩ := h
    have hparams' : params.map (FnParam.mapNested f) = params.map (FnParam.mapNested g) :=
      List.map_congr_left fun p hp =>
        FnParam.mapNested_congr fun t ht => hparams t (List.mem_flatMap.mpr ⟨p, hp, ht⟩)
    have houtput' : output.map f = output.map g :=
      Option.map_congr fun t ht => houtput t (Option.mem_toList.mpr ht)
    rw [Ty.mapNested, Ty.mapNested, Piece.map_mapNested_congr hbinder, hparams',
      Piece.map_mapNested_congr hvariadic, houtput']
  | bounds keyword list trailing =>
    rw [Ty.mapNested, Ty.mapNested, Bound.mapNestedEach_congr list h]
  | reference region mutable target => rw [Ty.mapNested, Ty.mapNested, h _ List.mem_cons_self]
  | pointer mutable target => rw [Ty.mapNested, Ty.mapNested, h _ List.mem_cons_self]
  | slice element => rw [Ty.mapNested, Ty.mapNested, h _ List.mem_cons_self]
  | paren inner => rw [Ty.mapNested, Ty.mapNested, h _ List.mem_cons_self]
  | never => rfl
  | inferred => rfl
  | verbatim tokens => rfl

end

section

/-- To put every type back is to change nothing, in a piece of code as in all members. -/
theorem Piece.mapNested_id (p : Piece) : p.mapNested id = p := by
  cases p <;> rfl

theorem Piece.map_mapNested_id (ps : List Piece) : ps.map (Piece.mapNested id) = ps := by
  rw [funext Piece.mapNested_id]
  exact List.map_id' ps

theorem FnParam.mapNested_id (p : FnParam) : p.mapNested id = p := by
  cases p
  rw [FnParam.mapNested, Piece.map_mapNested_id]
  rfl

mutual

theorem Segment.mapNested_id : ∀ s : Segment, s.mapNested id = s
  | .plain name => by rw [Segment.mapNested]
  | .angled name turbofish args trailing => by rw [Segment.mapNested, Arg.mapNestedEach_id args]
  | .called name inputs trailing output => by
    rw [Segment.mapNested, List.map_id, Option.map_id, id]

theorem Segment.mapNestedEach_id : ∀ ss : List Segment, Segment.mapNestedEach id ss = ss
  | [] => by rw [Segment.mapNestedEach]
  | s :: ss => by
    rw [Segment.mapNestedEach, Segment.mapNested_id s, Segment.mapNestedEach_id ss]

theorem Arg.mapNested_id : ∀ a : Arg, a.mapNested id = a
  | .lifetime name => by rw [Arg.mapNested]
  | .type ty => by rw [Arg.mapNested, id]
  | .const value => by rw [Arg.mapNested, Piece.map_mapNested_id]
  | .assocType item ty => by rw [Arg.mapNested, Segment.mapNested_id item, id]
  | .assocConst item value => by
    rw [Arg.mapNested, Segment.mapNested_id item, Piece.map_mapNested_id]
  | .constraint item list trailing => by
    rw [Arg.mapNested, Segment.mapNested_id item, Bound.mapNestedEach_id list]

theorem Arg.mapNestedEach_id : ∀ as : List Arg, Arg.mapNestedEach id as = as
  | [] => by rw [Arg.mapNestedEach]
  | a :: as => by rw [Arg.mapNestedEach, Arg.mapNested_id a, Arg.mapNestedEach_id as]

theorem Bound.mapNested_id : ∀ b : Bound, b.mapNested id = b
  | .lifetime name => by rw [Bound.mapNested]
  | .trait parenthesized maybe binder rooted segments => by
    rw [Bound.mapNested, Piece.map_mapNested_id, Segment.mapNestedEach_id segments]
  | .verbatim tokens => by rw [Bound.mapNested]

theorem Bound.mapNestedEach_id : ∀ bs : List Bound, Bound.mapNestedEach id bs = bs
  | [] => by rw [Bound.mapNestedEach]
  | b :: bs => by rw [Bound.mapNestedEach, Bound.mapNested_id b, Bound.mapNestedEach_id bs]

end

/-- A type with each type inside put back is that type. -/
theorem Ty.mapNested_id (ty : Ty) : ty.mapNested id = ty := by
  cases ty with
  | path rooted segments => rw [Ty.mapNested, Segment.mapNestedEach_id]
  | qualified ty rooted trait rest =>
    rw [Ty.mapNested, Segment.mapNestedEach_id, Segment.mapNestedEach_id, id]
  | array element length => rw [Ty.mapNested, Piece.map_mapNested_id, id]
  | tuple elements trailing => rw [Ty.mapNested, List.map_id]
  | function binder qualifiers params trailing variadic output =>
    rw [Ty.mapNested, Piece.map_mapNested_id, Piece.map_mapNested_id, funext FnParam.mapNested_id,
      List.map_id', Option.map_id, id]
  | bounds keyword list trailing => rw [Ty.mapNested, Bound.mapNestedEach_id]
  -- the others have one type inside, or none
  | _ => rfl

/-- A type is left as it is if the types inside are. -/
theorem Ty.mapNested_eq_self {f : Ty → Ty} {ty : Ty} (h : ∀ t ∈ ty.nested, f t = t) :
    ty.mapNested f = ty := by
  rw [Ty.mapNested_congr h]
  exact Ty.mapNested_id ty

end

/-! ## Induction on nesting -/

/-- The type in a piece is smaller than the piece. -/
theorem Piece.sizeOf_lt_of_mem_nested {p : Piece} {t : Ty} (h : t ∈ p.nested) :
    sizeOf t < sizeOf p := by
  cases p with
  | token u => exact absurd h List.not_mem_nil
  | type ty =>
    rw [Piece.nested, List.mem_singleton] at h
    rw [h, Piece.type.sizeOf_spec]
    omega

/-- It is smaller still than a run with that piece in it. -/
theorem Piece.sizeOf_lt_of_mem_flatMap {ps : List Piece} {t : Ty}
    (h : t ∈ ps.flatMap Piece.nested) : sizeOf t < sizeOf ps := by
  obtain ⟨p, hp, ht⟩ := List.mem_flatMap.mp h
  exact Nat.lt_trans (Piece.sizeOf_lt_of_mem_nested ht) (List.sizeOf_lt_of_mem hp)

/-- Types in a parameter are those in its attributes and its own. -/
theorem FnParam.sizeOf_lt_of_mem_nested {p : FnParam} {t : Ty} (h : t ∈ p.nested) :
    sizeOf t < sizeOf p := by
  cases p with
  | mk attributes name ty =>
    rw [FnParam.nested, List.mem_append, List.mem_singleton] at h
    rw [FnParam.mk.sizeOf_spec]
    rcases h with h | rfl
    · have := Piece.sizeOf_lt_of_mem_flatMap h
      omega
    · omega

theorem Ty.sizeOf_lt_of_mem_output {output : Option Ty} {t : Ty} (h : t ∈ output.toList) :
    sizeOf t < sizeOf output := by
  rw [Option.mem_toList] at h
  rw [h, Option.some.sizeOf_spec]
  omega

-- What is inside of a member is smaller than the member, and the member than the whole.
mutual

/-- A segment is larger than what is in its arguments. -/
theorem Segment.sizeOf_lt_of_mem_nested {t : Ty} : ∀ s : Segment, t ∈ s.nested →
    sizeOf t < sizeOf s
  | .plain name, h => by simp [Segment.nested] at h
  | .angled name turbofish args trailing, h => by
    rw [Segment.nested] at h
    have := Arg.sizeOf_lt_of_mem_nestedEach args h
    rw [Segment.angled.sizeOf_spec]
    omega
  | .called name inputs trailing output, h => by
    rw [Segment.nested, List.mem_append] at h
    rw [Segment.called.sizeOf_spec]
    -- an input of `Fn(..)`, or its output
    rcases h with h | h
    · have := List.sizeOf_lt_of_mem h
      omega
    · have := Ty.sizeOf_lt_of_mem_output h
      omega

theorem Segment.sizeOf_lt_of_mem_nestedEach {t : Ty} : ∀ ss : List Segment,
    t ∈ Segment.nestedEach ss → sizeOf t < sizeOf ss
  | [], h => by simp [Segment.nestedEach] at h
  | s :: ss, h => by
    rw [Segment.nestedEach, List.mem_append] at h
    rw [List.cons.sizeOf_spec]
    rcases h with h | h
    · have := Segment.sizeOf_lt_of_mem_nested s h
      omega
    · have := Segment.sizeOf_lt_of_mem_nestedEach ss h
      omega

/-- An argument is larger than the types in it, and those of an associated item are in its
segment. -/
theorem Arg.sizeOf_lt_of_mem_nested {t : Ty} : ∀ a : Arg, t ∈ a.nested → sizeOf t < sizeOf a
  | .lifetime name, h => by simp [Arg.nested] at h
  | .type ty, h => by
    rw [Arg.nested, List.mem_singleton] at h
    rw [h, Arg.type.sizeOf_spec]
    omega
  | .const value, h => by
    rw [Arg.nested] at h
    have := Piece.sizeOf_lt_of_mem_flatMap h
    rw [Arg.const.sizeOf_spec]
    omega
  | .assocType item ty, h => by
    -- either inside the item's own arguments or the type after the `=`
    rw [Arg.nested, List.mem_append, List.mem_singleton] at h
    rw [Arg.assocType.sizeOf_spec]
    rcases h with h | rfl
    · have := Segment.sizeOf_lt_of_mem_nested item h
      omega
    · omega
  | .assocConst item value, h => by
    rw [Arg.nested, List.mem_append] at h
    rw [Arg.assocConst.sizeOf_spec]
    rcases h with h | h
    · have := Segment.sizeOf_lt_of_mem_nested item h
      omega
    · have := Piece.sizeOf_lt_of_mem_flatMap h
      omega
  | .constraint item list trailing, h => by
    rw [Arg.nested, List.mem_append] at h
    rw [Arg.constraint.sizeOf_spec]
    rcases h with h | h
    · have := Segment.sizeOf_lt_of_mem_nested item h
      omega
    · have := Bound.sizeOf_lt_of_mem_nestedEach list h
      omega

theorem Arg.sizeOf_lt_of_mem_nestedEach {t : Ty} : ∀ as : List Arg,
    t ∈ Arg.nestedEach as → sizeOf t < sizeOf as
  | [], h => by simp [Arg.nestedEach] at h
  | a :: as, h => by
    rw [Arg.nestedEach, List.mem_append] at h
    rw [List.cons.sizeOf_spec]
    rcases h with h | h
    · have := Arg.sizeOf_lt_of_mem_nested a h
      omega
    · have := Arg.sizeOf_lt_of_mem_nestedEach as h
      omega

/-- A bound is larger than what is in its binder and in its path. -/
theorem Bound.sizeOf_lt_of_mem_nested {t : Ty} : ∀ b : Bound, t ∈ b.nested →
    sizeOf t < sizeOf b
  | .lifetime name, h => by simp [Bound.nested] at h
  | .trait parenthesized maybe binder rooted segments, h => by
    rw [Bound.nested, List.mem_append] at h
    rw [Bound.trait.sizeOf_spec]
    rcases h with h | h
    · have := Piece.sizeOf_lt_of_mem_flatMap h
      omega
    · have := Segment.sizeOf_lt_of_mem_nestedEach segments h
      omega
  | .verbatim tokens, h => by simp [Bound.nested] at h

theorem Bound.sizeOf_lt_of_mem_nestedEach {t : Ty} : ∀ bs : List Bound,
    t ∈ Bound.nestedEach bs → sizeOf t < sizeOf bs
  | [], h => by simp [Bound.nestedEach] at h
  | b :: bs, h => by
    rw [Bound.nestedEach, List.mem_append] at h
    rw [List.cons.sizeOf_spec]
    rcases h with h | h
    · have := Bound.sizeOf_lt_of_mem_nested b h
      omega
    · have := Bound.sizeOf_lt_of_mem_nestedEach bs h
      omega

end

/-- A type is larger than the types inside of it. -/
theorem Ty.sizeOf_lt_of_mem_nested {ty t : Ty} (h : t ∈ ty.nested) : sizeOf t < sizeOf ty := by
  cases ty with
  | path rooted segments =>
    -- a path nests types in its segments alone, and each segment is smaller than the path
    have := Segment.sizeOf_lt_of_mem_nestedEach segments h
    rw [Ty.path.sizeOf_spec]
    omega
  | qualified ty rooted trait rest =>
    -- the type itself, then the trait's segments, then those that follow
    rw [Ty.nested, List.mem_cons, List.mem_append] at h
    rw [Ty.qualified.sizeOf_spec]
    rcases h with rfl | h | h
    · omega
    · have := Segment.sizeOf_lt_of_mem_nestedEach trait h
      omega
    · have := Segment.sizeOf_lt_of_mem_nestedEach rest h
      omega
  | reference region mutable target =>
    rw [Ty.nested, List.mem_singleton] at h
    rw [h, Ty.reference.sizeOf_spec]
    omega
  | pointer mutable target =>
    rw [Ty.nested, List.mem_singleton] at h
    rw [h, Ty.pointer.sizeOf_spec]
    omega
  | slice element =>
    rw [Ty.nested, List.mem_singleton] at h
    rw [h, Ty.slice.sizeOf_spec]
    omega
  | array element length =>
    rw [Ty.nested, List.mem_cons] at h
    rw [Ty.array.sizeOf_spec]
    rcases h with rfl | h
    · omega
    · have := Piece.sizeOf_lt_of_mem_flatMap h
      omega
  | tuple elements trailing =>
    rw [Ty.nested] at h
    have := List.sizeOf_lt_of_mem h
    rw [Ty.tuple.sizeOf_spec]
    omega
  | paren inner =>
    rw [Ty.nested, List.mem_singleton] at h
    rw [h, Ty.paren.sizeOf_spec]
    omega
  | function binder qualifiers params trailing variadic output =>
    -- the four places in the order they are written: binder, parameters, variadic, output
    simp only [Ty.nested, List.mem_append] at h
    rw [Ty.function.sizeOf_spec]
    rcases h with ((h | h) | h) | h
    · have := Piece.sizeOf_lt_of_mem_flatMap h
      omega
    · obtain ⟨p, hp, ht⟩ := List.mem_flatMap.mp h
      have := FnParam.sizeOf_lt_of_mem_nested ht
      have := List.sizeOf_lt_of_mem hp
      omega
    · have := Piece.sizeOf_lt_of_mem_flatMap h
      omega
    · have := Ty.sizeOf_lt_of_mem_output h
      omega
  | bounds keyword list trailing =>
    have := Bound.sizeOf_lt_of_mem_nestedEach list h
    rw [Ty.bounds.sizeOf_spec]
    omega
  | never => exact absurd h List.not_mem_nil
  | inferred => exact absurd h List.not_mem_nil
  | verbatim tokens => exact absurd h List.not_mem_nil

/-- **Induction on nesting.** What holds of a type if it holds of the types inside holds of every
type. -/
theorem Ty.nested_induction {motive : Ty → Prop}
    (step : ∀ ty, (∀ t ∈ ty.nested, motive t) → motive ty) (ty : Ty) : motive ty :=
  step ty fun t ht =>
    -- the size is what the recursion goes down by
    have : sizeOf t < sizeOf ty := Ty.sizeOf_lt_of_mem_nested ht
    Ty.nested_induction step t
termination_by sizeOf ty

end Specimen
