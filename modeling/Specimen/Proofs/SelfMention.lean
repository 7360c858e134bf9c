import Specimen.SelfType

/-!
# Where code says `Self`

`Self` is a keyword, so code names the type around it wherever that token stands. In a type it
stands in two ways: at the start of a path type, where it is spelled out when the type is copied,
and elsewhere: in path expressions, in paths of traits, in the tokens of macros. `Ty.hasSelf` tells
the two apart, by recursion on the type, and `Ty.namesSelf_replaceSelf` says what is left of each.
-/

namespace Specimen

open Token

/-! ## In tokens -/

/-- Whether `Self` stands in code. -/
def namesSelf (ts : List Token) : Bool := ts.contains (ident "Self")

@[simp] theorem namesSelf_nil : namesSelf [] = false := rfl

/-- Code says `Self` if its first token is that, or if the rest says it. -/
@[simp] theorem namesSelf_cons (t : Token) (ts : List Token) :
    namesSelf (t :: ts) = (decide (t = ident "Self") || namesSelf ts) := by
  rw [namesSelf, List.contains_cons, Bool.beq_comm]
  rfl

/-- For a name in front, the comparison is one of texts. The priority lets this rule apply before
the one for any token. -/
@[simp 1100] theorem namesSelf_ident_cons (name : String) (ts : List Token) :
    namesSelf (ident name :: ts) = (decide (name = "Self") || namesSelf ts) := by
  rw [namesSelf_cons]
  congr 1
  exact decide_eq_decide.mpr (by rw [Token.ident.injEq])

/-- Code that is put together says `Self` if one of its parts does. -/
@[simp] theorem namesSelf_append (ts us : List Token) :
    namesSelf (ts ++ us) = (namesSelf ts || namesSelf us) := by
  induction ts with
  | nil => rfl
  | cons t ts ih => rw [List.cons_append, namesSelf_cons, ih, namesSelf_cons, Bool.or_assoc]

/-- Marks are no names. -/
theorem namesSelf_marks (cs : List Char) : namesSelf (marks cs) = false := by
  induction cs with
  | nil => rfl
  | cons c cs ih =>
    cases cs with
    | nil => simp [marks]
    | cons c' cs => simpa [marks] using ih

@[simp] theorem namesSelf_sym (s : String) : namesSelf (sym s) = false := namesSelf_marks _

/-- Brackets say nothing themselves. -/
@[simp] theorem namesSelf_group (d : Delimiter) (ts : List Token) :
    namesSelf (group d ts) = namesSelf ts := by
  simp [group]

@[simp] theorem namesSelf_parens (ts : List Token) : namesSelf (parens ts) = namesSelf ts :=
  namesSelf_group _ ts

@[simp] theorem namesSelf_brackets (ts : List Token) : namesSelf (brackets ts) = namesSelf ts :=
  namesSelf_group _ ts

/-- Neither does what stands between pieces, so a list says `Self` if a piece does. -/
@[simp] theorem namesSelf_separated (s : String) (xs : List (List Token)) :
    namesSelf (separated (sym s) xs) = xs.any namesSelf := by
  induction xs with
  | nil => rfl
  | cons x xs ih =>
    -- a separator stands only in front of a piece that is not the first
    cases xs with
    | nil => simp [separated]
    | cons y ys => rw [separated_cons_cons, namesSelf_append, ih, namesSelf_append]; simp

/-- A mark at the end changes nothing. -/
@[simp] theorem namesSelf_punctuated (s : String) (xs : List (List Token)) (trailing : Bool) :
    namesSelf (punctuated (sym s) xs trailing) = xs.any namesSelf := by
  rw [punctuated, namesSelf_append, namesSelf_separated]
  split <;> simp

@[simp] theorem namesSelf_root (rooted : Bool) : namesSelf (root rooted) = false := by
  cases rooted <;> rfl

@[simp] theorem namesSelf_optionalLifetime (region : Option String) :
    namesSelf (optionalLifetime region) = false := by
  cases region <;> simp [optionalLifetime]

@[simp] theorem namesSelf_keyword (k : BoundsKeyword) : namesSelf k.tokens = false := by
  cases k <;> decide

/-! ## In types -/

/-- Whether a path type starts with a bare `Self`, and so is spelled out. -/
def startsWithSelf : Bool → List Segment → Bool
  | false, .plain name :: _ => name = "Self"
  | _, _ => false

/-- Whether some segment is called `Self`. -/
def namedSelf (segments : List Segment) : Bool := segments.any (·.name = "Self")

mutual

/-- Whether `Self` stands in a type: at the start of a path type if `spelled`, and elsewhere if
`other`. -/
def Ty.hasSelf (spelled other : Bool) : Ty → Bool
  | .path rooted segments =>
    (if startsWithSelf rooted segments then spelled || (other && namedSelf segments.tail)
     else other && namedSelf segments) || Segment.hasSelfEach spelled other segments
  | .qualified ty _ trait rest =>
    ty.hasSelf spelled other || (other && namedSelf trait) ||
      Segment.hasSelfEach spelled other trait || (other && namedSelf rest) ||
      Segment.hasSelfEach spelled other rest
  | .reference _ _ target => target.hasSelf spelled other
  | .pointer _ target => target.hasSelf spelled other
  | .slice element => element.hasSelf spelled other
  | .array element length =>
    element.hasSelf spelled other || Piece.hasSelfEach spelled other length
  | .tuple elements _ => Ty.hasSelfEach spelled other elements
  | .paren inner => inner.hasSelf spelled other
  | .function binder qualifiers params _ variadic output =>
    Piece.hasSelfEach spelled other binder || (other && namesSelf qualifiers) ||
      FnParam.hasSelfEach spelled other params || Piece.hasSelfEach spelled other variadic ||
      Ty.hasSelfOutput spelled other output
  | .bounds _ list _ => Bound.hasSelfEach spelled other list
  | .never => false
  | .inferred => false
  -- tokens that were kept as they are have no path types in them
  | .verbatim tokens => other && namesSelf tokens

def Ty.hasSelfEach (spelled other : Bool) : List Ty → Bool
  | [] => false
  | t :: ts => t.hasSelf spelled other || Ty.hasSelfEach spelled other ts

def Ty.hasSelfOutput (spelled other : Bool) : Option Ty → Bool
  | none => false
  | some t => t.hasSelf spelled other

/-- Whether `Self` stands in the arguments of a segment. -/
def Segment.hasSelf (spelled other : Bool) : Segment → Bool
  | .plain _ => false
  | .angled _ _ args _ => Arg.hasSelfEach spelled other args
  | .called _ inputs _ output =>
    Ty.hasSelfEach spelled other inputs || Ty.hasSelfOutput spelled other output

def Segment.hasSelfEach (spelled other : Bool) : List Segment → Bool
  | [] => false
  | s :: ss => s.hasSelf spelled other || Segment.hasSelfEach spelled other ss

def Arg.hasSelf (spelled other : Bool) : Arg → Bool
  | .lifetime _ => false
  | .type ty => ty.hasSelf spelled other
  | .const value => Piece.hasSelfEach spelled other value
  | .assocType item ty =>
    (other && item.name = "Self") || item.hasSelf spelled other || ty.hasSelf spelled other
  | .assocConst item value =>
    (other && item.name = "Self") || item.hasSelf spelled other ||
      Piece.hasSelfEach spelled other value
  | .constraint item list _ =>
    (other && item.name = "Self") || item.hasSelf spelled other ||
      Bound.hasSelfEach spelled other list

def Arg.hasSelfEach (spelled other : Bool) : List Arg → Bool
  | [] => false
  | a :: as => a.hasSelf spelled other || Arg.hasSelfEach spelled other as

def Bound.hasSelf (spelled other : Bool) : Bound → Bool
  | .lifetime _ => false
  | .trait _ _ binder _ segments =>
    Piece.hasSelfEach spelled other binder || (other && namedSelf segments) ||
      Segment.hasSelfEach spelled other segments
  | .verbatim tokens => other && namesSelf tokens

def Bound.hasSelfEach (spelled other : Bool) : List Bound → Bool
  | [] => false
  | b :: bs => b.hasSelf spelled other || Bound.hasSelfEach spelled other bs

def FnParam.hasSelf (spelled other : Bool) : FnParam → Bool
  | .mk attributes name ty =>
    Piece.hasSelfEach spelled other attributes || (other && name = some "Self") ||
      ty.hasSelf spelled other

def FnParam.hasSelfEach (spelled other : Bool) : List FnParam → Bool
  | [] => false
  | p :: ps => p.hasSelf spelled other || FnParam.hasSelfEach spelled other ps

def Piece.hasSelf (spelled other : Bool) : Piece → Bool
  | .token t => other && t = ident "Self"
  | .type ty => ty.hasSelf spelled other

def Piece.hasSelfEach (spelled other : Bool) : List Piece → Bool
  | [] => false
  | p :: ps => p.hasSelf spelled other || Piece.hasSelfEach spelled other ps

end

/-- A path type that is spelled out has `Self` in front. -/
theorem exists_of_startsWithSelf {rooted : Bool} {segments : List Segment}
    (h : startsWithSelf rooted segments = true) :
    rooted = false ∧ ∃ rest, segments = .plain "Self" :: rest := by
  unfold startsWithSelf at h
  split at h
  · next name rest => exact ⟨rfl, rest, by rw [of_decide_eq_true h]⟩
  · simp at h

/-! ## Types and their tokens -/

mutual

/-- **`Self` in a type** is `Self` in its tokens. -/
theorem Ty.namesSelf_tokens : ∀ ty : Ty, namesSelf ty.tokens = ty.hasSelf true true
  | .path rooted segments => by
    have hs := Segment.any_tokensEach segments
    rw [Ty.tokens, Ty.hasSelf, namesSelf_append, namesSelf_root, namesSelf_separated, hs]
    -- where both ways count, it does not matter which of them a first segment is
    cases h : startsWithSelf rooted segments with
    | true =>
      obtain ⟨-, rest, rfl⟩ := exists_of_startsWithSelf h
      simp [namedSelf, Segment.name]
    | false => simp
  | .qualified ty rooted trait rest => by
    have ht := Ty.namesSelf_tokens ty
    have htrait := Segment.any_tokensEach trait
    have hrest := Segment.any_tokensEach rest
    -- without a trait there is no `as`
    cases htr : trait.isEmpty with
    | true =>
      rw [List.isEmpty_iff] at htr
      subst htr
      simp [Ty.tokens, Ty.hasSelf, ht, hrest, namedSelf, Segment.hasSelfEach, Bool.or_assoc]
    | false => simp [Ty.tokens, Ty.hasSelf, ht, htrait, hrest, htr, Bool.or_assoc]
  | .reference region mutable target => by
    have ht := Ty.namesSelf_tokens target
    cases mutable <;> simp [Ty.tokens, Ty.hasSelf, ht]
  | .pointer mutable target => by
    have ht := Ty.namesSelf_tokens target
    cases mutable <;> simp [Ty.tokens, Ty.hasSelf, ht]
  | .slice element => by
    have he := Ty.namesSelf_tokens element
    simp [Ty.tokens, Ty.hasSelf, he]
  | .array element length => by
    have he := Ty.namesSelf_tokens element
    have hl := Piece.namesSelf_tokensOf length
    simp [Ty.tokens, Ty.hasSelf, he, hl]
  | .tuple elements trailing => by
    have he := Ty.any_tokensEach elements
    simp [Ty.tokens, Ty.hasSelf, he]
  | .paren inner => by
    have hi := Ty.namesSelf_tokens inner
    simp [Ty.tokens, Ty.hasSelf, hi]
  | .function binder qualifiers params trailing variadic output => by
    have hb := Piece.namesSelf_tokensOf binder
    have hp := FnParam.any_tokensEach params
    have hv := Piece.namesSelf_tokensOf variadic
    have ho := Ty.namesSelf_tokensOfOutput output
    simp [Ty.tokens, Ty.hasSelf, hb, hp, hv, ho, Bool.or_assoc]
  | .bounds keyword list trailing => by
    have hl := Bound.any_tokensEach list
    simp [Ty.tokens, Ty.hasSelf, hl]
  | .never => by simp [Ty.tokens, Ty.hasSelf]
  | .inferred => by simp [Ty.tokens, Ty.hasSelf]
  | .verbatim tokens => by simp [Ty.tokens, Ty.hasSelf]

/-- Types one by one, as a list of arguments writes them. -/
theorem Ty.any_tokensEach : ∀ ts : List Ty,
    (Ty.tokensEach ts).any namesSelf = Ty.hasSelfEach true true ts
  | [] => by simp [Ty.tokensEach, Ty.hasSelfEach]
  | t :: ts => by
    rw [Ty.tokensEach, List.any_cons, Ty.namesSelf_tokens t, Ty.any_tokensEach ts, Ty.hasSelfEach]

theorem Ty.namesSelf_tokensOfOutput : ∀ output : Option Ty,
    namesSelf (Ty.tokensOfOutput output) = Ty.hasSelfOutput true true output
  | none => by simp [Ty.tokensOfOutput, Ty.hasSelfOutput]
  | some t => by
    rw [Ty.tokensOfOutput, namesSelf_append, namesSelf_sym, Ty.namesSelf_tokens t,
      Ty.hasSelfOutput, Bool.false_or]

/-- A segment is written as its name and its arguments. The name is not part of `Segment.hasSelf`,
since what it counts for depends on where the segment stands. -/
theorem Segment.namesSelf_tokens : ∀ s : Segment,
    namesSelf s.tokens = (decide (s.name = "Self") || s.hasSelf true true)
  | .plain name => by
    show _ = (decide (name = "Self") || _)
    simp [Segment.tokens, Segment.hasSelf]
  | .angled name turbofish args trailing => by
    have ha := Arg.any_tokensEach args
    show _ = (decide (name = "Self") || _)
    simp [Segment.tokens, Segment.hasSelf, ha]
  | .called name inputs trailing output => by
    have hi := Ty.any_tokensEach inputs
    have ho := Ty.namesSelf_tokensOfOutput output
    show _ = (decide (name = "Self") || _)
    simp [Segment.tokens, Segment.hasSelf, hi, ho]

/-- Segments one by one: their names together, then what stands in their arguments. -/
theorem Segment.any_tokensEach : ∀ ss : List Segment,
    (Segment.tokensEach ss).any namesSelf = (namedSelf ss || Segment.hasSelfEach true true ss)
  | [] => by simp [Segment.tokensEach, Segment.hasSelfEach, namedSelf]
  | s :: ss => by
    have hs := Segment.namesSelf_tokens s
    have hss := Segment.any_tokensEach ss
    simp only [Segment.tokensEach, Segment.hasSelfEach, namedSelf, List.any_cons, hs, hss]
    -- the names come first on the right and with their arguments on the left
    rw [Bool.or_assoc, Bool.or_assoc, Bool.or_left_comm (s.hasSelf true true)]

theorem Arg.namesSelf_tokens : ∀ a : Arg, namesSelf a.tokens = a.hasSelf true true
  | .lifetime name => by simp [Arg.tokens, Arg.hasSelf]
  | .type ty => by rw [Arg.tokens, Arg.hasSelf, Ty.namesSelf_tokens ty]
  | .const value => by rw [Arg.tokens, Arg.hasSelf, Piece.namesSelf_tokensOf value]
  | .assocType item ty => by
    have hi := Segment.namesSelf_tokens item
    have ht := Ty.namesSelf_tokens ty
    simp [Arg.tokens, Arg.hasSelf, hi, ht]
  | .assocConst item value => by
    have hi := Segment.namesSelf_tokens item
    have hv := Piece.namesSelf_tokensOf value
    simp [Arg.tokens, Arg.hasSelf, hi, hv]
  | .constraint item list trailing => by
    have hi := Segment.namesSelf_tokens item
    have hl := Bound.any_tokensEach list
    simp [Arg.tokens, Arg.hasSelf, hi, hl]

theorem Arg.any_tokensEach : ∀ as : List Arg,
    (Arg.tokensEach as).any namesSelf = Arg.hasSelfEach true true as
  | [] => by simp [Arg.tokensEach, Arg.hasSelfEach]
  | a :: as => by
    rw [Arg.tokensEach, List.any_cons, Arg.namesSelf_tokens a, Arg.any_tokensEach as,
      Arg.hasSelfEach]

/-- The marks of a bound, such as `?` and its parentheses, have no part in this. -/
theorem Bound.namesSelf_tokens : ∀ b : Bound, namesSelf b.tokens = b.hasSelf true true
  | .lifetime name => by simp [Bound.tokens, Bound.hasSelf]
  | .trait parenthesized maybe binder rooted segments => by
    have hb := Piece.namesSelf_tokensOf binder
    have hs := Segment.any_tokensEach segments
    cases parenthesized <;> cases maybe <;>
      simp [Bound.tokens, Bound.hasSelf, hb, hs, Bool.or_assoc]
  | .verbatim tokens => by simp [Bound.tokens, Bound.hasSelf]

theorem Bound.any_tokensEach : ∀ bs : List Bound,
    (Bound.tokensEach bs).any namesSelf = Bound.hasSelfEach true true bs
  | [] => by simp [Bound.tokensEach, Bound.hasSelfEach]
  | b :: bs => by
    rw [Bound.tokensEach, List.any_cons, Bound.namesSelf_tokens b, Bound.any_tokensEach bs,
      Bound.hasSelfEach]

theorem FnParam.namesSelf_tokens : ∀ p : FnParam, namesSelf p.tokens = p.hasSelf true true
  | .mk attributes name ty => by
    have ha := Piece.namesSelf_tokensOf attributes
    have ht := Ty.namesSelf_tokens ty
    cases name <;> simp [FnParam.tokens, FnParam.hasSelf, ha, ht, Bool.or_assoc]

theorem FnParam.any_tokensEach : ∀ ps : List FnParam,
    (FnParam.tokensEach ps).any namesSelf = FnParam.hasSelfEach true true ps
  | [] => by simp [FnParam.tokensEach, FnParam.hasSelfEach]
  | p :: ps => by
    rw [FnParam.tokensEach, List.any_cons, FnParam.namesSelf_tokens p, FnParam.any_tokensEach ps,
      FnParam.hasSelfEach]

theorem Piece.namesSelf_tokens : ∀ p : Piece, namesSelf p.tokens = p.hasSelf true true
  | .token t => by simp [Piece.tokens, Piece.hasSelf]
  | .type ty => by rw [Piece.tokens, Piece.hasSelf, Ty.namesSelf_tokens ty]

/-- A run of pieces is written without anything in between. -/
theorem Piece.namesSelf_tokensOf : ∀ ps : List Piece,
    namesSelf (Piece.tokensOf ps) = Piece.hasSelfEach true true ps
  | [] => by simp [Piece.tokensOf, Piece.hasSelfEach]
  | p :: ps => by
    rw [Piece.tokensOf, namesSelf_append, Piece.namesSelf_tokens p, Piece.namesSelf_tokensOf ps,
      Piece.hasSelfEach]

end

/-! ## The two ways to stand in a type -/

mutual

/-- `Self` in a type starts a path type, or it stands elsewhere. -/
theorem Ty.hasSelf_split : ∀ ty : Ty,
    ty.hasSelf true true = (ty.hasSelf false true || ty.hasSelf true false)
  | .path rooted segments => by
    have hs := Segment.hasSelfEach_split segments
    -- what a first segment counts for is decided by its path alone
    cases h : startsWithSelf rooted segments with
    | true => simp [Ty.hasSelf, h]
    | false => simp [Ty.hasSelf, h, hs, Bool.or_assoc]
  | .qualified ty rooted trait rest => by
    have ht := Ty.hasSelf_split ty
    have htrait := Segment.hasSelfEach_split trait
    have hrest := Segment.hasSelfEach_split rest
    simp only [Ty.hasSelf, ht, htrait, hrest, Bool.true_and, Bool.false_and, Bool.or_false]
    ac_rfl
  | .reference region mutable target => by
    rw [Ty.hasSelf, Ty.hasSelf, Ty.hasSelf, Ty.hasSelf_split target]
  | .pointer mutable target => by
    rw [Ty.hasSelf, Ty.hasSelf, Ty.hasSelf, Ty.hasSelf_split target]
  | .slice element => by
    rw [Ty.hasSelf, Ty.hasSelf, Ty.hasSelf, Ty.hasSelf_split element]
  | .array element length => by
    have he := Ty.hasSelf_split element
    have hl := Piece.hasSelfEach_split length
    simp only [Ty.hasSelf, he, hl]
    ac_rfl
  | .tuple elements trailing => by
    rw [Ty.hasSelf, Ty.hasSelf, Ty.hasSelf, Ty.hasSelfEach_split elements]
  | .paren inner => by
    rw [Ty.hasSelf, Ty.hasSelf, Ty.hasSelf, Ty.hasSelf_split inner]
  | .function binder qualifiers params trailing variadic output => by
    have hb := Piece.hasSelfEach_split binder
    have hp := FnParam.hasSelfEach_split params
    have hv := Piece.hasSelfEach_split variadic
    have ho := Ty.hasSelfOutput_split output
    simp only [Ty.hasSelf, hb, hp, hv, ho, Bool.true_and, Bool.false_and, Bool.or_false]
    ac_rfl
  | .bounds keyword list trailing => by
    rw [Ty.hasSelf, Ty.hasSelf, Ty.hasSelf, Bound.hasSelfEach_split list]
  | .never => by simp [Ty.hasSelf]
  | .inferred => by simp [Ty.hasSelf]
  | .verbatim tokens => by simp [Ty.hasSelf]

theorem Ty.hasSelfEach_split : ∀ ts : List Ty,
    Ty.hasSelfEach true true ts = (Ty.hasSelfEach false true ts || Ty.hasSelfEach true false ts)
  | [] => by simp [Ty.hasSelfEach]
  | t :: ts => by
    simp only [Ty.hasSelfEach, Ty.hasSelf_split t, Ty.hasSelfEach_split ts]
    ac_rfl

theorem Ty.hasSelfOutput_split : ∀ output : Option Ty,
    Ty.hasSelfOutput true true output =
      (Ty.hasSelfOutput false true output || Ty.hasSelfOutput true false output)
  | none => by simp [Ty.hasSelfOutput]
  | some t => by simp only [Ty.hasSelfOutput, Ty.hasSelf_split t]

/-- Arguments of a segment are split as the types in them are. -/
theorem Segment.hasSelf_split : ∀ s : Segment,
    s.hasSelf true true = (s.hasSelf false true || s.hasSelf true false)
  | .plain name => by simp [Segment.hasSelf]
  | .angled name turbofish args trailing => by
    simp only [Segment.hasSelf, Arg.hasSelfEach_split args]
  | .called name inputs trailing output => by
    simp only [Segment.hasSelf, Ty.hasSelfEach_split inputs, Ty.hasSelfOutput_split output]
    ac_rfl

theorem Segment.hasSelfEach_split : ∀ ss : List Segment,
    Segment.hasSelfEach true true ss =
      (Segment.hasSelfEach false true ss || Segment.hasSelfEach true false ss)
  | [] => by simp [Segment.hasSelfEach]
  | s :: ss => by
    simp only [Segment.hasSelfEach, Segment.hasSelf_split s, Segment.hasSelfEach_split ss]
    ac_rfl

/-- The name of an associated item is never spelled out, so it falls to the other way. -/
theorem Arg.hasSelf_split : ∀ a : Arg,
    a.hasSelf true true = (a.hasSelf false true || a.hasSelf true false)
  | .lifetime name => by simp [Arg.hasSelf]
  | .type ty => by simp only [Arg.hasSelf, Ty.hasSelf_split ty]
  | .const value => by simp only [Arg.hasSelf, Piece.hasSelfEach_split value]
  | .assocType item ty => by
    -- both parts split; what remains is to reorder the disjunction
    have hi := Segment.hasSelf_split item
    have ht := Ty.hasSelf_split ty
    simp only [Arg.hasSelf, hi, ht, Bool.true_and, Bool.false_and, Bool.false_or]
    ac_rfl
  | .assocConst item value => by
    have hi := Segment.hasSelf_split item
    have hv := Piece.hasSelfEach_split value
    simp only [Arg.hasSelf, hi, hv, Bool.true_and, Bool.false_and, Bool.false_or]
    ac_rfl
  | .constraint item list trailing => by
    have hi := Segment.hasSelf_split item
    have hl := Bound.hasSelfEach_split list
    simp only [Arg.hasSelf, hi, hl, Bool.true_and, Bool.false_and, Bool.false_or]
    ac_rfl

theorem Arg.hasSelfEach_split : ∀ as : List Arg,
    Arg.hasSelfEach true true as =
      (Arg.hasSelfEach false true as || Arg.hasSelfEach true false as)
  | [] => by simp [Arg.hasSelfEach]
  | a :: as => by
    simp only [Arg.hasSelfEach, Arg.hasSelf_split a, Arg.hasSelfEach_split as]
    ac_rfl

/-- The path of a trait is no path type, and falls to the other way with all its names. -/
theorem Bound.hasSelf_split : ∀ b : Bound,
    b.hasSelf true true = (b.hasSelf false true || b.hasSelf true false)
  | .lifetime name => by simp [Bound.hasSelf]
  | .trait parenthesized maybe binder rooted segments => by
    have hb := Piece.hasSelfEach_split binder
    have hs := Segment.hasSelfEach_split segments
    simp only [Bound.hasSelf, hb, hs, Bool.true_and, Bool.false_and, Bool.or_false]
    ac_rfl
  | .verbatim tokens => by simp [Bound.hasSelf]

theorem Bound.hasSelfEach_split : ∀ bs : List Bound,
    Bound.hasSelfEach true true bs =
      (Bound.hasSelfEach false true bs || Bound.hasSelfEach true false bs)
  | [] => by simp [Bound.hasSelfEach]
  | b :: bs => by
    simp only [Bound.hasSelfEach, Bound.hasSelf_split b, Bound.hasSelfEach_split bs]
    ac_rfl

theorem FnParam.hasSelf_split : ∀ p : FnParam,
    p.hasSelf true true = (p.hasSelf false true || p.hasSelf true false)
  | .mk attributes name ty => by
    have ha := Piece.hasSelfEach_split attributes
    have ht := Ty.hasSelf_split ty
    simp only [FnParam.hasSelf, ha, ht, Bool.true_and, Bool.false_and, Bool.or_false]
    ac_rfl

theorem FnParam.hasSelfEach_split : ∀ ps : List FnParam,
    FnParam.hasSelfEach true true ps =
      (FnParam.hasSelfEach false true ps || FnParam.hasSelfEach true false ps)
  | [] => by simp [FnParam.hasSelfEach]
  | p :: ps => by
    simp only [FnParam.hasSelfEach, FnParam.hasSelf_split p, FnParam.hasSelfEach_split ps]
    ac_rfl

/-- A token that is not part of a type falls to the other way. -/
theorem Piece.hasSelf_split : ∀ p : Piece,
    p.hasSelf true true = (p.hasSelf false true || p.hasSelf true false)
  | .token t => by simp [Piece.hasSelf]
  | .type ty => by simp only [Piece.hasSelf, Ty.hasSelf_split ty]

theorem Piece.hasSelfEach_split : ∀ ps : List Piece,
    Piece.hasSelfEach true true ps =
      (Piece.hasSelfEach false true ps || Piece.hasSelfEach true false ps)
  | [] => by simp [Piece.hasSelfEach]
  | p :: ps => by
    simp only [Piece.hasSelfEach, Piece.hasSelf_split p, Piece.hasSelfEach_split ps]
    ac_rfl

end

/-! ## After spelling out -/

/-- Spelling out changes what stands in a segment but not what it is called. -/
theorem Segment.name_mapPaths (f : Bool → List Segment → Ty) (s : Segment) :
    (s.mapPaths f).name = s.name := by
  cases s with
  | plain n => rw [Segment.mapPaths]
  | angled n turbofish args trailing => rw [Segment.mapPaths]; rfl
  | called n inputs trailing output => rw [Segment.mapPaths]; rfl

/-- So a path has a segment called `Self` after spelling out if it had one before. -/
theorem namedSelf_mapPaths (f : Bool → List Segment → Ty) (ss : List Segment) :
    namedSelf (Segment.mapPathsEach f ss) = namedSelf ss := by
  rw [Segment.mapPathsEach_eq_map, namedSelf, namedSelf, List.any_map]
  congr 1
  funext s
  exact decide_eq_decide.mpr (by rw [Segment.name_mapPaths])

/-- The form of a segment stays too, and with it whether the path starts with a bare `Self`. -/
theorem startsWithSelf_mapPaths (f : Bool → List Segment → Ty) (rooted : Bool)
    (ss : List Segment) :
    startsWithSelf rooted (Segment.mapPathsEach f ss) = startsWithSelf rooted ss := by
  cases ss with
  | nil => rw [Segment.mapPathsEach]
  | cons s ss =>
    cases s <;> cases rooted <;> simp [Segment.mapPathsEach, Segment.mapPaths, startsWithSelf]

/-- A path that does not start with `Self` is left as it is. -/
theorem spellPath_of_not_startsWithSelf {self base : Ty} {rooted : Bool} {ss : List Segment}
    (h : startsWithSelf rooted ss = false) : spellPath self base rooted ss = .path rooted ss := by
  unfold spellPath
  split
  · simp [startsWithSelf] at h
  · simp [startsWithSelf] at h
  · rfl

section Spelled

variable {self base : Ty} {named : Bool}

/-- A path type says `Self` after spelling out if it said so in its arguments or after its start, or
if it started with `Self` and the replacement says so. -/
theorem hasSelf_spellPath (hs : self.hasSelf true true = named)
    (hb : base.hasSelf true true = named) (rooted : Bool) {ss : List Segment} {args : Bool}
    (hargs : Segment.hasSelfEach true true (Segment.mapPathsEach (spellPath self base) ss) = args) :
    (spellPath self base rooted (Segment.mapPathsEach (spellPath self base) ss)).hasSelf true true =
      ((if startsWithSelf rooted ss then named || namedSelf ss.tail else namedSelf ss) ||
        args) := by
  have hstart := startsWithSelf_mapPaths (spellPath self base) rooted ss
  -- only a path with `Self` in front turns into something else
  cases h : startsWithSelf rooted ss with
  | false =>
    rw [h] at hstart
    rw [spellPath_of_not_startsWithSelf hstart, Ty.hasSelf, hstart, hargs, namedSelf_mapPaths]
    simp
  | true =>
    obtain ⟨rfl, rest, rfl⟩ := exists_of_startsWithSelf h
    cases rest with
    | nil =>
      -- `Self` on its own has no arguments, and turns into the replacement
      have hnone : args = false := by
        rw [← hargs]
        simp [Segment.mapPathsEach, Segment.mapPaths, Segment.hasSelfEach, Segment.hasSelf]
      rw [hnone]
      simp [Segment.mapPathsEach, Segment.mapPaths, spellPath, hs, namedSelf]
    | cons s ss =>
      -- a longer path turns into a path into `base`, with the same rest
      have hnamed := namedSelf_mapPaths (spellPath self base) (s :: ss)
      simp only [Segment.mapPathsEach, Segment.mapPaths, Segment.hasSelfEach, Segment.hasSelf,
        Bool.false_or] at hargs hnamed
      simp only [Segment.mapPathsEach, Segment.mapPaths, spellPath, Ty.hasSelf, hb, hnamed]
      simp [namedSelf, Segment.hasSelfEach, hargs, Bool.or_assoc]

mutual

/-- **Spelling out.** `Self` stands in the result where it stood elsewhere, and where it was spelled
out if the replacement says so itself. -/
theorem Ty.hasSelf_spell (hs : self.hasSelf true true = named)
    (hb : base.hasSelf true true = named) : ∀ ty : Ty,
      (ty.mapPaths (spellPath self base)).hasSelf true true = ty.hasSelf named true
  | .path rooted segments => by
    rw [Ty.mapPaths, hasSelf_spellPath hs hb rooted (Segment.hasSelfEach_spell hs hb segments),
      Ty.hasSelf]
    simp
  | .qualified ty rooted trait rest => by
    have ht := Ty.hasSelf_spell hs hb ty
    have htrait := Segment.hasSelfEach_spell hs hb trait
    have hrest := Segment.hasSelfEach_spell hs hb rest
    simp only [Ty.mapPaths, Ty.hasSelf, ht, htrait, hrest, namedSelf_mapPaths]
  | .reference region mutable target => by
    rw [Ty.mapPaths, Ty.hasSelf, Ty.hasSelf, Ty.hasSelf_spell hs hb target]
  | .pointer mutable target => by
    rw [Ty.mapPaths, Ty.hasSelf, Ty.hasSelf, Ty.hasSelf_spell hs hb target]
  | .slice element => by
    rw [Ty.mapPaths, Ty.hasSelf, Ty.hasSelf, Ty.hasSelf_spell hs hb element]
  | .array element length => by
    rw [Ty.mapPaths, Ty.hasSelf, Ty.hasSelf, Ty.hasSelf_spell hs hb element,
      Piece.hasSelfEach_spell hs hb length]
  | .tuple elements trailing => by
    rw [Ty.mapPaths, Ty.hasSelf, Ty.hasSelf, Ty.hasSelfEach_spell hs hb elements]
  | .paren inner => by
    rw [Ty.mapPaths, Ty.hasSelf, Ty.hasSelf, Ty.hasSelf_spell hs hb inner]
  | .function binder qualifiers params trailing variadic output => by
    rw [Ty.mapPaths, Ty.hasSelf, Ty.hasSelf, Piece.hasSelfEach_spell hs hb binder,
      FnParam.hasSelfEach_spell hs hb params, Piece.hasSelfEach_spell hs hb variadic,
      Ty.hasSelfOutput_spell hs hb output]
  | .bounds keyword list trailing => by
    rw [Ty.mapPaths, Ty.hasSelf, Ty.hasSelf, Bound.hasSelfEach_spell hs hb list]
  | .never => by rw [Ty.mapPaths, Ty.hasSelf, Ty.hasSelf]
  | .inferred => by rw [Ty.mapPaths, Ty.hasSelf, Ty.hasSelf]
  | .verbatim tokens => by rw [Ty.mapPaths, Ty.hasSelf, Ty.hasSelf]

/-- Types one by one, each with what is spelled out in it. -/
theorem Ty.hasSelfEach_spell (hs : self.hasSelf true true = named)
    (hb : base.hasSelf true true = named) : ∀ ts : List Ty,
      Ty.hasSelfEach true true (Ty.mapPathsEach (spellPath self base) ts) =
        Ty.hasSelfEach named true ts
  | [] => by rw [Ty.mapPathsEach, Ty.hasSelfEach, Ty.hasSelfEach]
  | t :: ts => by
    rw [Ty.mapPathsEach, Ty.hasSelfEach, Ty.hasSelfEach, Ty.hasSelf_spell hs hb t,
      Ty.hasSelfEach_spell hs hb ts]

theorem Ty.hasSelfOutput_spell (hs : self.hasSelf true true = named)
    (hb : base.hasSelf true true = named) : ∀ output : Option Ty,
      Ty.hasSelfOutput true true (Ty.mapPathsOutput (spellPath self base) output) =
        Ty.hasSelfOutput named true output
  | none => by rw [Ty.mapPathsOutput, Ty.hasSelfOutput, Ty.hasSelfOutput]
  | some t => by
    rw [Ty.mapPathsOutput, Ty.hasSelfOutput, Ty.hasSelfOutput, Ty.hasSelf_spell hs hb t]

/-- In a segment, only the arguments can change. -/
theorem Segment.hasSelf_spell (hs : self.hasSelf true true = named)
    (hb : base.hasSelf true true = named) : ∀ s : Segment,
      (s.mapPaths (spellPath self base)).hasSelf true true = s.hasSelf named true
  | .plain name => by rw [Segment.mapPaths, Segment.hasSelf, Segment.hasSelf]
  | .angled name turbofish args trailing => by
    rw [Segment.mapPaths, Segment.hasSelf, Segment.hasSelf, Arg.hasSelfEach_spell hs hb args]
  | .called name inputs trailing output => by
    rw [Segment.mapPaths, Segment.hasSelf, Segment.hasSelf, Ty.hasSelfEach_spell hs hb inputs,
      Ty.hasSelfOutput_spell hs hb output]

theorem Segment.hasSelfEach_spell (hs : self.hasSelf true true = named)
    (hb : base.hasSelf true true = named) : ∀ ss : List Segment,
      Segment.hasSelfEach true true (Segment.mapPathsEach (spellPath self base) ss) =
        Segment.hasSelfEach named true ss
  | [] => by rw [Segment.mapPathsEach, Segment.hasSelfEach, Segment.hasSelfEach]
  | s :: ss => by
    rw [Segment.mapPathsEach, Segment.hasSelfEach, Segment.hasSelfEach,
      Segment.hasSelf_spell hs hb s, Segment.hasSelfEach_spell hs hb ss]

/-- In an argument, the name of an associated item stays as it is. -/
theorem Arg.hasSelf_spell (hs : self.hasSelf true true = named)
    (hb : base.hasSelf true true = named) : ∀ a : Arg,
      (a.mapPaths (spellPath self base)).hasSelf true true = a.hasSelf named true
  | .lifetime name => by rw [Arg.mapPaths, Arg.hasSelf, Arg.hasSelf]
  | .type ty => by rw [Arg.mapPaths, Arg.hasSelf, Arg.hasSelf, Ty.hasSelf_spell hs hb ty]
  | .const value => by
    rw [Arg.mapPaths, Arg.hasSelf, Arg.hasSelf, Piece.hasSelfEach_spell hs hb value]
  | .assocType item ty => by
    have hi := Segment.hasSelf_spell hs hb item
    have ht := Ty.hasSelf_spell hs hb ty
    simp only [Arg.mapPaths, Arg.hasSelf, hi, ht, Segment.name_mapPaths]
  | .assocConst item value => by
    have hi := Segment.hasSelf_spell hs hb item
    have hv := Piece.hasSelfEach_spell hs hb value
    simp only [Arg.mapPaths, Arg.hasSelf, hi, hv, Segment.name_mapPaths]
  | .constraint item list trailing => by
    have hi := Segment.hasSelf_spell hs hb item
    have hl := Bound.hasSelfEach_spell hs hb list
    simp only [Arg.mapPaths, Arg.hasSelf, hi, hl, Segment.name_mapPaths]

theorem Arg.hasSelfEach_spell (hs : self.hasSelf true true = named)
    (hb : base.hasSelf true true = named) : ∀ as : List Arg,
      Arg.hasSelfEach true true (Arg.mapPathsEach (spellPath self base) as) =
        Arg.hasSelfEach named true as
  | [] => by rw [Arg.mapPathsEach, Arg.hasSelfEach, Arg.hasSelfEach]
  | a :: as => by
    rw [Arg.mapPathsEach, Arg.hasSelfEach, Arg.hasSelfEach, Arg.hasSelf_spell hs hb a,
      Arg.hasSelfEach_spell hs hb as]

/-- In a bound, the path of the trait stays, with what its arguments turn into. -/
theorem Bound.hasSelf_spell (hs : self.hasSelf true true = named)
    (hb : base.hasSelf true true = named) : ∀ b : Bound,
      (b.mapPaths (spellPath self base)).hasSelf true true = b.hasSelf named true
  | .lifetime name => by rw [Bound.mapPaths, Bound.hasSelf, Bound.hasSelf]
  | .trait parenthesized maybe binder rooted segments => by
    have hbinder := Piece.hasSelfEach_spell hs hb binder
    have hsegments := Segment.hasSelfEach_spell hs hb segments
    simp only [Bound.mapPaths, Bound.hasSelf, hbinder, hsegments, namedSelf_mapPaths]
  | .verbatim tokens => by rw [Bound.mapPaths, Bound.hasSelf, Bound.hasSelf]

theorem Bound.hasSelfEach_spell (hs : self.hasSelf true true = named)
    (hb : base.hasSelf true true = named) : ∀ bs : List Bound,
      Bound.hasSelfEach true true (Bound.mapPathsEach (spellPath self base) bs) =
        Bound.hasSelfEach named true bs
  | [] => by rw [Bound.mapPathsEach, Bound.hasSelfEach, Bound.hasSelfEach]
  | b :: bs => by
    rw [Bound.mapPathsEach, Bound.hasSelfEach, Bound.hasSelfEach, Bound.hasSelf_spell hs hb b,
      Bound.hasSelfEach_spell hs hb bs]

theorem FnParam.hasSelf_spell (hs : self.hasSelf true true = named)
    (hb : base.hasSelf true true = named) : ∀ p : FnParam,
      (p.mapPaths (spellPath self base)).hasSelf true true = p.hasSelf named true
  | .mk attributes name ty => by
    rw [FnParam.mapPaths, FnParam.hasSelf, FnParam.hasSelf,
      Piece.hasSelfEach_spell hs hb attributes, Ty.hasSelf_spell hs hb ty]

theorem FnParam.hasSelfEach_spell (hs : self.hasSelf true true = named)
    (hb : base.hasSelf true true = named) : ∀ ps : List FnParam,
      FnParam.hasSelfEach true true (FnParam.mapPathsEach (spellPath self base) ps) =
        FnParam.hasSelfEach named true ps
  | [] => by rw [FnParam.mapPathsEach, FnParam.hasSelfEach, FnParam.hasSelfEach]
  | p :: ps => by
    rw [FnParam.mapPathsEach, FnParam.hasSelfEach, FnParam.hasSelfEach,
      FnParam.hasSelf_spell hs hb p, FnParam.hasSelfEach_spell hs hb ps]

theorem Piece.hasSelf_spell (hs : self.hasSelf true true = named)
    (hb : base.hasSelf true true = named) : ∀ p : Piece,
      (p.mapPaths (spellPath self base)).hasSelf true true = p.hasSelf named true
  | .token t => by rw [Piece.mapPaths, Piece.hasSelf, Piece.hasSelf]
  | .type ty => by rw [Piece.mapPaths, Piece.hasSelf, Piece.hasSelf, Ty.hasSelf_spell hs hb ty]

theorem Piece.hasSelfEach_spell (hs : self.hasSelf true true = named)
    (hb : base.hasSelf true true = named) : ∀ ps : List Piece,
      Piece.hasSelfEach true true (Piece.mapPathsEach (spellPath self base) ps) =
        Piece.hasSelfEach named true ps
  | [] => by rw [Piece.mapPathsEach, Piece.hasSelfEach, Piece.hasSelfEach]
  | p :: ps => by
    rw [Piece.mapPathsEach, Piece.hasSelfEach, Piece.hasSelfEach, Piece.hasSelf_spell hs hb p,
      Piece.hasSelfEach_spell hs hb ps]

end

end Spelled

/-- **Copied types.** Code that a type is copied to names `Self` if the type did so other than at
the start of a path type, or if it did so there and the replacement names `Self` itself. -/
theorem Ty.namesSelf_replaceSelf (ty replacement : Ty) :
    namesSelf (ty.replaceSelf replacement).tokens =
      (ty.hasSelf false true || (ty.hasSelf true false && namesSelf replacement.tokens)) := by
  -- paths into the replacement are paths into a type that names `Self` if the replacement does
  have hbase : (replacement.spell replacement replacement).hasSelf true true =
      replacement.hasSelf true true := by
    rw [Ty.spell, Ty.hasSelf_spell rfl rfl]
    cases h : replacement.hasSelf true true with
    | true => exact h
    | false =>
      rw [Ty.hasSelf_split, Bool.or_eq_false_iff] at h
      exact h.1
  rw [Ty.namesSelf_tokens, Ty.replaceSelf, Ty.spell, Ty.hasSelf_spell rfl hbase,
    Ty.namesSelf_tokens]
  cases replacement.hasSelf true true with
  | true => rw [Bool.and_true, Ty.hasSelf_split]
  | false => rw [Bool.and_false, Bool.or_false]

end Specimen
