import Specimen.Grammar.Item
import Specimen.Proofs.TreeContinuation

/-!
# Types in front of a colon

A type is read in front of a colon as it is read alone (`persist_unfold`), since none of the rules
takes a single colon, except in brackets. There is one lemma for each rule that is not confined to a
group: the inside of a group is a run of its own, with nothing behind it. Rules refer to each other
as `Rules.Persist` says, and a bound to the bounds in its binders, which are read to the depth that
the weight of the run asks for, so that in front of more trees they are read deeper.
-/

namespace Specimen

open Reader Grammar

/-- The recursive rules that types are read with persist in front of a colon. -/
structure Rules.Persist (g : Rules) : Prop where
  type {more : List Tree} (hmore : OpensWithColon more) (plus : Bool) :
    Takes more false (g.type plus) (g.type plus)
  block {more : List Tree} : Takes more false g.block g.block

namespace Grammar

variable {more : List Tree} {g : Rules}

/-! ## Symbols -/

section

variable (hmore : OpensWithColon more) {inside : Bool}
include hmore

/-- A symbol without a colon, where it may be missing. -/
theorem persists_mark? (s : String) (hs : s ≠ "") (hcolon : ':' ∉ s.toList) :
    Persists more inside (· = true) (sym? s) (sym? s) :=
  persists_sym? s hs (steady_symAt s hcolon hmore) fun _ => hcolon

/-- A double colon could be made of one colon before the end and one behind it. Inside of brackets
something stands in between. -/
theorem persists_doubleColon? : Persists more true (· = true) (sym? "::") (sym? "::") :=
  persists_sym? _ (by decide) (steady_doubleColon hmore) nofun

omit hmore in
/-- A single colon is the end of a type, except inside of brackets. -/
theorem persists_colon? (more : List Tree) :
    Persists more true (· = true) (sym? ":") (sym? ":") :=
  persists_sym? _ (by decide) steady_colon nofun

/-- A test behind a double colon. -/
theorem steady_afterDoubleColon {test : List Tree → Bool} (h : Steady more false test) :
    Steady more inside fun ts => symAt "::" ts && test (ts.drop 2) :=
  (steady_doubleColon hmore).after h fun _ => length_le_of_marksAt

/-- The arguments of a call stand in a group, which may have a double colon in front. -/
theorem steady_callArgsAt : Steady more inside callArgsAt :=
  (steady_groupAt hmore .paren).or (steady_afterDoubleColon hmore (steady_groupAt hmore .paren))

/-- A bound opens with a name, a path, a mark, a lifetime or a group. -/
theorem steady_boundAt (forms : BoundForms) : Steady more inside (boundAt forms) :=
  (((((steady_anyWordAt hmore).or (steady_doubleColon hmore)).or
    (steady_symAt "?" (by decide) hmore)).or (steady_lifetimeAt hmore)).or
      (steady_groupAt hmore .paren)).or ((Steady.const forms.const).and (steady_groupAt hmore _))

theorem steady_boundBehindPlus (forms : BoundForms) :
    Steady more inside fun ts => symAt "+" ts && boundAt forms (ts.drop 1) :=
  (steady_symAt "+" (by decide) hmore).after (steady_boundAt hmore forms)
    fun _ => length_le_of_marksAt

end

/-! ## Attributes -/

/-- Attributes are read as long as there is a `#`. -/
theorem keeps_keepAttributes (hmore : OpensWithColon more) (g : Rules) {inside : Bool} :
    Keeps more inside (keepAttributes g) (keepAttributes g) := by
  -- each of them takes at least its `#`
  have houter : Takes more inside (outerAttribute g) (outerAttribute g) := by
    refine Persists.bind_takes ?_ fun r => .keeps_pure _
    refine .of_takes (Persists.located (P := fun _ => True) ?_)
    exact (takes_sym "#" (by decide) fun _ => by decide).bind_takes fun _ =>
      (takes_inGroup_self .bracket _).keeps
  refine Persists.bind (keeps_gather ?_) fun found => .keeps_pure _
  refine .bind_sees (steady_symAt "#" (by decide) hmore) ?_ (.pure none nofun)
  exact .of_takes (houter.bind_takes fun a => .keeps_pure (some a))

/-! ## Paths -/

section Paths

variable (hg : g.Persist) (hmore : OpensWithColon more) {b b' : Reader Bound}
include hg hmore

/-- Arguments in a group of their own, and the type behind an arrow. -/
theorem takes_callArgs (name : String) : Takes more false (callArgs g name) (callArgs g name) := by
  refine (takes_inGroup_self .paren _).bind_takes fun (inputs, trailing) => ?_
  refine (persists_mark? hmore "->" (by decide) (by decide)).bind fun goes => ?_
  exact .ite_bind (hg.type hmore false).keeps_map (.keeps_pure none) fun output => .keeps_pure _

/-- A constant argument is a literal, a name or a block. -/
theorem takes_constArgument : Takes more true (constArgument g) (constArgument g) := by
  refine .bind_sees (steady_literalAt hmore) ?_ ?_
  · exact takes_literal.bind_takes fun tokens => .keeps_pure _
  · refine .bind_sees (steady_identAt hmore) ?_ ?_
    · exact takes_ident.bind_takes fun name => .keeps_pure _
    · exact .bind_sees (steady_groupAt hmore .brace) hg.block.within (.failWith _ _)

variable (hb : Takes more false b b')
include hb

/-- An argument in angle brackets, where a single colon may open bounds. -/
theorem takes_argument : Takes more true (argument g b) (argument g b') := by
  refine (steady_lifetimeAt hmore).keeps.bind fun isLifetime => ?_
  refine (Steady.behind (steady_symAt "+" (by decide) hmore)).keeps.bind fun isAdded => .ite ?_ ?_
  · exact takes_lifetime.bind_takes fun name => .keeps_pure _
  refine (steady_literalAt hmore).keeps.bind fun isLiteral => ?_
  refine (steady_groupAt hmore .brace).keeps.bind fun isBlock => .ite ?_ ?_
  · exact (takes_constArgument hg hmore).bind_takes fun value => .keeps_pure _
  -- all other arguments start with a type, which is a name where `=` or `:` may follow
  refine (hg.type hmore true).within.bind_takes fun ty => ?_
  dsimp only
  split
  · exact .keeps_pure _
  · refine (persists_mark? hmore "=" (by decide) (by decide)).bind fun isEqual => .ite ?_ ?_
    · refine (steady_literalAt hmore).keeps.bind fun isLiteral => ?_
      refine (steady_groupAt hmore .brace).keeps.bind fun isBlock => .ite ?_ ?_
      · exact (takes_constArgument hg hmore).keeps.bind fun value => .keeps_pure _
      · exact (hg.type hmore true).within.keeps.bind fun ty => .keeps_pure _
    -- a colon is one of the argument, as the bracket is not closed yet
    · refine (persists_colon? more).bind fun isColon => .ite ?_ (.keeps_pure _)
      exact (keeps_separatedBy (persists_mark? hmore "+" (by decide) (by decide))
        (steady_symIn (by decide) hmore) hb.within).bind fun r => .keeps_pure _
  · exact .keeps_pure _

/-- The list of arguments is closed by a bracket, so something is left wherever it is read. -/
theorem takes_angledArgs (name : String) (turbofish : Bool) :
    Takes more false (angledArgs g b name turbofish) (angledArgs g b' name turbofish) := by
  refine (takes_sym "<" (by decide) (by decide)).bind_takes fun _ => .of_takes ?_
  refine Persists.bind_within (keeps_separatedBy (persists_mark? hmore "," (by decide) (by decide))
    (steady_symAt ">" (by decide) hmore) (takes_argument hg hmore hb)) fun (args, trailing) => ?_
  exact (takes_sym ">" (by decide) (by decide)).bind_takes fun _ => .keeps_pure _

/-- A segment is a name, with arguments if a bracket follows. In an expression that bracket needs a
double colon in front. -/
theorem takes_segment (inExpr : Bool) :
    Takes more false (segment g b inExpr) (segment g b' inExpr) := by
  refine .bind_sees (steady_wordIn hmore _) ?_ ?_
  · exact takes_anyWord.bind_takes fun name => .keeps_pure _
  refine (steady_wordAt hmore _).keeps.bind fun isSelf => ?_
  refine .ite_bind_takes takes_anyWord takes_ident fun name => ?_
  refine .bind_sees ?_ ?_ ?_
  · exact ((Steady.const _).and (steady_symAt "<" (by decide) hmore)).and
      (steady_symAt "<=" (by decide) hmore).not
  · exact (takes_angledArgs hg hmore hb name false).keeps
  refine .bind_sees (steady_afterDoubleColon hmore (steady_symAt "<" (by decide) hmore)) ?_
    (.keeps_pure _)
  refine .of_takes (Persists.bind_within (takes_sym "::" (by decide) (by decide)) fun _ => ?_)
  exact takes_angledArgs hg hmore hb name true

/-- Further segments are read as long as a double colon goes on with one. -/
theorem keeps_moreSegments (inExpr : Bool) {goes : List Tree → Bool}
    (hgoes : Steady more false goes) :
    Keeps more false (moreSegments g b inExpr goes) (moreSegments g b' inExpr goes) := by
  refine keeps_gather ?_
  refine .bind_sees (steady_afterDoubleColon hmore hgoes) ?_ (.pure none nofun)
  refine .of_takes (Persists.bind_within (takes_sym "::" (by decide) (by decide)) fun _ => ?_)
  exact (takes_segment hg hmore hb inExpr).bind_takes fun s => .keeps_pure _

theorem takes_segments (inExpr : Bool) {goes : List Tree → Bool} (hgoes : Steady more false goes) :
    Takes more false (segments g b inExpr goes) (segments g b' inExpr goes) := by
  refine (takes_segment hg hmore hb inExpr).bind_takes fun first => ?_
  exact (keeps_moreSegments hg hmore hb inExpr hgoes).bind fun rest => .keeps_pure _

/-- The double colon in front of a path has a segment behind it. -/
theorem takes_path (inExpr : Bool) : Takes more false (path g b inExpr) (path g b' inExpr) := by
  refine (persists_doubleColon? hmore).bind_within fun rooted => ?_
  exact (takes_segments hg hmore hb inExpr (steady_groupAt hmore .paren).not).bind_takes
    fun ss => .keeps_pure _

/-- A path into a type, with the trait that it goes through if one is named, or a plain path. -/
theorem takes_qualifiedPath (inExpr : Bool) :
    Takes more false (qualifiedPath g b inExpr) (qualifiedPath g b' inExpr) := by
  refine (persists_mark? hmore "<" (by decide) (by decide)).bind_flag (R := fun _ => True) ?_ ?_
  · refine (hg.type hmore true).bind_takes fun self => ?_
    refine (persists_word? hmore "as").bind fun isTrait => ?_
    refine .ite_bind (takes_path hg hmore hb false).keeps_map (.keeps_pure none)
      fun trait => ?_
    refine (takes_sym ">" (by decide) (by decide)).bind fun _ => .of_takes ?_
    refine Persists.bind_within (takes_sym "::" (by decide) (by decide)) fun _ => ?_
    refine (takes_segments hg hmore hb inExpr (.const true)).bind_takes fun rest => ?_
    cases trait with
    | none => exact .keeps_pure _
    | some p => exact .keeps_pure _
  · exact (takes_path hg hmore hb inExpr).bind_takes fun p => .keeps_pure _

omit hb

/-- Only the last segment of a path can be called. -/
theorem persists_withCallArgs? (ss : List Segment) :
    Persists more false (·.isSome = true) (withCallArgs? g ss) (withCallArgs? g ss) := by
  unfold withCallArgs?
  cases ss.getLast? with
  | none => exact .pure none nofun
  | some last =>
    refine (steady_callArgsAt hmore).keeps.bind fun goes => .ite ?_ (.pure none nofun)
    refine .of_takes ((persists_doubleColon? hmore).bind_within fun _ => ?_)
    exact (takes_callArgs hg hmore last.name).bind_takes fun s => .keeps_pure _

include hb

/-- A path goes on behind a call, and may be called again. -/
theorem keeps_withCalls (ss : List Segment) :
    Keeps more false (withCalls g b ss) (withCalls g b' ss) := by
  refine keeps_extend (fun ss => ?_) ss
  refine (persists_withCallArgs? hg hmore ss).bind_found (fun called => ?_) (.pure none nofun)
  refine .ite ?_ (.keeps_pure _)
  exact (keeps_moreSegments hg hmore hb false (steady_groupAt hmore .paren).not).bind
    fun ss => .keeps_pure _

end Paths

/-! ## Binders and bounds -/

section Bounds

variable (hg : g.Persist) (hmore : OpensWithColon more) {b b' : Reader Bound}
  (hb : Takes more false b b')
include hg hmore hb

/-- A parameter is read inside of angle brackets. What else may follow a colon there is bounds. -/
theorem takes_genericParam : Takes more true (genericParam g b) (genericParam g b') := by
  refine (keeps_keepAttributes hmore g).bind fun attributes => ?_
  -- a lifetime, a type or a `const`: which one is settled by the first tree alone
  refine .bind_sees (steady_lifetimeAt hmore) ?_ (.bind_sees (steady_identAt hmore) ?_ ?_)
  · refine takes_lifetime.bind_takes fun name => ?_
    refine (persists_colon? more).bind fun isBounded => .ite ?_ (.keeps_pure _)
    exact (keeps_separatedBy (persists_mark? hmore "+" (by decide) (by decide))
      (steady_isEmpty.or (steady_symIn (by decide) hmore)) takes_lifetime).bind
        fun r => .keeps_pure _
  · refine takes_ident.bind_takes fun name => ?_
    refine (persists_colon? more).bind fun isBounded => ?_
    refine .ite_bind (keeps_separatedBy (persists_mark? hmore "+" (by decide) (by decide))
      (steady_isEmpty.or (steady_symIn (by decide) hmore)) hb.within) (.keeps_pure _)
        fun (list, trailing) => ?_
    refine (persists_mark? hmore "=" (by decide) (by decide)).bind fun hasDefault => ?_
    exact .ite_bind (hg.type hmore true).within.keeps_map (.keeps_pure none)
      fun default => .keeps_pure _
  · refine (persists_word? hmore "const").bind_flag (R := fun _ => False) ?_ ?_
    · refine takes_ident.bind fun name => ?_
      refine (takes_sym ":" (by decide) (by decide)).bind fun _ => ?_
      refine (hg.type hmore true).within.bind fun ty => ?_
      refine (persists_mark? hmore "=" (by decide) (by decide)).bind fun hasDefault => ?_
      exact .ite_bind (takes_constArgument hg hmore).keeps_map (.keeps_pure none)
        fun default => .keeps_pure _
    · exact (persists_word? hmore "_").bind_flag (.keeps_pure _) (.failWith _ _)

/-- A binder is a keyword and a list in angle brackets. -/
theorem takes_binder : Takes more false (binder g b) (binder g b') := by
  refine (takes_word "for").bind_takes fun _ => ?_
  refine (takes_sym "<" (by decide) (by decide)).bind fun _ => .of_takes ?_
  refine Persists.bind_within (keeps_separatedBy (persists_mark? hmore "," (by decide) (by decide))
    (steady_symAt ">" (by decide) hmore) (takes_genericParam hg hmore hb))
      fun (params, trailing) => ?_
  exact (takes_sym ">" (by decide) (by decide)).bind_takes fun _ => .keeps_pure _

theorem keeps_binder? : Keeps more false (binder? g b) (binder? g b') :=
  .bind_sees (steady_wordAt hmore _) (takes_binder hg hmore hb).keeps (.keeps_pure [])

/-- The trait of a bound, after the `const` in front of it. -/
def traitPath (g : Rules) (bound : Reader Bound) (parenthesized : Bool) (before : List Piece)
    (constant : List Token) : Reader Bound := do
  let maybe ← sym? "?"
  let after ← if before.isEmpty && maybe then binder? g bound else pure []
  let p ← path g bound false
  let segments := (← withCallArgs? g p.segments).getD p.segments
  if constant.isEmpty then return .trait parenthesized maybe (before ++ after) p.rooted segments
  else
    let inner := (Bound.trait false maybe (before ++ after) p.rooted segments).tokens
    let tokens := constant ++ inner
    return .verbatim (if parenthesized then Token.parens tokens else tokens)

theorem takes_traitPath (parenthesized : Bool) (before : List Piece) (constant : List Token) :
    Takes more false (traitPath g b parenthesized before constant)
      (traitPath g b' parenthesized before constant) := by
  refine (persists_mark? hmore "?" (by decide) (by decide)).bind fun maybe => ?_
  refine .ite_bind (keeps_binder? hg hmore hb) (.keeps_pure []) fun after => ?_
  refine (takes_path hg hmore hb false).bind_takes fun p => ?_
  refine (persists_withCallArgs? hg hmore p.segments).bind fun called => ?_
  exact .ite (.keeps_pure _) (.keeps_pure _)

/-- What may stand in front of the path of a trait, and the path. -/
theorem takes_traitBound (forms : BoundForms) (parenthesized : Bool) :
    Takes more false (traitBound g b forms parenthesized)
      (traitBound g b' forms parenthesized) := by
  refine (keeps_binder? hg hmore hb).bind fun before => ?_
  refine (steady_groupAt hmore .bracket).keeps.bind fun conditional => ?_
  refine (persists_word? hmore "const").bind fun isConst => ?_
  -- all forms end in the same path
  have hpath (constant : List Token) :
      Takes more false (traitPath g b parenthesized before constant)
        (traitPath g b' parenthesized before constant) :=
    takes_traitPath hg hmore hb parenthesized before constant
  refine .ite ((takes_inGroup_self .bracket _).bind fun tokens => (hpath _)) ?_
  exact .ite (.ite (hpath _) (Persists.bind (P := fun _ => False) (.failWith _ _) hpath)) (hpath _)

end Bounds

/-- A list of captured names in angle brackets. -/
theorem takes_captureBound (hmore : OpensWithColon more) :
    Takes more false captureBound captureBound := by
  refine (takes_word "use").bind_takes fun _ => ?_
  refine (takes_sym "<" (by decide) (by decide)).bind fun _ => .of_takes ?_
  refine Persists.bind_within (P := fun _ => False) (keeps_separatedBy
    (persists_mark? hmore "," (by decide) (by decide)) (steady_symAt ">" (by decide) hmore) ?_)
      fun (names, trailing) => ?_
  -- inside the brackets stand lifetimes, `Self` and names
  · refine .bind_sees (steady_lifetimeAt hmore) ?_ (.bind_sees (steady_wordAt hmore _) ?_ ?_)
    · exact takes_lifetime.bind_takes fun name => .keeps_pure _
    · exact takes_anyWord.bind_takes fun name => .keeps_pure _
    · exact takes_ident.bind_takes fun name => .keeps_pure _
  · exact (takes_sym ">" (by decide) (by decide)).bind_takes fun _ => .keeps_pure _

/-- A bound is read in front of a colon where its binders may be no less deep. -/
theorem takes_boundUpTo (hg : g.Persist) {depth depth' : Nat} (h : depth ≤ depth')
    {more : List Tree} (hmore : OpensWithColon more) (forms : BoundForms) :
    Takes more false (boundUpTo g forms depth) (boundUpTo g forms depth') := by
  -- on the depth, which a binder in a bound uses up one of
  induction depth generalizing depth' more forms with
  | zero => exact .failWith _ _
  | succ depth ih =>
    obtain ⟨depth', rfl⟩ : ∃ k, depth' = k + 1 := ⟨depth' - 1, by omega⟩
    have hinner {more : List Tree} (hmore : OpensWithColon more) :=
      ih (Nat.le_of_succ_le_succ h) hmore ⟨false, true⟩
    refine .bind_sees (steady_lifetimeAt hmore) ?_ (.bind_sees (steady_wordAt hmore _) ?_
      (.bind_sees (steady_groupAt hmore .paren) ?_ ?_))
    · exact takes_lifetime.bind_takes fun name => .keeps_pure _
    · exact .ite (takes_captureBound hmore) (.failWith _ _)
    -- a group is a run of its own, with nothing behind it
    · refine takes_inGroup (fun c r hrun => ?_) .paren
      exact (takes_traitBound hg (.inl rfl) (hinner (.inl rfl)) forms true).eq_ok hrun
    · exact takes_traitBound hg hmore (hinner hmore) forms false

/-- Weights of runs add up. -/
theorem weightOf_append (ts us : List Tree) :
    Tree.weightOf (ts ++ us) = Tree.weightOf ts + Tree.weightOf us := by
  induction ts with
  | nil => exact (Nat.zero_add _).symm
  | cons t ts ih =>
    show t.weight + Tree.weightOf (ts ++ us) = t.weight + Tree.weightOf ts + Tree.weightOf us
    rw [ih, Nat.add_assoc]

/-- A bound is read as deep as the run can have binders in it. -/
theorem bound_run (g : Rules) (forms : BoundForms) (c : Cursor) :
    bound g forms c = boundUpTo g forms (Tree.weightOf c.rest + 2) c := rfl

/-- A bound behind a plus sign, if there is one. -/
def boundBehindPlus? (g : Rules) (forms : BoundForms) : Reader (Option Bound) := do
  if ← sees fun ts => symAt "+" ts && boundAt forms (ts.drop 1) then
    sym "+"
    return some (← bound g forms)
  else return none

section Types

variable (hg : g.Persist) (hmore : OpensWithColon more)
include hg hmore

/-- More trees only make the depth greater that a bound is read to. -/
theorem takes_bound (forms : BoundForms) : Takes more false (bound g forms) (bound g forms) := by
  intro c a c' hrun
  -- more trees weigh more, so the depth the reader starts from grows with them
  have hdepth : Tree.weightOf c.rest + 2 ≤ Tree.weightOf (c.rest ++ more) + 2 := by
    rw [weightOf_append]
    omega
  rw [bound_run] at hrun
  obtain ⟨taken, hrest, hstop, htakes, hgoes⟩ := takes_boundUpTo hg hdepth hmore forms c a c' hrun
  refine ⟨taken, hrest, hstop, htakes, fun hclear hleft => ?_⟩
  obtain ⟨hclear', hq⟩ := hgoes hclear hleft
  refine ⟨hclear', fun stop => ?_⟩
  rw [bound_run]
  exact hq stop

theorem takes_paramBound : Takes more false (paramBound g) (paramBound g) :=
  takes_bound hg hmore _

/-- Further bounds stand behind plus signs. -/
theorem keeps_boundsBehindPlus (forms : BoundForms) :
    Keeps more false (gather (boundBehindPlus? g forms)) (gather (boundBehindPlus? g forms)) := by
  refine keeps_gather (.bind_sees (steady_boundBehindPlus hmore forms) ?_ (.pure none nofun))
  refine .of_takes ((takes_sym "+" (by decide) (by decide)).bind_takes fun _ => ?_)
  exact (takes_bound hg hmore forms).keeps.bind fun b => .keeps_pure (some b)

/-- A list of bounds has one at least, and may end in a plus sign. -/
theorem takes_boundList (plus : Bool) (forms : BoundForms) :
    Takes more false (boundList g plus forms) (boundList g plus forms) := by
  refine (takes_bound hg hmore forms).bind_takes fun first => .ite (.keeps_pure _) ?_
  refine (keeps_boundsBehindPlus hg hmore forms).bind fun rest => ?_
  exact (persists_mark? hmore "+" (by decide) (by decide)).bind fun trailing => .keeps_pure _

theorem takes_objectBounds (plus : Bool) :
    Takes more false (objectBounds g plus) (objectBounds g plus) := by
  refine (takes_boundList hg hmore plus _).bind_takes fun (list, trailing) => ?_
  exact .ite (.keeps_pure _) (.failWith _ _)

theorem takes_implBounds (plus : Bool) :
    Takes more false (implBounds g plus) (implBounds g plus) := by
  refine (takes_boundList hg hmore plus _).bind_takes fun (list, trailing) => ?_
  exact .ite (.keeps_pure _) (.failWith _ _)

/-- Bounds added to a first one that was read as a type. -/
theorem keeps_addedBounds (first : Bound) :
    Keeps more false (addedBounds g first) (addedBounds g first) := by
  refine Persists.bind (P := fun _ => False) (keeps_gather ?_) fun rest => .keeps_pure _
  refine (persists_mark? hmore "+" (by decide) (by decide)).bind fun goes =>
    .ite ?_ (.pure none nofun)
  exact .of_takes ((takes_bound hg hmore _).bind_takes fun b => .keeps_pure (some b))

/-! ## Types -/

/-- A function pointer from its `fn` on. -/
def fnPointerFrom (g : Rules) (lifetimes isUnsafe abi : List Piece) : Reader Ty := do
  word "fn"
  let ((params, trailing), dots) ← inGroup .paren do
    let entries ← fnParams g
    let mayHaveDots := entries.1.isEmpty || entries.2
    let dots ← if ← sees fun ts => !ts.isEmpty && mayHaveDots then variadic g else pure []
    if ← atEnd then return (entries, dots)
    else if dots.isEmpty then expected "`,`" else return (entries, dots)
  let output ← if ← sym? "->" then some <$> g.type false else pure none
  return .function lifetimes (Piece.tokensOf (isUnsafe ++ abi)) params trailing dots output

theorem takes_fnPointerFrom (lifetimes isUnsafe abi : List Piece) :
    Takes more false (fnPointerFrom g lifetimes isUnsafe abi)
      (fnPointerFrom g lifetimes isUnsafe abi) := by
  refine (takes_word "fn").bind_takes fun _ => ?_
  refine (takes_inGroup_self .paren _).bind fun ((params, trailing), dots) => ?_
  refine (persists_mark? hmore "->" (by decide) (by decide)).bind fun goes => ?_
  exact .ite_bind (hg.type hmore false).keeps_map (.keeps_pure none) fun output => .keeps_pure _

omit hg in
theorem steady_isString : Steady more true fnPointer.isString := by
  refine .of_head hmore (fun t ts => ?_) fun _ => rfl
  cases t with
  | group => rfl
  | leaf token span => cases token <;> rfl

/-- A function pointer, with what may stand in front of its `fn`. -/
theorem takes_fnPointer (lifetimes : List Piece) :
    Takes more false (fnPointer g lifetimes) (fnPointer g lifetimes) := by
  have hfrom (isUnsafe abi : List Piece) := takes_fnPointerFrom hg hmore lifetimes isUnsafe abi
  refine Persists.bind (P := fun _ => False) ?_ fun isUnsafe => ?_
  · exact (persists_word? hmore "unsafe").bind fun b => .keeps_pure _
  refine (persists_word? hmore "extern").bind fun isExtern => .ite ?_ (hfrom isUnsafe _)
  -- the name of a calling convention is looked for only where `fn` is still to come
  refine Persists.bind_within (steady_isString hmore).keeps fun isNamed => ?_
  refine .ite ?_ (hfrom isUnsafe _)
  exact Persists.bind_within (takes_anyTree.keeps_map (g := Piece.ofTokens))
    fun name => hfrom isUnsafe _

/-- A type that starts like a path: a path, a macro, or the first of several bounds. -/
theorem takes_pathLikeType (plus : Bool) (lifetimes : List Piece) :
    Takes more false (pathLikeType g plus lifetimes) (pathLikeType g plus lifetimes) := by
  have hb := takes_paramBound hg hmore
  refine (takes_qualifiedPath hg hmore hb false).bind_takes fun ty => ?_
  cases ty with
  | path rooted segments =>
    refine (keeps_withCalls hg hmore hb segments).bind fun segments => ?_
    -- behind the path may stand a macro's `!`, or a `+` and further bounds
    refine .bind_sees ?_ ?_ ?_
    · exact ((steady_symAt "!" (by decide) hmore).and (steady_symAt "!=" (by decide) hmore).not).and
        (.const _)
    · refine (takes_sym "!" (by decide) (by decide)).bind fun _ => ?_
      exact takes_keepAnyGroup.bind fun body => .keeps_pure _
    · refine (steady_symAt "+" (by decide) hmore).keeps.bind fun isAdded => .ite ?_ (.keeps_pure _)
      refine .ite (.keeps_pure _) ((keeps_boundsBehindPlus hg hmore _).bind fun rest => ?_)
      exact (persists_mark? hmore "+" (by decide) (by decide)).bind fun trailing => .keeps_pure _
  | qualified self rooted trait rest =>
    exact (keeps_withCalls hg hmore hb rest).bind fun ss => .keeps_pure _
  | _ => exact .keeps_pure _

/-- A type of any form. The forms are told apart by their first trees, in the order of the rule. -/
theorem takes_type (plus : Bool) :
    Takes more false (Grammar.type g plus) (Grammar.type g plus) := by
  refine (keeps_binder? hg hmore (takes_paramBound hg hmore)).bind fun lifetimes => ?_
  refine ((steady_identAt hmore).or (steady_wordIn hmore _)).keeps.bind fun opens => ?_
  -- behind a binder nothing but a bound or a function pointer is a type
  refine .ite (.failWith _ _) ?_
  refine .bind_sees (steady_groupAt hmore .paren) ?_ ?_
  · refine (takes_inGroup_self .paren _).bind_takes fun found => ?_
    cases found with
    | tuple elements trailing => exact .keeps_pure _
    -- a relaxed bound or a parenthesized one goes on with others
    | relaxed first => exact keeps_addedBounds hg hmore first
    | single inner =>
      refine (steady_symAt "+" (by decide) hmore).keeps.bind fun isAdded => .ite ?_ (.keeps_pure _)
      cases asParenthesizedBound inner with
      | none => exact .keeps_pure _
      | some first => exact keeps_addedBounds hg hmore first
  refine .bind_sees (steady_wordIn hmore _) (takes_fnPointer hg hmore lifetimes) ?_
  refine .bind_sees ?_ (takes_pathLikeType hg hmore plus lifetimes) ?_
  · exact (((steady_identAt hmore).or (steady_wordIn hmore _)).or (steady_doubleColon hmore)).or
      (steady_symAt "<" (by decide) hmore)
  refine (persists_word? hmore "dyn").bind_flag (R := fun _ => True) ?_ ?_
  · refine (persists_mark? hmore "*" (by decide) (by decide)).bind fun star => ?_
    refine (takes_objectBounds hg hmore plus).bind_takes fun (list, trailing) => ?_
    exact .ite (.keeps_pure _) (.keeps_pure _)
  refine .bind_sees (steady_groupAt hmore .bracket) (takes_inGroup_self .bracket _) ?_
  refine (persists_mark? hmore "*" (by decide) (by decide)).bind_flag (R := fun _ => True) ?_ ?_
  · refine (persists_word? hmore "const").bind_flag (R := fun _ => True) ?_ ?_
    · exact (hg.type hmore false).bind_takes fun ty => .keeps_pure _
    · refine (takes_word "mut").bind_takes fun _ => ?_
      exact (hg.type hmore false).bind fun ty => .keeps_pure _
  refine (persists_mark? hmore "&" (by decide) (by decide)).bind_flag (R := fun _ => True) ?_ ?_
  · refine (steady_lifetimeAt hmore).keeps.bind fun hasRegion => ?_
    refine .ite_bind takes_lifetime.keeps_map (.keeps_pure none) fun region => ?_
    refine (persists_word? hmore "mut").bind fun mutable => ?_
    exact (hg.type hmore false).bind_takes fun ty => .keeps_pure _
  refine (persists_mark? hmore "!" (by decide) (by decide)).bind_flag (.keeps_pure _) ?_
  refine (persists_word? hmore "impl").bind_flag (R := fun _ => True) ?_ ?_
  · exact (takes_implBounds hg hmore plus).bind_takes fun (list, trailing) => .keeps_pure _
  refine (persists_word? hmore "_").bind_flag (.keeps_pure _) ?_
  refine .bind_sees (steady_lifetimeAt hmore) ?_ (.failWith _ _)
  exact (takes_objectBounds hg hmore true).bind_takes fun (list, trailing) => .keeps_pure _

end Types

/-- One unfolding of the rules persists if what they refer to does. -/
theorem persist_step (hg : g.Persist) : (step g).Persist where
  type hmore plus := takes_type hg hmore plus
  block := (takes_inGroup_self .brace _).bind_takes fun _ => .keeps_pure _

/-- However deep the rules are unfolded, types are read the same in front of a colon. -/
theorem persist_unfold (depth : Nat) : (Rules.unfold step depth).Persist := by
  induction depth with
  | zero => exact ⟨fun _ _ => .failWith _ _, .failWith _ _⟩
  | succ depth ih => exact persist_step ih

end Grammar

end Specimen
