import Specimen.Proofs.SampledTypes
import Specimen.Proofs.TreeTokens
import Specimen.Proofs.TypeContinuation

/-!
# Bounds for sampling, read from their tokens

A bound for sampling is written as the tokens of a type in front of `: K::Sampleable`. Where these
tokens are read again, they are the predicate that they are meant to be exactly if the tokens of the
type do not open with `for` (`sampled_types_bounded`): a predicate takes a binder in front of its
type for its own.
-/

namespace Specimen

open Token

namespace Grammar

open Reader

/-! ## What tokens spell -/

/-- What some tokens spell by a rule, the rules unfolded `depth` times. -/
def spelled? {α : Type} (rule : Rules → Reader α) (depth : Nat) (ts : List Token) : Option α :=
  (Lexer.trees? [] [] (ts.map (·, .nowhere))).bind fun trees =>
    (runAll (rule (.unfold step depth)) trees).toOption

end Grammar

/-- A run that is read to its end leaves neither trees nor a complaint about some. -/
theorem Reader.runAll_eq_ok {α : Type} {p : Reader α} {trees : List Tree} {a : α} :
    runAll p trees = .ok a ↔ ∃ stop, p ⟨trees, .nowhere, none⟩ = .ok (a, ⟨[], stop, none⟩) := by
  unfold runAll
  cases p ⟨trees, .nowhere, none⟩ with
  | error fault => simp
  | ok found =>
    obtain ⟨b, rest, stop, leftover⟩ := found
    cases leftover <;> cases rest <;> simp [leftoverIn]

namespace Grammar

open Reader

/-- Tokens spell what the rule reads from their trees, with nothing left. -/
theorem spelled?_eq_some {α : Type} {rule : Rules → Reader α} {depth : Nat} {ts : List Token}
    {a : α} :
    spelled? rule depth ts = some a ↔
      ∃ trees, Lexer.trees? [] [] (ts.map (·, .nowhere)) = some trees ∧
        ∃ stop, rule (.unfold step depth) ⟨trees, .nowhere, none⟩ = .ok (a, ⟨[], stop, none⟩) := by
  have hread (trees : List Tree) :
      (runAll (rule (.unfold step depth)) trees).toOption = some a ↔
        runAll (rule (.unfold step depth)) trees = .ok a := by
    cases runAll (rule (.unfold step depth)) trees <;> simp [Except.toOption]
  simp only [spelled?, Option.bind_eq_some_iff, hread, runAll_eq_ok]

/-! ## Predicates -/

/-- A lifetime is no type, neither alone nor in front of a colon. -/
theorem type_lifetime (g : Rules) (name : String) (span stop : Span) (leftover : Option Fault)
    {rest : List Tree} (hplus : symAt "+" rest = false) (r : Ty × Cursor) :
    Grammar.type g true ⟨.leaf (.lifetime name) span :: rest, stop, leftover⟩ ≠ .ok r := by
  have hbound : bound g ⟨false, false⟩ ⟨.leaf (.lifetime name) span :: rest, stop, leftover⟩ =
      .ok (.lifetime name, ⟨rest, stop, leftover⟩) := rfl
  have hadded : boundBehindPlus? g ⟨false, false⟩ ⟨rest, stop, leftover⟩ =
      .ok (none, ⟨rest, stop, leftover⟩) := by
    rw [boundBehindPlus?, bind_run (sees_run _ _)]
    dsimp only
    rw [hplus]
    rfl
  have hlist : boundList g true ⟨false, false⟩
      ⟨.leaf (.lifetime name) span :: rest, stop, leftover⟩ =
        .ok (([.lifetime name], false), ⟨rest, stop, leftover⟩) := by
    rw [boundList, bind_run hbound]
    have hend : sym? "+" ⟨rest, stop, leftover⟩ = .ok (false, ⟨rest, stop, leftover⟩) := by
      rw [sym?_run, hplus]
      rfl
    show (gather (boundBehindPlus? g ⟨false, false⟩) >>= _) _ = _
    rw [bind_run (gather_of_none hadded), bind_run hend]
    rfl
  -- a type that opens with a lifetime can only be a list of bounds without `dyn`
  have htype : Grammar.type g true ⟨.leaf (.lifetime name) span :: rest, stop, leftover⟩ =
      (objectBounds g true >>= fun r => pure (.bounds .bare r.1 r.2))
        ⟨.leaf (.lifetime name) span :: rest, stop, leftover⟩ := rfl
  rw [htype, objectBounds, bind_assoc, bind_run hlist]
  intro hrun
  obtain ⟨a, c, hfail, -⟩ := Reader.bind_eq_ok.mp hrun
  exact (Gives.failWith (P := fun _ => False) _ _ _ _ hfail).elim

/-- A type in front of a colon is not taken for a lifetime with bounds. -/
theorem no_lifetimeBounds {g : Rules} {trees more : List Tree} {stop : Span} {r : Ty × Cursor}
    (h : Grammar.type g true ⟨trees, stop, none⟩ = .ok r) (hmore : OpensWithColon more)
    (hclear : Tree.Clear more trees) :
    (lifetimeAt (trees ++ more) && symAt ":" ((trees ++ more).drop 1)) = false := by
  have hplus {ts : List Tree} (hcolon : symAt ":" ts = true) : symAt "+" ts = false := by
    obtain ⟨taken, us, rfl, hlength, hmarks, -⟩ := exists_of_marksAt hcolon
    obtain ⟨t, rfl⟩ := List.length_eq_one_iff.mp hlength
    obtain ⟨c, hc, joint, span, rfl⟩ := hmarks t List.mem_cons_self
    rw [List.mem_singleton.mp hc]
    rfl
  refine Bool.and_eq_false_imp.mpr fun hlifetime => Bool.eq_false_iff.mpr fun hcolon => ?_
  -- such a list would need a lifetime at the front, and then a colon
  match trees with
  | [] => obtain rfl | ⟨span, us, rfl⟩ := hmore <;> cases hlifetime
  | .group .. :: _ => cases hlifetime
  | .leaf token span :: rest =>
    cases token with
    | lifetime name =>
      refine type_lifetime g name span stop none ?_ r h
      cases rest with
      | nil => rfl
      | cons t ts =>
        have hown : symAt ":" (t :: ts ++ more) = symAt ":" (t :: ts) :=
          steady_colon _ (Tree.Clear.of_append [.leaf (.lifetime name) span] hclear)
            fun _ => List.cons_ne_nil t ts
        exact hplus (hown.symm.trans hcolon)
    | _ => cases hlifetime

/-- A path opens with its root, or with the name of its first segment. -/
theorem exists_tokens_join (crate : Path) (name : String) :
    (∃ ts, (crate.join name).tokens = .punct ':' true :: .punct ':' false :: ts) ∨
      ∃ n ts, (crate.join name).tokens = .ident n :: ts := by
  obtain ⟨rooted, segments⟩ := crate
  -- a rooted path opens with `::`, any other with its first segment's name
  cases rooted with
  | true => exact .inl ⟨_, rfl⟩
  | false =>
    obtain ⟨s, ss, hs⟩ := List.exists_cons_of_ne_nil
      (List.append_ne_nil_of_right_ne_nil segments (List.cons_ne_nil (Segment.plain name) []))
    have hsegment : ∃ ts, s.tokens = .ident s.name :: ts := by
      cases s <;> exact ⟨_, by rw [Segment.tokens]; rfl⟩
    obtain ⟨ts, hts⟩ := hsegment
    refine .inr ⟨s.name, ?_⟩
    rw [Path.join, hs, Path.tokens, Segment.tokensEach, hts]
    cases Segment.tokensEach ss with
    | nil => exact ⟨ts, rfl⟩
    | cons t ts => exact ⟨_, rfl⟩

/-- A where clause does not end in front of a path. -/
theorem endsWhere_join {crate : Path} {name : String} {trees : List Tree}
    (h : Tree.tokensOf trees = (crate.join name).tokens) : endsWhere trees = false := by
  rcases exists_tokens_join crate name with ⟨ts, hts⟩ | ⟨n, ts, hts⟩
  · obtain ⟨span, rest, rfl, hrest⟩ := Tree.exists_leaf rfl (h.trans hts)
    obtain ⟨span', rest', rfl, -⟩ := Tree.exists_leaf rfl hrest
    rfl
  · obtain ⟨span, rest, rfl, -⟩ := Tree.exists_leaf rfl (h.trans hts)
    rfl

/-- A type and a bound that are read on their own are read as a predicate, with a colon between
them. -/
theorem predicate_run {g : Rules} (hg : g.Persist) {trees more : List Tree} {T : Ty} {b : Bound}
    {stop stop' colon : Span}
    (htype : (step g).type true ⟨trees, .nowhere, none⟩ = .ok (T, ⟨[], stop, none⟩))
    (hbound : paramBound (step g) ⟨more, .nowhere, none⟩ = .ok (b, ⟨[], stop', none⟩))
    (hfor : wordAt "for" trees = false) (hends : endsWhere more = false) :
    predicate (step g) ⟨trees ++ .leaf (.punct ':' false) colon :: more, .nowhere, none⟩ =
      .ok (.type [] T [b] false, ⟨[], stop', none⟩) := by
  have hmore : OpensWithColon (.leaf (.punct ':' false) colon :: more) := .inr ⟨colon, more, rfl⟩
  obtain ⟨hclear, hbounded⟩ := ((persist_step hg).type hmore true).append_run htype
  have hbinder : binder? (step g) (paramBound (step g))
      ⟨trees ++ .leaf (.punct ':' false) colon :: more, .nowhere, none⟩ =
        .ok ([], ⟨trees ++ .leaf (.punct ':' false) colon :: more, .nowhere, none⟩) := by
    have hsteady : Steady _ false (wordAt "for") := steady_wordAt hmore "for"
    rw [binder?, bind_run (sees_run _ _), hsteady trees hclear nofun, hfor]
    rfl
  have hcolon : sym ":" ⟨.leaf (.punct ':' false) colon :: more, .nowhere, none⟩ =
      .ok ((), ⟨more, .nowhere, none⟩) := rfl
  have hbounds : separatedBy "+" endsWhere (paramBound (step g)) ⟨more, .nowhere, none⟩ =
      .ok (([b], false), ⟨[], stop', none⟩) := by
    have helement : element? "+" endsWhere (paramBound (step g)) ⟨more, .nowhere, none⟩ =
        .ok (some (b, false), ⟨[], stop', none⟩) := by
      rw [element?, bind_run (sees_run _ _), hends]
      show (paramBound (step g) >>= _) _ = _
      rw [bind_run hbound]
      rfl
    have hahead : ahead ⟨more, .nowhere, none⟩ = .ok (more, ⟨more, .nowhere, none⟩) := rfl
    rw [separatedBy_eq, bind_run hahead, separatedBy.collect, bind_assoc, bind_run helement]
    rfl
  -- step by step: no lifetime, no binder, the type, the colon, the bound
  rw [predicate, bind_run (sees_run _ _)]
  dsimp only
  rw [no_lifetimeBounds htype hmore hclear]
  show (binder? (step g) (paramBound (step g)) >>= _) _ = _
  rw [bind_run hbinder, bind_run (hbounded .nowhere), bind_run hcolon, bind_run hbounds]
  rfl

/-- A binder has at least its `for`. -/
theorem gives_binder (g : Rules) (bound : Reader Bound) : Gives (binder g bound) (· ≠ []) := by
  refine Gives.after fun _ => Gives.after fun _ => Gives.after ?_
  rintro ⟨params, trailing⟩
  exact Gives.after fun _ => Gives.pure (List.cons_ne_nil _ _)

/-- A predicate that opens with `for` has the binder that it opens with. -/
theorem binder_of_predicate_run {g : Rules} {c c' : Cursor} {p : Predicate}
    (hfor : wordAt "for" c.rest = true) (h : predicate g c = .ok (p, c')) :
    ∃ binder bounded list trailing, p = .type binder bounded list trailing ∧ binder ≠ [] := by
  obtain ⟨span, rest, hrest⟩ := exists_of_wordAt hfor
  rw [predicate, bind_run (sees_run _ _), hrest] at h
  change (binder? g (paramBound g) >>= _) c = _ at h
  obtain ⟨pieces, c₁, hbinder, h⟩ := Reader.bind_eq_ok.mp h
  rw [binder?, bind_run (sees_run _ _), hfor] at hbinder
  have hpieces : pieces ≠ [] := gives_binder g (paramBound g) c pieces c₁ hbinder
  -- whatever is read behind the binder, it is kept
  obtain ⟨bounded, c₂, -, h⟩ := Reader.bind_eq_ok.mp h
  obtain ⟨_, c₃, -, h⟩ := Reader.bind_eq_ok.mp h
  obtain ⟨⟨list, trailing⟩, c₄, -, h⟩ := Reader.bind_eq_ok.mp h
  obtain ⟨rfl, -⟩ := pure_eq_ok.mp h
  exact ⟨pieces, bounded, list, trailing, rfl, hpieces⟩

/-- A keyword stands at the front of some trees if it is the first of their tokens. -/
theorem wordAt_iff_head {w : String} {trees : List Tree} :
    wordAt w trees = true ↔ (Tree.tokensOf trees).head? = some (.ident w) := by
  constructor
  · intro h
    obtain ⟨span, rest, rfl⟩ := exists_of_wordAt h
    rfl
  · intro h
    obtain ⟨ts, hts⟩ := List.head?_eq_some_iff.mp h
    obtain ⟨span, rest, rfl, -⟩ := Tree.exists_leaf rfl hts
    exact wordAt_self w span rest

/-- **Types in predicates.** What the tokens of a type spell is also what is bounded where they
stand in front of a colon, unless they open with `for`. -/
theorem spelled?_sampleable {depth : Nat} {ty T : Ty} {crate : Path} {b : Bound}
    (htype : spelled? (Rules.type · true) depth ty.tokens = some T)
    (hbound : spelled? paramBound depth (crate.join "Sampleable").tokens = some b) :
    spelled? predicate depth (Predicate.sampleable crate ty).tokens = some (.type [] T [b] false) ↔
      ty.tokens.head? ≠ some (.ident "for") := by
  obtain ⟨trees, htrees, stop, htype⟩ := spelled?_eq_some.mp htype
  obtain ⟨more, hmore, stop', hbound⟩ := spelled?_eq_some.mp hbound
  have hall : Lexer.trees? [] [] ((Predicate.sampleable crate ty).tokens.map (·, .nowhere)) =
      some (trees ++ .leaf (.punct ':' false) .nowhere :: more) := by
    have hcolon : Lexer.trees? [] [] ((Token.sym ":").map (·, .nowhere)) =
        some [.leaf (.punct ':' false) .nowhere] := rfl
    rw [Predicate.sampleable_tokens, List.append_assoc, List.map_append, List.map_append]
    exact Lexer.trees?_append_eq_some htrees (Lexer.trees?_append_eq_some hcolon hmore)
  rw [← Lexer.tokensOf_eq htrees]
  -- without a depth there are no rules to read with
  cases depth with
  | zero => exact (Gives.failWith (P := fun _ => False) _ _ _ _ htype).elim
  | succ depth =>
    constructor
    · -- the predicate would have a binder
      intro h hfor
      obtain ⟨trees', htrees', stop'', hrun⟩ := spelled?_eq_some.mp h
      obtain rfl := Option.some.inj (hall.symm.trans htrees')
      have hfor' : wordAt "for" (trees ++ .leaf (.punct ':' false) .nowhere :: more) = true := by
        obtain ⟨span, rest, rfl⟩ := exists_of_wordAt (wordAt_iff_head.mpr hfor)
        exact wordAt_self "for" span _
      obtain ⟨binder, bounded, list, trailing, hp, hbinder⟩ := binder_of_predicate_run hfor' hrun
      cases hp
      exact hbinder rfl
    · intro hfor
      have hfor' : wordAt "for" trees = false :=
        Bool.eq_false_iff.mpr fun hword => hfor (wordAt_iff_head.mp hword)
      refine spelled?_eq_some.mpr ⟨_, hall, stop', ?_⟩
      exact predicate_run (persist_unfold depth) htype hbound hfor'
        (endsWhere_join (Lexer.tokensOf_eq hmore))

end Grammar

open Grammar

/-! ## Derived code -/

/-- **Sampled types are bounded** as they stand, unless they open with `for`. If there are
parameters, the predicates of the impls are the declared ones and then one for each sampled type,
with the tokens of the type in front of `: K::Sampleable`. These are read as a predicate without a
binder, whose bounded type is what the tokens of the sampled type spell and whose only bound is
`K::Sampleable`, exactly if the tokens of the sampled type do not open with `for`. -/
theorem sampled_types_bounded (v : Deriver) {d : Declaration}
    (hkind : (∃ members, d.kind = .record members) ∨ ∃ c cs, d.kind = .taggedUnion (c :: cs))
    (hparams : d.generics.params ≠ []) (depth : Nat) {b : Bound}
    (hbound : spelled? paramBound depth
      ((d.cratePath v.defaultCrate).join "Sampleable").tokens = some b) :
    let crate := d.cratePath v.defaultCrate
    ∃ e, v.expand d = .ok e ∧
      e.generics.predicates =
        d.generics.predicates ++ (v.sampledTypes d).map (Predicate.sampleable crate) ∧
      ∀ ty ∈ v.sampledTypes d,
        (Predicate.sampleable crate ty).tokens =
            ty.tokens ++ sym ":" ++ (crate.join "Sampleable").tokens ∧
          ∀ T, spelled? (Rules.type · true) depth ty.tokens = some T →
            (spelled? predicate depth (Predicate.sampleable crate ty).tokens =
                some (.type [] T [b] false) ↔
              ty.tokens.head? ≠ some (.ident "for")) := by
  intro crate
  obtain ⟨e, hexpand, -, hgenerics⟩ := v.expand_ok hkind
  refine ⟨e, hexpand, ?_, fun ty _ => ⟨Predicate.sampleable_tokens crate ty, fun T htype => ?_⟩⟩
  · rw [hgenerics, Generics.predicates_sampling, List.isEmpty_eq_false_iff.mpr hparams]
    rfl
  · exact spelled?_sampleable htype hbound

/-- `dyn Fn(T) -> T + Send` -/
def callType : Ty :=
  .bounds .dynamic
    [.trait false false [] false [.called "Fn" [.named "T"] false (some (.named "T"))],
     .trait false false [] false [.plain "Send"]] false

/-- `for<'a> fn(&'a T)` -/
def hookType : Ty :=
  .function (Piece.ofTokens (.ident "for" :: sym "<" ++ .lifetime "a" :: sym ">")) []
    [.mk [] none (.reference (some "a") false (.named "T"))] false [] none

/-- `pub struct Switch<T> { pub state: T, pub hook: for<'a> fn(&'a T),
pub call: dyn Fn(T) -> T + Send }` -/
def switchDeclaration : Declaration where
  name := ⟨"Switch", .nowhere⟩
  generics := ⟨[.type [] "T" [] false none], false, none⟩
  visibility := some (.ofModifier .pub)
  enclosing := none
  options := ⟨none, none, false, none⟩
  kind := .record
    [⟨[⟨"state", some (.named "T"), false⟩], .stored, some (.ofModifier .pub)⟩,
     ⟨[⟨"hook", some hookType, false⟩], .stored, some (.ofModifier .pub)⟩,
     ⟨[⟨"call", some callType, false⟩], .stored, some (.ofModifier .pub)⟩]

def sampleableBound : Bound :=
  .trait false false [] true [.plain "fixturize", .plain "Sampleable"]

/-- The bounds of `Switch` on `T` and on the trait object are read as they are meant, and the one on
the function pointer is not. -/
theorem switch_types_bounded :
    ((∃ members, switchDeclaration.kind = .record members) ∨
        ∃ c cs, switchDeclaration.kind = .taggedUnion (c :: cs)) ∧
      switchDeclaration.generics.params ≠ [] ∧
      let crate := switchDeclaration.cratePath Deriver.standard.defaultCrate
      spelled? paramBound 4 (crate.join "Sampleable").tokens = some sampleableBound ∧
      ∃ e, Deriver.standard.expand switchDeclaration = .ok e ∧
        e.generics.predicates = [.sampleable crate (.named "T"), .sampleable crate hookType,
          .sampleable crate callType] ∧
        spelled? predicate 4 (Predicate.sampleable crate (.named "T")).tokens =
          some (.type [] (.named "T") [sampleableBound] false) ∧
        spelled? predicate 4 (Predicate.sampleable crate hookType).tokens ≠
          some (.type [] hookType [sampleableBound] false) ∧
        spelled? predicate 4 (Predicate.sampleable crate callType).tokens =
          some (.type [] callType [sampleableBound] false) := by
  have hkind : (∃ members, switchDeclaration.kind = .record members) ∨
      ∃ c cs, switchDeclaration.kind = .taggedUnion (c :: cs) := .inl ⟨_, rfl⟩
  have hparams : switchDeclaration.generics.params ≠ [] := List.cons_ne_nil _ _
  have hbound : spelled? paramBound 4 ((switchDeclaration.cratePath
      Deriver.standard.defaultCrate).join "Sampleable").tokens = some sampleableBound := rfl
  obtain ⟨e, hexpand, hpredicates, hread⟩ :=
    sampled_types_bounded .standard hkind hparams 4 hbound
  -- three types are sampled, and the theorem is read at each of them
  have hsampled : Deriver.standard.sampledTypes switchDeclaration =
      [.named "T", hookType, callType] := rfl
  rw [hsampled] at hread
  simp only [List.forall_mem_cons] at hread
  obtain ⟨⟨-, hnamed⟩, ⟨-, hhook⟩, ⟨-, hcall⟩, -⟩ := hread
  refine ⟨hkind, hparams, hbound, e, hexpand, hpredicates, ?_, ?_, ?_⟩
  · exact (hnamed (.named "T") rfl).mpr (by decide)
  · exact fun h => (hhook hookType rfl).mp h rfl
  · exact (hcall callType rfl).mpr (by decide)

/-- Not all bounds are read as they are meant: the binder of `for<'a> fn(&'a T)` is taken for the
binder of the predicate, and `fn(&'a T)` is what is bounded. -/
theorem hook_binder_taken :
    ¬ ∀ (v : Deriver) (d : Declaration), d.generics.params ≠ [] →
      let crate := d.cratePath v.defaultCrate
      ∀ (depth : Nat) (b : Bound),
        spelled? paramBound depth (crate.join "Sampleable").tokens = some b →
        ∀ ty ∈ v.sampledTypes d, spelled? (Rules.type · true) depth ty.tokens = some ty →
          spelled? predicate depth (Predicate.sampleable crate ty).tokens =
            some (.type [] ty [b] false) := by
  intro h
  have hsampled : hookType ∈ Deriver.standard.sampledTypes switchDeclaration :=
    List.mem_cons_of_mem _ List.mem_cons_self
  have hclaim := h .standard switchDeclaration (List.cons_ne_nil _ _) 4 sampleableBound rfl
    hookType hsampled rfl
  -- what the text reads back to: the binder has moved to the predicate
  have hread : spelled? predicate 4 (Predicate.sampleable (switchDeclaration.cratePath
      Deriver.standard.defaultCrate) hookType).tokens =
        some (.type hookType.splitBinder.1 hookType.splitBinder.2 [sampleableBound] false) := rfl
  cases hread.symm.trans hclaim

end Specimen
