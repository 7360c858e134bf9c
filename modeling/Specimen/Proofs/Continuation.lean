import Mathlib.Data.List.Basic
import Specimen.Proofs.Readers

/-!
# Reading in front of more

The trees of a type may stand alone, or in front of a colon and more trees. `Persists` says that a
reader makes the same of them in both places: with the same result it takes the same trees. There is
one lemma for each way to build readers out of others, as there is for `Gives`.

Two things can come between. A reader may look at what it does not take; it does so by tests, and
those that are `Steady` see the same in both places. And a colon at the end of a run would be joined
to the colon behind it, so the runs are `Clear` of that. Inside angle brackets colons are read too.
There something is left until the bracket is closed, and only under this condition is what is read
inside the same.
-/

namespace Specimen

/-- Trees that may follow a type: none, or a colon and others. -/
def OpensWithColon (more : List Tree) : Prop :=
  more = [] ∨ ∃ span rest, more = .leaf (.punct ':' false) span :: rest

/-- A run that others are put behind has no colon at its end that is joined to what follows. -/
def Tree.Clear (more ts : List Tree) : Prop :=
  more ≠ [] → ∀ span, ts.getLast? ≠ some (.leaf (.punct ':' true) span)

/-- A cursor on a run that goes on with `more` and ends at `stop`. -/
def Cursor.followedBy (c : Cursor) (more : List Tree) (stop : Span) : Cursor :=
  { c with rest := c.rest ++ more, stop }

namespace Tree.Clear

variable {more ts us : List Tree}

theorem nil (more : List Tree) : Clear more [] := fun _ _ h => by cases h

/-- A run of one tree is clear unless that tree is a joined colon. -/
theorem singleton {t : Tree} (h : ∀ span, t ≠ .leaf (.punct ':' true) span) : Clear more [t] :=
  fun _ span hlast => h span (Option.some.inj hlast)

/-- A run is as clear as its last part. If that part is empty, the first one is the last. -/
theorem append (hus : Clear more us) (hts : Clear more ts ∨ us ≠ []) : Clear more (ts ++ us) := by
  intro hmore span hlast
  cases us with
  | nil =>
    rw [List.append_nil] at hlast
    exact (hts.resolve_right fun h => h rfl) hmore span hlast
  | cons u us =>
    rw [List.getLast?_append_of_ne_nil _ (List.cons_ne_nil u us)] at hlast
    exact hus hmore span hlast

/-- What is left of a clear run is clear, since it has the same end. -/
theorem of_append (ts : List Tree) (h : Clear more (ts ++ us)) : Clear more us := by
  intro hmore span hlast
  cases us with
  | nil => cases hlast
  | cons u us =>
    refine h hmore span ?_
    rw [List.getLast?_append_of_ne_nil _ (List.cons_ne_nil u us), hlast]

end Tree.Clear

namespace Reader

open Specimen.Tree (Clear)

variable {α β : Type} {more : List Tree} {inside : Bool}

/-! ## Tests -/

/-- A test gives the same where `more` follows. If it is made `inside` of brackets, this is said
only where something is left. -/
def Steady (more : List Tree) (inside : Bool) (test : List Tree → Bool) : Prop :=
  ∀ ts, Clear more ts → (inside = true → ts ≠ []) → test (ts ++ more) = test ts

namespace Steady

variable {test test' : List Tree → Bool}

/-- Tests that are put together are steady if their parts are. -/
theorem not (h : Steady more inside test) : Steady more inside fun ts => !test ts :=
  fun ts hclear hleft => congrArg (!·) (h ts hclear hleft)

theorem and (h : Steady more inside test) (h' : Steady more inside test') :
    Steady more inside fun ts => test ts && test' ts :=
  fun ts hclear hleft => congrArg₂ (· && ·) (h ts hclear hleft) (h' ts hclear hleft)

theorem or (h : Steady more inside test) (h' : Steady more inside test') :
    Steady more inside fun ts => test ts || test' ts :=
  fun ts hclear hleft => congrArg₂ (· || ·) (h ts hclear hleft) (h' ts hclear hleft)

theorem const (b : Bool) : Steady more inside fun _ => b := fun _ _ _ => rfl

/-- A test for one of several things is steady if the test for each of them is. -/
theorem any {ι : Type} {tests : ι → List Tree → Bool} {is : List ι}
    (h : ∀ i ∈ is, Steady more inside (tests i)) :
    Steady more inside fun ts => is.any (tests · ts) := by
  intro ts hclear hleft
  -- a disjunction from the first to the last
  induction is with
  | nil => rfl
  | cons i is ih =>
    obtain ⟨hi, his⟩ := List.forall_mem_cons.mp h
    exact congrArg₂ (· || ·) (hi ts hclear hleft) (ih his)

/-- A test may be followed by one of the trees behind the `k` that it sees. -/
theorem after (h : Steady more inside test) (h' : Steady more false test') {k : Nat}
    (hlength : ∀ ts, test ts = true → k ≤ ts.length) :
    Steady more inside fun ts => test ts && test' (ts.drop k) := by
  intro ts hclear hleft
  show (test (ts ++ more) && test' ((ts ++ more).drop k)) = (test ts && test' (ts.drop k))
  rw [h ts hclear hleft]
  cases htest : test ts with
  | false => rfl
  -- the run is long enough for `test`, so what `test'` sees starts inside of it
  | true =>
    rw [List.drop_append_of_le_length (hlength ts htest)]
    refine congrArg _ (h' _ ?_ nofun)
    rw [← List.take_append_drop k ts] at hclear
    exact hclear.of_append _

end Steady

/-! ### Heads of runs -/

section Heads

variable (hmore : OpensWithColon more)
include hmore

/-- A test of the first tree takes a single colon for the end of the run. -/
theorem Steady.of_head {test : List Tree → Bool} (hhead : ∀ t ts, test (t :: ts) = test [t])
    (hcolon : ∀ span, test [.leaf (.punct ':' false) span] = test []) :
    Steady more inside test := by
  intro ts _ _
  cases ts with
  | nil =>
    obtain rfl | ⟨span, rest, rfl⟩ := hmore
    · rfl
    · rw [List.nil_append, hhead, hcolon]
  | cons t ts => rw [List.cons_append, hhead, hhead t ts]

/-- Keywords, names, lifetimes and groups are first trees that are no colons. -/
theorem steady_wordAt (w : String) : Steady more inside (wordAt w) := by
  refine .of_head hmore (fun t ts => ?_) fun _ => rfl
  cases t with
  | group => rfl
  | leaf token span => cases token <;> rfl

/-- One keyword after another is tried at the same place. -/
theorem steady_wordIn (ws : List String) : Steady more inside (wordIn ws) :=
  .any fun w _ => steady_wordAt hmore w

theorem steady_anyWordAt : Steady more inside anyWordAt := by
  refine .of_head hmore (fun t ts => ?_) fun _ => rfl
  cases t with
  | group => rfl
  | leaf token span => cases token <;> rfl

theorem steady_identAt : Steady more inside identAt := by
  refine .of_head hmore (fun t ts => ?_) fun _ => rfl
  cases t with
  | group => rfl
  | leaf token span => cases token <;> rfl

theorem steady_lifetimeAt : Steady more inside lifetimeAt := by
  refine .of_head hmore (fun t ts => ?_) fun _ => rfl
  cases t with
  | group => rfl
  | leaf token span => cases token <;> rfl

theorem steady_groupAt (d : Delimiter) : Steady more inside (groupAt d) := by
  refine .of_head hmore (fun t ts => ?_) fun _ => rfl
  cases t <;> rfl

/-- A literal is its first tree, or a sign and the number behind it. -/
theorem steady_literalAt : Steady more inside literalAt := by
  intro ts _ _
  -- a mark in front is part of a literal only if a number is behind it
  have hsign (c : Char) (joint : Bool) (span : Span) (us : List Tree)
      (hus : ∀ text span us', us ≠ .leaf (.literal text) span :: us') :
      literalAt (.leaf (.punct c joint) span :: us) = false := by
    unfold literalAt
    split
    · next heq => cases heq
    · next heq => exact absurd (List.cons.inj heq).2 (hus _ _ _)
    · rfl
  match ts with
  | [] => obtain rfl | ⟨span, rest, rfl⟩ := hmore <;> rfl
  | .group .. :: _ => rfl
  -- a sign at the end is no literal, and what follows the run is no number
  | [.leaf token s] =>
    cases token with
    | punct c joint =>
      rw [hsign c joint s [] nofun]
      refine hsign c joint s more fun text span us' heq => ?_
      obtain rfl | ⟨span', rest, rfl⟩ := hmore <;> cases heq
    | _ => rfl
  | .leaf token s :: u :: us =>
    cases token with
    | punct c joint =>
      by_cases hu : ∃ text span, u = .leaf (.literal text) span
      · obtain ⟨text, span, rfl⟩ := hu
        by_cases hc : c = '-'
        · rw [hc]
          rfl
        · simp [literalAt, hc, wordIn, wordAt]
      · have hus (us : List Tree) : ∀ text span us',
            u :: us ≠ .leaf (.literal text) span :: us' :=
          fun text span us' heq => hu ⟨text, span, (List.cons.inj heq).1⟩
        rw [hsign c joint s _ (hus us)]
        exact hsign c joint s _ (hus (us ++ more))
    | _ => rfl

end Heads

/-! ### Symbols -/

/-- A symbol is no longer than the run that it stands at the front of. -/
theorem length_le_of_marksAt {cs : List Char} {ts : List Tree} (h : marksAt cs ts = true) :
    cs.length ≤ ts.length := by
  fun_induction marksAt cs ts with
  | case1 => exact Nat.zero_le _
  | case2 => simp
  | case3 c cs d span ts hne ih =>
    simp only [Bool.and_eq_true] at h
    simp only [List.length_cons]
    have := ih h.2
    omega
  | case4 => cases h

/-- A symbol without a colon in it does not reach into a run that opens with one. -/
theorem marksAt_append {cs : List Char} (hcs : ':' ∉ cs) (hmore : OpensWithColon more)
    (ts : List Tree) : marksAt cs (ts ++ more) = marksAt cs ts := by
  induction cs generalizing ts with
  | nil => rfl
  | cons c cs ih =>
    obtain ⟨hc, hcs⟩ := not_or.mp (mt List.mem_cons.mpr hcs)
    cases ts with
    -- the marks that are left would have to be in `more`, which opens with a colon
    | nil =>
      obtain rfl | ⟨span, rest, rfl⟩ := hmore
      · rfl
      · cases cs with
        | nil => exact beq_false_of_ne fun h => hc h.symm
        | cons c' cs => rfl
    | cons t ts =>
      cases cs with
      | nil =>
        cases t with
        | group => rfl
        | leaf token span => cases token <;> rfl
      | cons c' cs =>
        cases t with
        | group => rfl
        | leaf token span =>
          cases token with
          | punct d joint =>
            cases joint with
            | true => exact congrArg (c == d && ·) (ih hcs ts)
            | false => rfl
          | _ => rfl

/-- A symbol without a colon is tested for in the run itself. -/
theorem steady_symAt (s : String) (hs : ':' ∉ s.toList) (hmore : OpensWithColon more) :
    Steady more inside (symAt s) :=
  fun ts _ _ => marksAt_append hs hmore ts

theorem steady_symIn {ss : List String} (hss : ∀ s ∈ ss, ':' ∉ s.toList)
    (hmore : OpensWithColon more) : Steady more inside (Grammar.symIn ss) :=
  .any fun s hs => steady_symAt s (hss s hs) hmore

/-- A double colon is not made of one at the end and one behind it. -/
theorem steady_doubleColon (hmore : OpensWithColon more) : Steady more inside (symAt "::") := by
  intro ts hclear _
  show marksAt [':', ':'] (ts ++ more) = marksAt [':', ':'] ts
  obtain rfl | ⟨span, rest, rfl⟩ := hmore
  · rw [List.append_nil]
  · match ts with
    | [] => rfl
    | .group .. :: _ => rfl
    -- the last tree would be a colon joined to the first of `more`, which a clear run has not
    | .leaf token s :: [] =>
      cases token with
      | punct d joint =>
        cases joint with
        | true =>
          have hd : (':' == d) = false := by
            refine beq_false_of_ne fun hd => ?_
            rw [← hd] at hclear
            exact hclear (List.cons_ne_nil _ _) s rfl
          simp [marksAt, hd]
        | false => rfl
      | _ => rfl
    | .leaf token s :: .group .. :: us =>
      cases token with
      | punct d joint => cases joint <;> rfl
      | _ => rfl
    | .leaf token s :: .leaf token' s' :: us =>
      cases token with
      | punct d joint => cases joint <;> cases token' <;> rfl
      | _ => rfl

/-- A single colon is a colon of the run itself where something is left of that. -/
theorem steady_colon : Steady more true (symAt ":") := by
  intro ts _ hleft
  cases ts with
  | nil => exact absurd rfl (hleft rfl)
  | cons t ts =>
    cases t with
    | group => rfl
    | leaf token span => cases token <;> rfl

/-- Inside of brackets a run with something left is not empty either way. -/
theorem steady_isEmpty : Steady more true List.isEmpty := by
  intro ts _ hleft
  cases ts with
  | nil => exact absurd rfl (hleft rfl)
  | cons t ts => rfl

/-- What stands behind the first tree is looked at only where something is left. -/
theorem Steady.behind {test : List Tree → Bool} (h : Steady more false test) :
    Steady more true fun ts => test (ts.drop 1) := by
  intro ts hclear hleft
  cases ts with
  | nil => exact absurd rfl (hleft rfl)
  | cons t ts => exact h ts (Tree.Clear.of_append [t] hclear) nofun

/-! ## Results that persist -/

/-- What `p` reads at `c` is read by `q` in front of `more`. If `takes` holds of the result, some
tree is taken. A reader `inside` of brackets is only said to do so where it leaves something. -/
def PersistsAt (more : List Tree) (inside : Bool) (takes : α → Prop) (p q : Reader α)
    (c : Cursor) : Prop :=
  ∀ a c', p c = .ok (a, c') →
    ∃ taken, c.rest = taken ++ c'.rest ∧ c'.stop = c.stop ∧ (takes a → taken ≠ []) ∧
      (Clear more c'.rest → (inside = true → c'.rest ≠ []) →
        (inside = false → Clear more taken) ∧
        ∀ stop, q (c.followedBy more stop) = .ok (a, c'.followedBy more stop))

/-- What `p` reads anywhere is read by `q` in front of `more`. -/
abbrev Persists (more : List Tree) (inside : Bool) (takes : α → Prop) (p q : Reader α) : Prop :=
  ∀ c, PersistsAt more inside takes p q c

abbrev Keeps (more : List Tree) (inside : Bool) (p q : Reader α) : Prop :=
  Persists more inside (fun _ => False) p q

/-- A reader that persists and takes a tree at least. -/
abbrev Takes (more : List Tree) (inside : Bool) (p q : Reader α) : Prop :=
  Persists more inside (fun _ => True) p q

namespace PersistsAt

variable {p q : Reader α} {f f' : α → Reader β} {P P' : α → Prop} {Q : β → Prop} {c : Cursor}

/-- To take something less often is to persist as well. -/
theorem weaken (h : PersistsAt more inside P p q c) (hP : ∀ a, P' a → P a) :
    PersistsAt more inside P' p q c := by
  intro a c' hrun
  obtain ⟨taken, hrest, hstop, htakes, hgoes⟩ := h a c' hrun
  exact ⟨taken, hrest, hstop, fun hq => htakes (hP a hq), hgoes⟩

/-- What is left is no longer than what was there, and shorter if something was taken. -/
theorem length_le (h : PersistsAt more inside P p q c) {a : α} {c' : Cursor}
    (hrun : p c = .ok (a, c')) :
    c'.rest.length ≤ c.rest.length ∧ (P a → c'.rest.length < c.rest.length) := by
  obtain ⟨taken, hrest, -, htakes, -⟩ := h a c' hrun
  rw [hrest, List.length_append]
  refine ⟨Nat.le_add_left _ _, fun ha => ?_⟩
  have := List.length_pos_of_ne_nil (htakes ha)
  omega

/-- One reader after another. The first may be one that persists inside of brackets only, if there
is something behind it: the whole is inside of them, or the second always takes something. -/
theorem bind_of {first : Bool} {R : α → β → Prop} (hp : PersistsAt more first P p q c)
    (hf : ∀ a c', p c = .ok (a, c') → PersistsAt more inside (R a) (f a) (f' a) c')
    (hfirst : first = true → inside = true ∨ ∀ a b, R a b) (hQ : ∀ a b, Q b → P a ∨ R a b) :
    PersistsAt more inside Q (p >>= f) (q >>= f') c := by
  intro b c'' hrun
  obtain ⟨a, c', ha, hb⟩ := bind_eq_ok.mp hrun
  obtain ⟨taken, hrest, hstop, htakes, hgoes⟩ := hp a c' ha
  obtain ⟨taken', hrest', hstop', htakes', hgoes'⟩ := hf a c' ha b c'' hb
  refine ⟨taken ++ taken', by rw [hrest, hrest', List.append_assoc], hstop'.trans hstop, ?_, ?_⟩
  -- one of the two takes something, so together they do
  · intro hb hnil
    obtain ⟨rfl, rfl⟩ := List.append_eq_nil_iff.mp hnil
    rcases hQ a b hb with h | h
    · exact htakes h rfl
    · exact htakes' h rfl
  · intro hclear hleft
    obtain ⟨hclear', hq'⟩ := hgoes' hclear hleft
    -- the first reader leaves what the second takes and leaves
    have hmid : Clear more c'.rest := by
      rw [hrest']
      refine hclear.append ?_
      cases inside with
      | true => exact .inr (hleft rfl)
      | false => exact .inl (hclear' rfl)
    -- an empty rest would mean that the second took nothing and nothing is left
    have hbehind : first = true → c'.rest ≠ [] := by
      intro hin hnil
      rw [hrest'] at hnil
      obtain ⟨htaken, hend⟩ := List.append_eq_nil_iff.mp hnil
      rcases hfirst hin with hin | hR
      · exact hleft hin hend
      · exact htakes' (hR a b) htaken
    obtain ⟨hclear'', hq⟩ := hgoes hmid hbehind
    refine ⟨fun hout => (hclear' hout).append ?_, fun stop => ?_⟩
    · cases first with
      | false => exact .inl (hclear'' rfl)
      | true =>
        rcases hfirst rfl with hin | hR
        · exact absurd (hin.symm.trans hout) Bool.noConfusion
        · exact .inr (htakes' (hR a b))
    · rw [bind_run (hq stop)]
      exact hq' stop

/-- One reader after another, both in the same place. The second decides what the whole takes. -/
theorem bind (hp : PersistsAt more inside P p q c)
    (hf : ∀ a c', p c = .ok (a, c') → PersistsAt more inside Q (f a) (f' a) c') :
    PersistsAt more inside Q (p >>= f) (q >>= f') c :=
  hp.bind_of hf .inl fun _ _ => .inr

end PersistsAt

/-- To look ahead is to take nothing, and a steady test gives the same there. -/
theorem Steady.keeps {test : List Tree → Bool} (h : Steady more inside test) :
    Keeps more inside (sees test) (sees test) := by
  intro c b c' hrun
  rw [sees_run] at hrun
  obtain ⟨rfl, rfl⟩ := Prod.mk.inj (Except.ok.inj hrun)
  refine ⟨[], rfl, rfl, False.elim, fun hclear hleft => ⟨fun _ => .nil more, fun stop => ?_⟩⟩
  rw [sees_run]
  exact congrArg (fun b => Except.ok (b, c.followedBy more stop)) (h c.rest hclear hleft)

namespace Persists

variable {p q : Reader α} {f f' : α → Reader β} {P P' : α → Prop} {Q : β → Prop}

theorem weaken (h : Persists more inside P p q) (hP : ∀ a, P' a → P a) :
    Persists more inside P' p q :=
  fun c => (h c).weaken hP

/-- A reader that persists does so whatever is asked of its results. -/
theorem keeps (h : Persists more inside P p q) : Keeps more inside p q :=
  h.weaken fun _ hfalse => hfalse.elim

/-- A reader that always takes something takes something for any kind of result. -/
theorem of_takes (h : Takes more inside p q) : Persists more inside P p q :=
  h.weaken fun _ _ => trivial

/-- What is read whatever follows is also read where something follows. -/
theorem within (h : Persists more false P p q) : Persists more inside P p q := by
  intro c a c' hrun
  obtain ⟨taken, hrest, hstop, htakes, hgoes⟩ := h c a c' hrun
  refine ⟨taken, hrest, hstop, htakes, fun hclear _ => ?_⟩
  obtain ⟨hclear', hq⟩ := hgoes hclear nofun
  exact ⟨fun _ => hclear' rfl, hq⟩

/-- A value that is given without reading persists, but takes nothing. -/
theorem pure (a : α) (hP : ¬P a) : Persists more inside P (Pure.pure a) (Pure.pure a) := by
  intro c b c' hrun
  obtain ⟨rfl, rfl⟩ := pure_eq_ok.mp hrun
  exact ⟨[], rfl, rfl, fun h => absurd h hP, fun _ _ => ⟨fun _ => .nil more, fun _ => rfl⟩⟩

theorem keeps_pure (a : α) : Keeps more inside (Pure.pure a) (Pure.pure a) :=
  .pure a not_false

/-- A reader that only complains never gives a result to be kept. -/
theorem failWith (cause : FaultCause) (r : Reader α) :
    Persists more inside P (Reader.failWith cause) r := by
  intro c a c' hrun
  exact (Gives.failWith (P := fun _ => False) cause c a c' hrun).elim

theorem bind_of {R : α → β → Prop} (hp : Persists more inside P p q)
    (hf : ∀ a, Persists more inside (R a) (f a) (f' a)) (hQ : ∀ a b, Q b → P a ∨ R a b) :
    Persists more inside Q (p >>= f) (q >>= f') :=
  fun c => (hp c).bind_of (fun a c' _ => hf a c') .inl hQ

theorem bind (hp : Persists more inside P p q) (hf : ∀ a, Persists more inside Q (f a) (f' a)) :
    Persists more inside Q (p >>= f) (q >>= f') :=
  hp.bind_of hf fun _ _ => .inr

/-- What the first reader takes is enough for the whole. -/
theorem bind_takes (hp : Takes more inside p q) (hf : ∀ a, Keeps more inside (f a) (f' a)) :
    Takes more inside (p >>= f) (q >>= f') :=
  hp.bind_of hf fun _ _ _ => .inl trivial

/-- What is read first has something behind it if what is read next takes something. -/
theorem bind_within (hp : Persists more true P p q) (hf : ∀ a, Takes more false (f a) (f' a)) :
    Takes more false (p >>= f) (q >>= f') :=
  fun c => (hp c).bind_of (fun a c' _ => hf a c') (fun _ => .inr fun _ _ => trivial)
    fun _ _ _ => .inr trivial

theorem keeps_map {g : α → β} (h : Persists more inside P p q) :
    Keeps more inside (g <$> p) (g <$> q) := by
  rw [map_eq_pure_bind, map_eq_pure_bind]
  exact h.bind fun a => .keeps_pure (g a)

/-! ### Branches -/

/-- A condition that does not depend on the run is met in both places or in none. -/
theorem ite {b : Prop} [Decidable b] {r r' : Reader α} (hp : Persists more inside P p q)
    (hr : Persists more inside P r r') :
    Persists more inside P (if b then p else r) (if b then q else r') := by
  split
  · exact hp
  · exact hr

/-- What is read is up to a test. -/
theorem bind_sees {test : List Tree → Bool} {r r' : Reader α} (htest : Steady more inside test)
    (hp : Persists more inside P p q) (hr : Persists more inside P r r') :
    Persists more inside P (sees test >>= fun b => if b = true then p else r)
      (sees test >>= fun b => if b = true then q else r') :=
  htest.keeps.bind fun _ => hp.ite hr

/-- What is read is up to whether something is there, which is taken. -/
theorem bind_flag {s s' : Reader Bool} {r r' : Reader α} {R : α → Prop}
    (hs : Persists more inside (· = true) s s') (hp : Persists more inside R p q)
    (hr : Persists more inside P r r') :
    Persists more inside P (s >>= fun b => if b = true then p else r)
      (s' >>= fun b => if b = true then q else r') := by
  -- where the flag is up, the first reader took something, and else the second has to
  refine hs.bind_of (R := fun b a => b = false ∧ P a) (fun b => ?_) fun b _ ha => ?_
  · cases b with
    | true => exact hp.weaken fun _ h => Bool.noConfusion h.1
    | false => exact hr.weaken fun _ h => h.2
  · cases b with
    | true => exact .inl rfl
    | false => exact .inr ⟨rfl, ha⟩

/-- What is read next is up to whether something was found, which was taken. -/
theorem bind_found {p q : Reader (Option α)} {f f' : Option α → Reader β}
    (hp : Persists more inside (·.isSome = true) p q)
    (hsome : ∀ a, Keeps more inside (f (some a)) (f' (some a)))
    (hnone : Persists more inside Q (f none) (f' none)) :
    Persists more inside Q (p >>= f) (q >>= f') := by
  -- what was found was taken, so only without it the second has to take something
  refine hp.bind_of (R := fun a? b => a? = none ∧ Q b) (fun a? => ?_) fun a? _ hb => ?_
  · cases a? with
    | none => exact hnone.weaken fun _ h => h.2
    | some a => exact (hsome a).weaken nofun
  · cases a? with
    | none => exact .inr ⟨rfl, hb⟩
    | some a => exact .inl rfl

/-- Two ways to read something before the same goes on. -/
theorem ite_bind {b : Prop} [Decidable b] {r r' : Reader α} (hp : Persists more inside P p q)
    (hr : Persists more inside P' r r') (hf : ∀ a, Persists more inside Q (f a) (f' a)) :
    Persists more inside Q (if b then p >>= f else r >>= f) (if b then q >>= f' else r' >>= f') :=
  (hp.bind hf).ite (hr.bind hf)

/-- Either of the two ways takes something. -/
theorem ite_bind_takes {b : Prop} [Decidable b] {r r' : Reader α} (hp : Takes more inside p q)
    (hr : Takes more inside r r') (hf : ∀ a, Keeps more inside (f a) (f' a)) :
    Takes more inside (if b then p >>= f else r >>= f) (if b then q >>= f' else r' >>= f') :=
  (hp.bind_takes hf).ite (hr.bind_takes hf)

end Persists

/-! ## Repetition -/

/-- A loop with fuel for all trees of a run does no more with fuel for a longer one, if each round
but the last takes a tree. -/
theorem persistsAt_of_fuel {ι : Type} {F G : Nat → ι → Reader β} {P : β → Prop}
    (hstep : ∀ n m i c,
      (∀ j c', c'.rest.length < c.rest.length → PersistsAt more inside P (F n j) (G m j) c') →
        PersistsAt more inside P (F (n + 1) i) (G (m + 1) i) c)
    {n m : Nat} (i : ι) {c : Cursor} (hn : c.rest.length < n) (hm : c.rest.length < m) :
    PersistsAt more inside P (F n i) (G m i) c := by
  -- on the fuel, which each round uses up one of while it makes the run shorter
  induction n generalizing m i c with
  | zero => exact absurd hn (Nat.not_lt_zero _)
  | succ n ih =>
    obtain ⟨m, rfl⟩ : ∃ k, m = k + 1 := ⟨m - 1, by omega⟩
    exact hstep n m i c fun j c' hless => ih j (by omega) (by omega)

/-- A loop gets its fuel from the length of the run. -/
theorem persists_of_length {F G : Nat → Reader β} {P : β → Prop}
    (h : ∀ n m c, c.rest.length < n → c.rest.length < m →
      PersistsAt more inside P (F n) (G m) c) :
    Persists more inside P (do F ((← ahead).length + 1)) (do G ((← ahead).length + 1)) := by
  intro c a c' hrun
  refine h _ ((c.rest ++ more).length + 1) c (Nat.lt_succ_self _) ?_ a c' hrun
  rw [List.length_append]
  omega

/-- Where nothing is found at first, the list is empty. -/
theorem gather_of_none {item : Reader (Option α)} {c c' : Cursor} (h : item c = .ok (none, c')) :
    gather item c = .ok ([], c') := by
  have hahead : ahead c = .ok (c.rest, c) := rfl
  rw [gather, bind_run hahead, gatherUpTo, bind_run h]
  rfl

/-- A list of what is found persists if each find does. -/
theorem keeps_gather {item item' : Reader (Option α)}
    (h : Persists more inside (·.isSome = true) item item') :
    Keeps more inside (gather item) (gather item') := by
  refine persists_of_length (F := gatherUpTo item) (G := gatherUpTo item') fun n m c hn hm => ?_
  refine persistsAt_of_fuel (F := fun n (_ : Unit) => gatherUpTo item n)
    (G := fun m _ => gatherUpTo item' m) (fun n m _ c ih => ?_) () hn hm
  refine (h c).bind fun found? c' hfound => ?_
  cases found? with
  | none => exact Persists.keeps_pure [] c'
  -- a find makes the run shorter, as the next round needs it
  | some a =>
    have hless := ((h c).length_le hfound).2 rfl
    exact (ih () c' hless).bind fun as c'' _ => Persists.keeps_pure (a :: as) c''

/-- So does a value that is extended step by step as long as there is a step. -/
theorem keeps_extend {step step' : α → Reader (Option α)}
    (h : ∀ a, Persists more inside (·.isSome = true) (step a) (step' a)) (a : α) :
    Keeps more inside (extend step a) (extend step' a) := by
  refine persists_of_length (F := (extendUpTo step · a)) (G := (extendUpTo step' · a))
    fun n m c hn hm => ?_
  -- one step of the loop on both sides; the next starts from fewer trees
  refine persistsAt_of_fuel (F := extendUpTo step) (G := extendUpTo step')
    (fun n m a c ih => ?_) a hn hm
  refine (h a c).bind fun found? c' hfound => ?_
  cases found? with
  | none => exact Persists.keeps_pure a c'
  | some b => exact ih b c' (((h a c).length_le hfound).2 rfl)

/-- A separated list persists if its items take something and the separator and the end of the list
are tested for in the same way. -/
theorem keeps_separatedBy {separator : String} {stop : List Tree → Bool} {item item' : Reader α}
    (hseparator : Persists more inside (· = true) (sym? separator) (sym? separator))
    (hstop : Steady more inside stop) (h : Takes more inside item item') :
    Keeps more inside (separatedBy separator stop item) (separatedBy separator stop item') := by
  -- an element is an item and whether a separator is behind it
  have helement : Persists more inside (·.isSome = true) (element? separator stop item)
      (element? separator stop item') := by
    refine .bind_sees hstop (.pure none nofun) ?_
    refine .of_takes (h.bind_takes fun a => ?_)
    exact hseparator.bind fun goes => .keeps_pure (some (a, goes))
  rw [separatedBy_eq, separatedBy_eq]
  have hlist (found : List (α × Bool)) : Keeps more inside
      (pure (found.map (·.1), found.getLast?.any (·.2)))
      (pure (found.map (·.1), found.getLast?.any (·.2))) :=
    .keeps_pure _
  refine persists_of_length
    (F := fun n => separatedBy.collect (element? separator stop item) n >>= fun found =>
      pure (found.map (·.1), found.getLast?.any (·.2)))
    (G := fun m => separatedBy.collect (element? separator stop item') m >>= fun found =>
      pure (found.map (·.1), found.getLast?.any (·.2))) fun n m c hn hm => ?_
  refine PersistsAt.bind (P := fun _ => False) ?_ fun found c' _ => hlist found c'
  refine persistsAt_of_fuel (F := fun n (_ : Unit) => separatedBy.collect _ n)
    (G := fun m _ => separatedBy.collect _ m) (fun n m _ c ih => ?_) () hn hm
  refine (helement c).bind fun found? c' hfound => ?_
  match found? with
  | none => exact Persists.keeps_pure [] c'
  -- without a separator the list ends, with one it goes on in a shorter run
  | some (a, false) => exact Persists.keeps_pure [(a, false)] c'
  | some (a, true) =>
    have hless := ((helement c).length_le hfound).2 rfl
    exact (ih () c' hless).bind fun as c'' _ => Persists.keeps_pure ((a, true) :: as) c''

/-! ## Whole runs -/

/-- What is read from a whole run is read in front of more trees, and leaves them. -/
theorem Persists.append_run {p q : Reader α} {P : α → Prop} (h : Persists more false P p q)
    {ts : List Tree} {stop stop' : Span} {leftover leftover' : Option Fault} {a : α}
    (hrun : p ⟨ts, stop, leftover⟩ = .ok (a, ⟨[], stop', leftover'⟩)) :
    Clear more ts ∧
      ∀ close, q ⟨ts ++ more, close, leftover⟩ = .ok (a, ⟨more, close, leftover'⟩) := by
  obtain ⟨taken, hrest, -, -, hgoes⟩ := h _ a _ hrun
  obtain ⟨hclear, hq⟩ := hgoes (.nil more) nofun
  obtain rfl : ts = taken := hrest.trans (List.append_nil taken)
  exact ⟨hclear rfl, hq⟩

/-- What persists in front of nothing is read in the same place. -/
theorem Persists.eq_ok {p q : Reader α} {P : α → Prop} (h : Persists [] false P p q) {c : Cursor}
    {r : α × Cursor} (hrun : p c = .ok r) : q c = .ok r := by
  obtain ⟨a, c'⟩ := r
  obtain ⟨taken, hrest, hstop, -, hgoes⟩ := h c a c' hrun
  have hq := (hgoes (fun hmore => absurd rfl hmore) nofun).2 c.stop
  have hsame : c'.followedBy [] c.stop = c' := by
    rw [Cursor.followedBy, ← hstop, List.append_nil]
  rw [hsame, Cursor.followedBy, List.append_nil] at hq
  exact hq

end Reader

end Specimen
