import Specimen.Proofs.Continuation

/-!
# Taking trees in front of more

The readers that take trees persist in front of a colon. Those that take one tree do not look at the
others (`takes_of_first`). A symbol with a colon in it is taken where something is left behind it,
and so is a tree of any kind, since both could be the colon at the end of a run that is joined to
the next.
-/

namespace Specimen.Reader

open Specimen.Tree (Clear)

variable {α : Type} {more : List Tree} {inside : Bool}

/-! ## Single trees -/

/-- A reader that takes the first tree, which is no colon, and does not look at the others. -/
theorem takes_of_first {p : Reader α}
    (h : ∀ c a c', p c = .ok (a, c') → ∃ t rest, c.rest = t :: rest ∧ c' = { c with rest } ∧
      (inside = false → ∀ span, t ≠ .leaf (.punct ':' true) span) ∧
      ∀ us stop, p ⟨t :: us, stop, c.leftover⟩ = .ok (a, ⟨us, stop, c.leftover⟩)) :
    Takes more inside p p := by
  intro c a c' hrun
  obtain ⟨t, rest, hrest, rfl, hcolon, hgoes⟩ := h c a c' hrun
  refine ⟨[t], hrest, rfl, fun _ => List.cons_ne_nil t [], fun _ _ =>
    ⟨fun hin => .singleton (hcolon hin), fun stop => ?_⟩⟩
  rw [Cursor.followedBy, hrest]
  exact hgoes (rest ++ more) stop

/-- A reader complains where it does not go on. -/
theorem ne_ok_of_expected {what : String} {c : Cursor} {r : α × Cursor} :
    (expected what : Reader α) c ≠ .ok r :=
  fun h => (Gives.failWith (P := fun _ => False) (.expected what) c r.1 r.2 h).elim

/-- A word is the first tree, whatever stands behind it. -/
theorem takes_anyWord : Takes more inside anyWord anyWord := by
  refine takes_of_first fun c name c' hrun => ?_
  obtain ⟨span, rest, hrest⟩ := Grammar.anyWord_eq_ok hrun
  rw [Grammar.anyWord_run, hrest] at hrun
  obtain ⟨-, rfl⟩ := Prod.mk.inj (Except.ok.inj hrun)
  exact ⟨_, rest, hrest, rfl, fun _ => nofun, fun us stop => rfl⟩

/-- What `ident` makes of the first tree: a word that is not reserved. -/
theorem ident_run (c : Cursor) :
    ident c =
      match c.rest with
      | .leaf (.ident n) _ :: _ =>
        if reserved.contains n then expected s!"identifier, found keyword `{n}`" c else anyWord c
      | _ => expected "identifier" c := by
  obtain ⟨trees, stop, leftover⟩ := c
  -- only a first leaf can be a name; every other stream takes the last alternative
  match trees with
  | [] => rfl
  | .group .. :: _ => rfl
  | .leaf token span :: rest =>
    cases token with
    | ident n =>
      show (if reserved.contains n = true then _ else _ : Reader String) _ = _
      dsimp only
      split <;> rfl
    | _ => rfl

theorem takes_ident : Takes more inside ident ident := by
  refine takes_of_first fun c name c' hrun => ?_
  rw [ident_run] at hrun
  split at hrun
  · next n span rest hrest =>
    split at hrun
    · exact absurd hrun ne_ok_of_expected
    · next hword =>
      rw [Grammar.anyWord_run, hrest] at hrun
      obtain ⟨rfl, rfl⟩ := Prod.mk.inj (Except.ok.inj hrun)
      refine ⟨_, rest, hrest, rfl, fun _ => nofun, fun us stop => ?_⟩
      rw [ident_run]
      exact if_neg hword
  · exact absurd hrun ne_ok_of_expected

/-- What `lifetime` makes of the first tree. -/
theorem lifetime_run (c : Cursor) :
    lifetime c =
      match c.rest with
      | .leaf (.lifetime n) _ :: rest => .ok (n, { c with rest })
      | _ => expected "lifetime" c := by
  obtain ⟨trees, stop, leftover⟩ := c
  match trees with
  | [] => rfl
  | .group .. :: _ => rfl
  | .leaf token span :: rest => cases token <;> rfl

theorem takes_lifetime : Takes more inside lifetime lifetime := by
  refine takes_of_first fun c name c' hrun => ?_
  rw [lifetime_run] at hrun
  split at hrun
  · next n span rest hrest =>
    obtain ⟨rfl, rfl⟩ := Prod.mk.inj (Except.ok.inj hrun)
    exact ⟨_, rest, hrest, rfl, fun _ => nofun, fun us stop => rfl⟩
  · exact absurd hrun ne_ok_of_expected

/-- What `anyTree` makes of the first tree, which is as good as any other. -/
theorem anyTree_run (c : Cursor) :
    anyTree c =
      match c.rest with
      | t :: rest => .ok (t.tokens, { c with rest })
      | _ => expected "token" c := by
  obtain ⟨trees, stop, leftover⟩ := c
  cases trees <;> rfl

/-- The tree that is taken may be a colon, so this is said only inside of brackets. -/
theorem takes_anyTree : Takes more true anyTree anyTree := by
  refine takes_of_first fun c ts c' hrun => ?_
  rw [anyTree_run] at hrun
  split at hrun
  · next t rest hrest =>
    obtain ⟨rfl, rfl⟩ := Prod.mk.inj (Except.ok.inj hrun)
    exact ⟨t, rest, hrest, rfl, nofun, fun us stop => rfl⟩
  · exact absurd hrun ne_ok_of_expected

/-- What `keepAnyGroup` makes of the first tree: a group with its brackets. -/
theorem keepAnyGroup_run (c : Cursor) :
    keepAnyGroup c =
      match c.rest with
      | .group d body s e :: rest =>
        .ok (Piece.ofTokens (Tree.group d body s e).tokens, { c with rest })
      | _ => expected "one of: parentheses, curly braces, square brackets" c := by
  obtain ⟨trees, stop, leftover⟩ := c
  match trees with
  | [] => rfl
  | .group .. :: _ => rfl
  | .leaf token span :: rest => rfl

theorem takes_keepAnyGroup : Takes more inside keepAnyGroup keepAnyGroup := by
  refine takes_of_first fun c ts c' hrun => ?_
  rw [keepAnyGroup_run] at hrun
  split at hrun
  · next d body s e rest hrest =>
    obtain ⟨rfl, rfl⟩ := Prod.mk.inj (Except.ok.inj hrun)
    exact ⟨_, rest, hrest, rfl, fun _ => nofun, fun us stop => rfl⟩
  · exact absurd hrun ne_ok_of_expected

/-- The inside of a group is a run of its own, so only the result matters there. -/
theorem takes_inGroup {p q : Reader α} (hpq : ∀ c r, p c = .ok r → q c = .ok r) (d : Delimiter) :
    Takes more inside (inGroup d p) (inGroup d q) := by
  intro c a c' hrun
  unfold inGroup at hrun
  split at hrun
  · next e body s close rest hrest =>
    split at hrun
    · next hd =>
      split at hrun
      · cases hrun
      -- what is left inside of the group is noted and does not stay in the run
      · next found inner heq =>
        obtain ⟨rfl, rfl⟩ := Prod.mk.inj (Except.ok.inj hrun)
        refine ⟨[.group e body s close], hrest, rfl, fun _ => List.cons_ne_nil _ _,
          fun _ _ => ⟨fun _ => .singleton fun _ => nofun, fun stop' => ?_⟩⟩
        unfold inGroup Cursor.followedBy
        rw [hrest]
        dsimp only [List.cons_append]
        rw [if_pos hd, hpq _ _ heq]
    · exact absurd hrun ne_ok_of_expected
  · exact absurd hrun ne_ok_of_expected

theorem takes_inGroup_self (d : Delimiter) (p : Reader α) :
    Takes more inside (inGroup d p) (inGroup d p) :=
  takes_inGroup (fun _ _ h => h) d

/-! ## Keywords and literals -/

/-- A keyword that is seen is the first tree. -/
theorem exists_of_wordAt {w : String} {ts : List Tree} (h : wordAt w ts = true) :
    ∃ span rest, ts = .leaf (.ident w) span :: rest := by
  unfold wordAt at h
  split at h
  · obtain rfl := of_decide_eq_true h
    exact ⟨_, _, rfl⟩
  · cases h

theorem wordAt_self (w : String) (span : Span) (ts : List Tree) :
    wordAt w (.leaf (.ident w) span :: ts) = true :=
  decide_eq_true rfl

/-- What `literal` makes of a run: its first tree, a sign and a number, or a truth value. -/
theorem literal_run (c : Cursor) :
    literal c =
      match c.rest with
      | .leaf (.literal text) _ :: rest => .ok ([.literal text], { c with rest })
      | .leaf (.punct '-' _) _ :: .leaf (.literal text) _ :: rest =>
        if isNumber text then .ok ([.punct '-' false, .literal text], { c with rest })
        else expected "literal" c
      | ts =>
        if wordIn ["true", "false"] ts then (do return [.ident (← anyWord)] : Reader _) c
        else expected "literal" c := by
  -- the alternatives with the cursor applied, by definition
  have hrun : literal c = (match c.rest with
      | .leaf (.literal text) _ :: _ => do drop 1; return [.literal text]
      | .leaf (.punct '-' _) _ :: .leaf (.literal text) _ :: _ =>
        if isNumber text then do drop 2; return [.punct '-' false, .literal text]
        else expected "literal"
      | ts => if wordIn ["true", "false"] ts then do return [.ident (← anyWord)]
        else expected "literal" : Reader (List Token)) c := rfl
  rw [hrun]
  obtain ⟨trees, stop, leftover⟩ := c
  dsimp only
  split
  · rfl
  · split <;> rfl
  · split <;> rfl

theorem takes_literal : Takes more true literal literal := by
  intro c ts c' hrun
  rw [literal_run] at hrun
  split at hrun
  -- one tree is taken
  · next text span rest hrest =>
    obtain ⟨rfl, rfl⟩ := Prod.mk.inj (Except.ok.inj hrun)
    refine ⟨[_], hrest, rfl, fun _ => List.cons_ne_nil _ _, fun _ _ =>
      ⟨Bool.noConfusion, fun stop => ?_⟩⟩
    rw [literal_run, Cursor.followedBy, hrest]
    rfl
  -- a sign and a number are two trees, and the number is the last of them
  · next joint span text span' rest hrest =>
    split at hrun
    · next hnumber =>
      obtain ⟨rfl, rfl⟩ := Prod.mk.inj (Except.ok.inj hrun)
      refine ⟨[_, _], hrest, rfl, fun _ => List.cons_ne_nil _ _, fun _ _ =>
        ⟨Bool.noConfusion, fun stop => ?_⟩⟩
      rw [literal_run, Cursor.followedBy, hrest]
      exact if_pos hnumber
    · exact absurd hrun ne_ok_of_expected
  · split at hrun
    -- a truth value is a word
    · next hat =>
      obtain ⟨w, hw, hat⟩ := List.any_eq_true.mp hat
      obtain ⟨span, rest, hrest⟩ := exists_of_wordAt hat
      obtain ⟨name, c₁, hname, hpure⟩ := bind_eq_ok.mp hrun
      rw [Grammar.anyWord_run, hrest] at hname
      obtain ⟨rfl, rfl⟩ := Prod.mk.inj (Except.ok.inj hname)
      obtain ⟨rfl, rfl⟩ := pure_eq_ok.mp hpure
      refine ⟨[_], hrest, rfl, fun _ => List.cons_ne_nil _ _, fun _ _ =>
      ⟨Bool.noConfusion, fun stop => ?_⟩⟩
      rw [literal_run, Cursor.followedBy, hrest]
      exact if_pos (List.any_eq_true.mpr ⟨w, hw, wordAt_self w span _⟩)
    · exact absurd hrun ne_ok_of_expected

/-- A keyword that may be missing is taken if it is there, and there is no complaint. -/
theorem word?_run (w : String) (c : Cursor) :
    word? w c = .ok (wordAt w c.rest,
      if wordAt w c.rest then { c with rest := c.rest.drop 1 } else c) := by
  show (if wordAt w c.rest = true then _ else _ : Reader Bool) c = _
  cases wordAt w c.rest <;> rfl

/-- Whether it is there does not depend on what follows. -/
theorem persists_word? (hmore : OpensWithColon more) (w : String) :
    Persists more inside (· = true) (word? w) (word? w) := by
  intro c b c' hrun
  rw [word?_run] at hrun
  obtain ⟨rfl, rfl⟩ := Prod.mk.inj (Except.ok.inj hrun)
  cases hat : wordAt w c.rest with
  -- nothing is taken, and the test gives the same in front of `more`
  | false =>
    refine ⟨[], rfl, rfl, Bool.noConfusion, fun hclear hleft =>
      ⟨fun _ => .nil more, fun stop => ?_⟩⟩
    have hat' := steady_wordAt hmore w c.rest hclear hleft
    rw [word?_run, Cursor.followedBy, hat', hat]
    rfl
  -- the keyword itself is taken
  | true =>
    obtain ⟨span, rest, hrest⟩ := exists_of_wordAt hat
    rw [if_pos rfl, hrest]
    refine ⟨[.leaf (.ident w) span], rfl, rfl, fun _ => List.cons_ne_nil _ _, fun _ _ =>
      ⟨fun _ => .singleton fun _ h => (by cases h), fun stop => ?_⟩⟩
    rw [word?_run, Cursor.followedBy, hrest, List.cons_append, wordAt_self]
    rfl

/-- A keyword that must be there. -/
theorem word_run (w : String) (c : Cursor) :
    word w c = (if wordAt w c.rest then drop 1 else expected s!"`{w}`") c := rfl

theorem takes_word (w : String) : Takes more inside (word w) (word w) := by
  refine takes_of_first fun c name c' hrun => ?_
  rw [word_run] at hrun
  split at hrun
  · next hat =>
    obtain ⟨span, rest, hrest⟩ := exists_of_wordAt hat
    refine ⟨_, rest, hrest, ?_, fun _ => nofun, fun us stop => ?_⟩
    · rw [← (Prod.mk.inj (Except.ok.inj hrun)).2]
      show ({ c with rest := c.rest.drop 1 } : Cursor) = _
      rw [hrest]
      rfl
    · rw [word_run, wordAt_self]
      rfl
  · exact absurd hrun ne_ok_of_expected

/-! ## Symbols -/

/-- A symbol that stands at the front of a run stands there whatever follows. -/
theorem exists_of_marksAt {cs : List Char} {ts : List Tree} (h : marksAt cs ts = true) :
    ∃ taken rest, ts = taken ++ rest ∧ taken.length = cs.length ∧
      (∀ t ∈ taken, ∃ c ∈ cs, ∃ joint span, t = .leaf (.punct c joint) span) ∧
      ∀ us, marksAt cs (taken ++ us) = true := by
  -- mark by mark: all but the last have to be joined to the next
  fun_induction marksAt cs ts with
  | case1 ts => exact ⟨[], ts, rfl, rfl, fun _ ht => absurd ht List.not_mem_nil, fun us => rfl⟩
  | case2 c d joint span ts =>
    obtain rfl := eq_of_beq h
    exact ⟨[_], ts, rfl, rfl,
      List.forall_mem_singleton.mpr ⟨c, List.mem_cons_self, joint, span, rfl⟩, fun us => h⟩
  | case3 c cs d span ts hne ih =>
    obtain ⟨hc, hcs⟩ := Bool.and_eq_true_iff.mp h
    obtain rfl := eq_of_beq hc
    obtain ⟨taken, rest, rfl, hlength, htaken, hgoes⟩ := ih hcs
    refine ⟨_ :: taken, rest, rfl, congrArg (· + 1) hlength, ?_, fun us => ?_⟩
    · refine List.forall_mem_cons.mpr ⟨⟨c, List.mem_cons_self, true, span, rfl⟩, fun t ht => ?_⟩
      obtain ⟨c', hc', hrest⟩ := htaken t ht
      exact ⟨c', List.mem_cons_of_mem c hc', hrest⟩
    · rw [List.cons_append, marksAt]
      · rw [hc, hgoes us]
        rfl
      · exact hne
  | case4 => cases h

/-- What a symbol takes are its marks, and a symbol without a colon leaves a clear run behind. -/
theorem exists_of_symAt (more : List Tree) {s : String} (hs : s ≠ "") {ts : List Tree}
    (h : symAt s ts = true) :
    ∃ taken rest, ts = taken ++ rest ∧ taken ≠ [] ∧ (∀ us, (taken ++ us).drop s.length = us) ∧
      (':' ∉ s.toList → Clear more taken) ∧ ∀ us, symAt s (taken ++ us) = true := by
  obtain ⟨taken, rest, rfl, hlength, hmarks, hgoes⟩ := exists_of_marksAt h
  rw [String.length_toList] at hlength
  refine ⟨taken, rest, rfl, ?_, fun us => by rw [← hlength, List.drop_left], ?_, hgoes⟩
  -- an empty symbol is the one that would take nothing
  · rintro rfl
    exact hs (String.length_eq_zero_iff.mp hlength.symm)
  · intro hcolon _ span hlast
    -- each tree taken is a mark of the symbol, so none of them is a colon
    obtain ⟨c, hc, joint, span', heq⟩ := hmarks _ (List.mem_of_getLast? hlast)
    cases heq
    exact hcolon hc

/-- A symbol that may be missing, with as many trees as it has marks. -/
theorem sym?_run (s : String) (c : Cursor) :
    sym? s c = .ok (symAt s c.rest,
      if symAt s c.rest then { c with rest := c.rest.drop s.length } else c) := by
  show (if symAt s c.rest = true then _ else _ : Reader Bool) c = _
  cases symAt s c.rest <;> rfl

/-- A symbol persists if the test for it is steady, and if it has no colon that could be joined to
`more`. -/
theorem persists_sym? (s : String) (hs : s ≠ "") (hsteady : Steady more inside (symAt s))
    (hcolon : inside = false → ':' ∉ s.toList) :
    Persists more inside (· = true) (sym? s) (sym? s) := by
  intro c b c' hrun
  rw [sym?_run] at hrun
  obtain ⟨rfl, rfl⟩ := Prod.mk.inj (Except.ok.inj hrun)
  cases hat : symAt s c.rest with
  | false =>
    refine ⟨[], rfl, rfl, nofun, fun hclear hleft => ⟨fun _ => .nil more, fun stop => ?_⟩⟩
    have hat' := hsteady c.rest hclear hleft
    rw [sym?_run, Cursor.followedBy, hat', hat]
    rfl
  | true =>
    obtain ⟨taken, rest, hrest, hne, hdrop, hmarks, hgoes⟩ := exists_of_symAt more hs hat
    rw [if_pos rfl, hrest, hdrop]
    refine ⟨taken, rfl, rfl, fun _ => hne, fun hclear hleft =>
      ⟨fun hin => hmarks (hcolon hin), fun stop => ?_⟩⟩
    rw [sym?_run, Cursor.followedBy, hrest, List.append_assoc, hgoes, if_pos rfl, hdrop]
    rfl

/-- A symbol that must be there. -/
theorem sym_run (s : String) (c : Cursor) :
    sym s c = if symAt s c.rest then .ok ((), { c with rest := c.rest.drop s.length })
      else expectedSym s c := by
  show (if symAt s c.rest = true then _ else _ : Reader Unit) c = _
  cases symAt s c.rest <;> rfl

/-- What is taken is the symbol, so no test of what else might stand there is needed. -/
theorem takes_sym (s : String) (hs : s ≠ "") (hcolon : inside = false → ':' ∉ s.toList) :
    Takes more inside (sym s) (sym s) := by
  intro c u c' hrun
  rw [sym_run] at hrun
  split at hrun
  · next hat =>
    obtain ⟨rfl, rfl⟩ := Prod.mk.inj (Except.ok.inj hrun)
    obtain ⟨taken, rest, hrest, hne, hdrop, hmarks, hgoes⟩ := exists_of_symAt more hs hat
    rw [hrest, hdrop]
    refine ⟨taken, rfl, rfl, fun _ => hne, fun _ _ =>
      ⟨fun hin => hmarks (hcolon hin), fun stop => ?_⟩⟩
    rw [sym_run, Cursor.followedBy, hrest, List.append_assoc, hgoes, if_pos rfl, hdrop]
    rfl
  · cases hrun

/-! ## Stretches of source text -/

/-- A result with its place: the place is that of the trees that were taken. -/
theorem located_eq_ok {p : Reader α} {c c' : Cursor} {r : α × Span} :
    located p c = .ok (r, c') ↔
      ∃ a, p c = .ok (a, c') ∧
        r = (a, Tree.spanOf (c.rest.take (c.rest.length - c'.rest.length))) := by
  -- the span is computed from the cursors on both sides, so it goes into the continuation
  have hrun : located p c =
      (p >>= fun a c₁ =>
        .ok ((a, Tree.spanOf (c.rest.take (c.rest.length - c₁.rest.length))), c₁)) c := by
    show (p c >>= _) >>= _ = p c >>= _
    cases p c <;> rfl
  rw [hrun, bind_eq_ok]
  constructor
  · rintro ⟨a, c₁, ha, h⟩
    obtain ⟨rfl, rfl⟩ := Prod.mk.inj (Except.ok.inj h)
    exact ⟨a, ha, rfl⟩
  · rintro ⟨a, ha, rfl⟩
    exact ⟨a, c', ha, rfl⟩

/-- Places are the same in front of more trees, because the same trees are taken. -/
theorem Persists.located {p q : Reader α} {P : α → Prop} (h : Persists more inside P p q) :
    Persists more inside (fun r => P r.1) (located p) (located q) := by
  intro c r c' hrun
  obtain ⟨a, ha, rfl⟩ := located_eq_ok.mp hrun
  obtain ⟨taken, hrest, hstop, htakes, hgoes⟩ := h c a c' ha
  refine ⟨taken, hrest, hstop, htakes, fun hclear hleft => ?_⟩
  obtain ⟨hclear', hq⟩ := hgoes hclear hleft
  refine ⟨hclear', fun stop => located_eq_ok.mpr ⟨a, hq stop, ?_⟩⟩
  -- what stands behind the taken trees is subtracted again
  have htaken (us : List Tree) :
      (taken ++ us).take ((taken ++ us).length - us.length) = taken := by
    rw [List.length_append, Nat.add_sub_cancel, List.take_left]
  simp only [Cursor.followedBy, hrest]
  rw [List.append_assoc, htaken, htaken]

end Specimen.Reader
