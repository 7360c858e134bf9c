import Specimen.Proofs.ModifierText

/-!
# Tokens folded into trees

Folding keeps the tokens: they can be read off the trees in order (`tokensOf_eq`). And two runs
whose brackets match are folded one after the other (`trees?_append_eq_some`), since at the end of
the first all groups are closed, and the second is folded without a look at the trees before it.
-/

namespace Specimen

open Token

namespace Lexer

variable {stack : List OpenGroup} {done trees more : List Tree} {ts us : List (Token × Span)}

/-- A bracket that opens puts what was read so far aside. -/
theorem trees?_opening (stack : List OpenGroup) (done : List Tree) (d : Delimiter) (s : Span)
    (ts : List (Token × Span)) :
    trees? stack done ((.opening d, s) :: ts) = trees? (⟨d, s, done⟩ :: stack) [] ts := by
  cases stack <;> simp [trees?]

/-- A bracket that closes has to fit the last that was opened. -/
theorem trees?_closing (g : OpenGroup) (stack : List OpenGroup) (done : List Tree) (d : Delimiter)
    (s : Span) (ts : List (Token × Span)) :
    trees? (g :: stack) done ((.closing d, s) :: ts) =
      if g.delimiter = d then trees? stack (.group d done.reverse g.span s :: g.before) ts
      else none := by
  simp [trees?]

/-- Where a run of tokens ends, all groups are closed and its trees are known. -/
theorem trees?_append_of_eq_some (h : trees? stack done ts = some trees)
    (us : List (Token × Span)) :
    trees? stack done (ts ++ us) = trees? [] trees.reverse us := by
  -- on the tokens; each one does the same with `us` behind it
  induction ts generalizing stack done with
  | nil =>
    cases stack with
    | nil =>
      obtain rfl := Option.some.inj h
      rw [List.reverse_reverse]
      rfl
    | cons g stack => cases h
  | cons t ts ih =>
    obtain ⟨t, s⟩ := t
    rw [List.cons_append]
    cases t with
    | opening d =>
      rw [trees?_opening] at h ⊢
      exact ih h
    | closing d =>
      cases stack with
      | nil => cases h
      | cons g stack =>
        rw [trees?_closing] at h ⊢
        split at h
        · next hd =>
          rw [if_pos hd]
          exact ih h
        · cases h
    | _ =>
      rw [trees?_cons rfl] at h ⊢
      exact ih h

/-- Open groups with `first` before the outermost. -/
def OpenGroup.behind (first : List Tree) : List OpenGroup → List OpenGroup
  | [] => []
  | [g] => [{ g with before := g.before ++ first.reverse }]
  | g :: gs => g :: behind first gs

/-- Folding does not look at the trees that stand before the run. -/
theorem trees?_behind (first : List Tree) (stack : List OpenGroup) (done : List Tree)
    (ts : List (Token × Span)) :
    trees? (OpenGroup.behind first stack)
        (if stack.isEmpty then done ++ first.reverse else done) ts =
      (trees? stack done ts).map (first ++ ·) := by
  -- only the outermost group grows, so the three sizes of the stack are told apart
  induction ts generalizing stack done with
  | nil =>
    match stack with
    | [] => simp [OpenGroup.behind, trees?]
    | [g] => rfl
    | g :: g' :: stack => rfl
  | cons t ts ih =>
    obtain ⟨t, s⟩ := t
    cases t with
    | opening d =>
      rw [trees?_opening, trees?_opening, ← ih]
      cases stack <;> rfl
    | closing d =>
      match stack with
      | [] => rfl
      | [g] =>
        rw [OpenGroup.behind, trees?_closing, trees?_closing]
        split
        · rw [← ih]
          rfl
        · rfl
      | g :: g' :: stack =>
        rw [OpenGroup.behind, trees?_closing, trees?_closing]
        · split
          · rw [← ih]
            rfl
          · rfl
        · exact List.cons_ne_nil g' stack
    | _ =>
      rw [trees?_cons rfl, trees?_cons rfl, ← ih]
      cases stack <;> rfl

/-- The trees of two runs, one after the other. -/
theorem trees?_append_eq_some (hts : trees? [] [] ts = some trees)
    (hus : trees? [] [] us = some more) : trees? [] [] (ts ++ us) = some (trees ++ more) := by
  have hbehind := trees?_behind trees [] [] us
  rw [hus] at hbehind
  rw [trees?_append_of_eq_some hts]
  exact hbehind

/-- The tokens of open groups, as far as they have been read. -/
def OpenGroup.tokensOf : List OpenGroup → List Token
  | [] => []
  | g :: gs => tokensOf gs ++ Tree.tokensOf g.before.reverse ++ [.opening g.delimiter]

end Lexer

namespace Tree

/-- Trees are written one after the other. -/
theorem tokensOf_append (ts us : List Tree) : tokensOf (ts ++ us) = tokensOf ts ++ tokensOf us := by
  induction ts with
  | nil => rfl
  | cons t ts ih =>
    show t.tokens ++ tokensOf (ts ++ us) = t.tokens ++ tokensOf ts ++ tokensOf us
    rw [ih, List.append_assoc]

/-- The last tree that was read is the first of the reversed list. -/
theorem tokensOf_reverse_cons (t : Tree) (ts : List Tree) :
    tokensOf (t :: ts).reverse = tokensOf ts.reverse ++ t.tokens := by
  rw [List.reverse_cons, tokensOf_append]
  exact congrArg _ (List.append_nil _)

/-- Tokens that are no brackets are leaves. -/
theorem exists_leaf {t : Token} (ht : t.isFlat = true) {trees : List Tree} {ts : List Token}
    (h : tokensOf trees = t :: ts) :
    ∃ span rest, trees = .leaf t span :: rest ∧ tokensOf rest = ts := by
  cases trees with
  | nil => cases h
  | cons tree rest =>
    -- a group would print its delimiter first, which is no flat token
    cases tree with
    | leaf u span =>
      obtain ⟨rfl, rfl⟩ := List.cons.inj h
      exact ⟨span, rest, rfl, rfl⟩
    | group d body o c =>
      obtain ⟨rfl, -⟩ := List.cons.inj h
      cases ht

end Tree

/-- The tokens of a folded run stand in its open groups, in the trees that are done, and in the
rest. -/
theorem Lexer.tokensOf_of_trees? {stack : List OpenGroup} {done trees : List Tree}
    {ts : List (Token × Span)} (h : trees? stack done ts = some trees) :
    Tree.tokensOf trees =
      OpenGroup.tokensOf stack ++ Tree.tokensOf done.reverse ++ ts.map (·.1) := by
  induction ts generalizing stack done with
  | nil =>
    cases stack with
    | nil =>
      obtain rfl := Option.some.inj h
      simp [OpenGroup.tokensOf]
    | cons g stack => cases h
  | cons t ts ih =>
    obtain ⟨t, s⟩ := t
    cases t with
    | opening d =>
      rw [trees?_opening] at h
      rw [ih h]
      simp [OpenGroup.tokensOf, Tree.tokensOf]
    | closing d =>
      cases stack with
      | nil => cases h
      | cons g stack =>
        rw [trees?_closing] at h
        split at h
        · next hd =>
          rw [ih h, Tree.tokensOf_reverse_cons]
          simp [OpenGroup.tokensOf, Tree.tokens, Token.group, hd]
        · cases h
    | _ =>
      rw [trees?_cons rfl] at h
      rw [ih h, Tree.tokensOf_reverse_cons]
      simp [Tree.tokens]

/-- A run that is folded from the start has all its tokens in the trees. -/
theorem Lexer.tokensOf_eq {ts : List Token} {trees : List Tree}
    (h : trees? [] [] (ts.map (·, .nowhere)) = some trees) : Tree.tokensOf trees = ts := by
  rw [tokensOf_of_trees? h]
  simp [OpenGroup.tokensOf, Tree.tokensOf, Function.comp_def]

end Specimen
