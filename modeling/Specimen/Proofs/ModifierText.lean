import Specimen.Proofs.Readers

/-!
# Modifiers and their text

A readable modifier is read back from its own tokens. The tokens are folded into trees first, as
those of any source are, and `ofTokens?_tokens` says that reading these trees gives the modifier
again. So what is printed in front of a declaration has the level that it was printed for.
-/

namespace Specimen

open Token

/-! ## From tokens to trees -/

def leaves (ts : List Token) : List Tree := ts.map (.leaf · .nowhere)

def Token.isFlat : Token → Bool
  | opening _ => false
  | closing _ => false
  | _ => true

/-- A token that is no bracket changes nothing about which groups are open. -/
theorem trees?_cons {t : Token} (ht : t.isFlat = true) (stack : List Lexer.OpenGroup)
    (done : List Tree) (span : Span) (rest : List (Token × Span)) :
    Lexer.trees? stack done ((t, span) :: rest) =
      Lexer.trees? stack (.leaf t span :: done) rest := by
  cases t with
  | opening d => exact Bool.noConfusion ht
  | closing d => exact Bool.noConfusion ht
  | _ => simp [Lexer.trees?]

/-- Tokens without brackets become leaves of the innermost open group. -/
theorem trees?_append (stack : List Lexer.OpenGroup) (done : List Tree) {ts : List Token}
    (hflat : ∀ t ∈ ts, t.isFlat = true) (rest : List (Token × Span)) :
    Lexer.trees? stack done (ts.map (·, .nowhere) ++ rest) =
      Lexer.trees? stack ((leaves ts).reverse ++ done) rest := by
  induction ts generalizing done with
  | nil => rfl
  | cons t ts ih =>
    obtain ⟨ht, hts⟩ := List.forall_mem_cons.mp hflat
    rw [List.map_cons, List.cons_append, trees?_cons ht, ih _ hts]
    simp [leaves]

/-- A token and a pair of parentheses are two trees. -/
theorem trees?_parens {t : Token} (ht : t.isFlat = true) {body : List Token}
    (hbody : ∀ u ∈ body, u.isFlat = true) :
    Lexer.trees? [] [] ((t :: parens body).map (·, .nowhere)) =
      some [.leaf t .nowhere, .group .paren (leaves body) .nowhere .nowhere] := by
  -- after the opening parenthesis the reader holds the first leaf on its stack
  have hopen : Lexer.trees? [] [] ((t :: parens body).map (·, .nowhere)) =
      Lexer.trees? [⟨.paren, .nowhere, [.leaf t .nowhere]⟩] []
        (body.map (·, .nowhere) ++ [(.closing .paren, .nowhere)]) := by
    rw [List.map_cons, trees?_cons ht]
    simp [parens, group, Lexer.trees?]
  rw [hopen, trees?_append _ _ hbody, List.append_nil]
  simp [Lexer.trees?]

/-! ## From trees to modifiers -/

namespace Grammar

open Reader

def wordPath (words : List String) : List Token :=
  separated (sym "::") (words.map fun w => [.ident w])

/-- A path of names is printed as its root and its words. -/
theorem ofNames_tokens (rooted : Bool) (names : List String) :
    (Path.ofNames rooted names).tokens = root rooted ++ wordPath names := by
  have heach : Segment.tokensEach (names.map .plain) = names.map fun w => [.ident w] := by
    rw [Segment.tokensEach_eq_map, List.map_map]
    rfl
  rw [Path.ofNames, Path.tokens, heach]
  rfl

/-- The two marks of `::` are joined, as the lexer gives them. -/
theorem wordPath_cons_cons (w w' : String) (ws : List String) :
    wordPath (w :: w' :: ws) =
      .ident w :: .punct ':' true :: .punct ':' false :: wordPath (w' :: ws) := by
  rfl

/-- Where the path of a modifier ends. -/
def endsPath (ts : List Tree) : Bool :=
  !(identAt ts || wordIn ["super", "self", "Self", "crate"] ts)

/-- A path goes on exactly at a word that can be part of one. -/
theorem endsPath_leaves (w : String) (ts : List Token) :
    endsPath (leaves (.ident w :: ts)) = !pathWord w := by
  simp [endsPath, leaves, identAt, wordIn, wordAt, pathWord]

/-- At a word the path goes on. What is left to say is whether `::` follows. -/
theorem element?_word {w : String} (hw : pathWord w = true) (ts : List Token) (close : Span)
    (leftover : Option Fault) :
    element? "::" endsPath anyWord ⟨leaves (.ident w :: ts), close, leftover⟩ =
      (do return some (w, ← sym? "::") : Reader _) ⟨leaves ts, close, leftover⟩ := by
  have hgoes : endsPath (leaves (.ident w :: ts)) = false := by
    rw [endsPath_leaves, hw]
    rfl
  rw [element?, bind_run (sees_run _ _), hgoes]
  rfl

/-- Words are read one after the other, and the last has no `::` after it. -/
theorem collect_wordPath {words : List String} (hwords : ∀ w ∈ words, pathWord w = true)
    (close : Span) (leftover : Option Fault) {fuel : Nat} (hfuel : words.length < fuel) :
    ∃ found,
      separatedBy.collect (element? "::" endsPath anyWord) fuel
          ⟨leaves (wordPath words), close, leftover⟩ = .ok (found, ⟨[], close, leftover⟩) ∧
        found.map (·.1) = words ∧ found.getLast?.any (·.2) = false := by
  -- on the words; each round takes one of them with the `::` behind it
  induction words generalizing fuel with
  | nil =>
    obtain ⟨fuel, rfl⟩ : ∃ n, fuel = n + 1 := ⟨fuel - 1, by omega⟩
    exact ⟨[], rfl, rfl, rfl⟩
  | cons w ws ih =>
    obtain ⟨hw, hws⟩ := List.forall_mem_cons.mp hwords
    obtain ⟨fuel, rfl⟩ : ∃ n, fuel = n + 1 := ⟨fuel - 1, by omega⟩
    cases ws with
    | nil =>
      have helement : element? "::" endsPath anyWord ⟨leaves (wordPath [w]), close, leftover⟩ =
          .ok (some (w, false), ⟨[], close, leftover⟩) := element?_word hw [] close leftover
      refine ⟨[(w, false)], ?_, rfl, rfl⟩
      rw [separatedBy.collect, bind_run helement]
      rfl
    | cons w' ws =>
      have helement : element? "::" endsPath anyWord
          ⟨leaves (wordPath (w :: w' :: ws)), close, leftover⟩ =
          .ok (some (w, true), ⟨leaves (wordPath (w' :: ws)), close, leftover⟩) :=
        element?_word hw _ close leftover
      have hless : (w' :: ws).length < fuel := by
        simp only [List.length_cons] at hfuel ⊢
        omega
      obtain ⟨found, hrest, hnames, htrailing⟩ := ih hws hless
      -- the last pair of the whole is the last of the rest, which is there
      have hmore : found ≠ [] := by
        rintro rfl
        simp at hnames
      refine ⟨(w, true) :: found, ?_, by rw [List.map_cons, hnames], ?_⟩
      · rw [separatedBy.collect, bind_run helement]
        show (separatedBy.collect _ fuel >>= fun rest => pure ((w, true) :: rest)) _ = _
        rw [bind_run hrest]
        rfl
      · rw [List.getLast?_cons_of_ne_nil hmore]
        exact htrailing

/-- There are enough tokens for each word to take one. -/
theorem length_wordPath (words : List String) : words.length ≤ (wordPath words).length := by
  induction words with
  | nil => exact Nat.zero_le _
  | cons w ws ih =>
    cases ws with
    | nil => exact Nat.le_refl _
    | cons w' ws =>
      rw [wordPath_cons_cons]
      simp only [List.length_cons] at ih ⊢
      omega

/-- A path of words is read to its end. -/
theorem separatedBy_wordPath {words : List String} (hwords : ∀ w ∈ words, pathWord w = true)
    (close : Span) (leftover : Option Fault) :
    separatedBy "::" endsPath anyWord ⟨leaves (wordPath words), close, leftover⟩ =
      .ok ((words, false), ⟨[], close, leftover⟩) := by
  have hfuel : words.length < (leaves (wordPath words)).length + 1 := by
    have hlength := length_wordPath words
    simp only [leaves, List.length_map]
    omega
  obtain ⟨found, hcollect, hnames, htrailing⟩ := collect_wordPath hwords close leftover hfuel
  rw [separatedBy_eq]
  show (separatedBy.collect _ _ >>= fun found =>
    pure (found.map (·.1), found.getLast?.any (·.2))) _ = _
  rw [bind_run hcollect, hnames, htrailing]
  rfl

/-- A path is read back from its tokens. -/
theorem namePath_tokens (rooted : Bool) {names : List String} (hne : names ≠ [])
    (hnames : ∀ n ∈ names, pathWord n = true) (close : Span) (leftover : Option Fault) :
    namePath ⟨leaves (Path.ofNames rooted names).tokens, close, leftover⟩ =
      .ok (.ofNames rooted names, ⟨[], close, leftover⟩) := by
  have hroot : sym? "::" ⟨leaves (root rooted ++ wordPath names), close, leftover⟩ =
      .ok (rooted, ⟨leaves (wordPath names), close, leftover⟩) := by
    cases rooted with
    | true => rfl
    | false =>
      -- a path without a root starts with a word
      obtain ⟨n, ns, rfl⟩ := List.exists_cons_of_ne_nil hne
      cases ns <;> rfl
  rw [ofNames_tokens, namePath, bind_run hroot]
  show (separatedBy "::" endsPath anyWord >>= _) _ = _
  rw [bind_run (separatedBy_wordPath hnames close leftover)]
  have hsome : names.isEmpty = false := by simpa using hne
  show (if names.isEmpty then expected "identifier" else _) _ = _
  rw [hsome]
  rfl

/-- So is `in` with a path. -/
theorem explicitPath_tokens (rooted : Bool) {names : List String} (hne : names ≠ [])
    (hnames : ∀ n ∈ names, pathWord n = true) (close : Span) (leftover : Option Fault) :
    restriction?.explicitPath
        ⟨leaves (.ident "in" :: (Path.ofNames rooted names).tokens), close, leftover⟩ =
      .ok (.restricted true rooted names, ⟨[], close, leftover⟩) := by
  have hin : word "in" ⟨leaves (.ident "in" :: (Path.ofNames rooted names).tokens), close,
      leftover⟩ = .ok ((), ⟨leaves (Path.ofNames rooted names).tokens, close, leftover⟩) := rfl
  rw [restriction?.explicitPath, bind_run hin,
    bind_run (namePath_tokens rooted hne hnames close leftover)]
  rw [Path.map_name_ofNames]
  rfl

/-- There are no brackets in a path of names. -/
theorem isFlat_ofNames_tokens (rooted : Bool) (names : List String) :
    ∀ t ∈ (Path.ofNames rooted names).tokens, t.isFlat = true := by
  -- words and the colons between them; the root's colons are added last
  have hwords : ∀ t ∈ wordPath names, t.isFlat = true := by
    induction names with
    | nil => exact fun t ht => absurd ht List.not_mem_nil
    | cons w ws ih =>
      cases ws with
      | nil =>
        intro t ht
        obtain rfl := List.mem_singleton.mp ht
        rfl
      | cons w' ws =>
        rw [wordPath_cons_cons]
        simp only [List.forall_mem_cons]
        exact ⟨rfl, rfl, rfl, ih⟩
  rw [ofNames_tokens, List.forall_mem_append]
  refine ⟨?_, hwords⟩
  cases rooted <;> decide

theorem ofNames_tokens_ne_nil (rooted : Bool) {names : List String} (hne : names ≠ []) :
    (Path.ofNames rooted names).tokens ≠ [] := by
  obtain ⟨n, ns, rfl⟩ := List.exists_cons_of_ne_nil hne
  rw [ofNames_tokens]
  cases ns <;> simp [wordPath, separated]

/-- The parentheses after `pub`, around `in` and a path. -/
def restrictionTree (rooted : Bool) (names : List String) : Tree :=
  .group .paren (leaves (.ident "in" :: (Path.ofNames rooted names).tokens)) .nowhere .nowhere

/-- The parentheses behind `pub` are read back as a restriction. -/
theorem restriction?_tokens (rooted : Bool) {names : List String} (hne : names ≠ [])
    (hnames : ∀ n ∈ names, pathWord n = true) :
    restriction? ⟨[restrictionTree rooted names], .nowhere, none⟩ =
      .ok (some (.restricted true rooted names), ⟨[], .nowhere, none⟩) := by
  have hpath := explicitPath_tokens rooted hne hnames .nowhere none
  -- the path has a word, so `in` does not stand alone in the parentheses
  obtain ⟨t, ts, hts⟩ := List.exists_cons_of_ne_nil (ofNames_tokens_ne_nil rooted hne)
  rw [restrictionTree, hts]
  rw [hts] at hpath
  have hgroup : inGroup .paren restriction?.explicitPath
      ⟨[.group .paren (leaves (.ident "in" :: t :: ts)) .nowhere .nowhere], .nowhere, none⟩ =
      .ok (.restricted true rooted names, ⟨[], .nowhere, none⟩) := by
    simp only [inGroup, if_true, hpath]
    rfl
  show (some <$> inGroup .paren restriction?.explicitPath : Reader _) _ = _
  rw [map_eq_pure_bind, bind_run hgroup]
  rfl

/-- A modifier with a path is read back from its trees. -/
theorem modifier_tokens (rooted : Bool) {names : List String} (hne : names ≠ [])
    (hnames : ∀ n ∈ names, pathWord n = true) :
    modifier ⟨[.leaf (.ident "pub") .nowhere, restrictionTree rooted names], .nowhere, none⟩ =
      .ok (.restricted true rooted names, ⟨[], .nowhere, none⟩) := by
  have hpub : word? "pub"
      ⟨[.leaf (.ident "pub") .nowhere, restrictionTree rooted names], .nowhere, none⟩ =
      .ok (true, ⟨[restrictionTree rooted names], .nowhere, none⟩) := rfl
  rw [modifier, bind_run hpub, if_pos rfl, bind_run (restriction?_tokens rooted hne hnames)]
  rfl

end Grammar

/-! ## From tokens to modifiers -/

/-- The modifier that some tokens spell. -/
def Modifier.ofTokens? (ts : List Token) : Option Modifier :=
  (Lexer.trees? [] [] (ts.map (·, .nowhere))).bind fun trees =>
    (Reader.runAll Grammar.modifier trees).toOption

/-- **Printed modifiers** are read back as they are. -/
theorem Modifier.ofTokens?_tokens {m : Modifier} (hm : m.Readable) :
    Modifier.ofTokens? m.tokens = some m := by
  cases m with
  | inherited => rfl
  | pub => rfl
  | restricted explicit rooted names =>
    -- `pub(crate)`, `pub(self)` and `pub(super)` are closed terms; `pub(in ..)` is read step by
    -- step
    cases explicit with
    | false =>
      obtain ⟨rfl, w, hw, rfl⟩ := hm
      simp only [List.mem_cons, List.not_mem_nil, or_false] at hw
      rcases hw with rfl | rfl | rfl <;> rfl
    | true =>
      obtain ⟨hne, hnames⟩ := hm
      have hflat : ∀ t ∈ .ident "in" :: (Path.ofNames rooted names).tokens, t.isFlat = true :=
        List.forall_mem_cons.mpr ⟨rfl, Grammar.isFlat_ofNames_tokens rooted names⟩
      have htrees : Lexer.trees? [] [] ((restricted true rooted names).tokens.map (·, .nowhere)) =
          some [.leaf (.ident "pub") .nowhere, Grammar.restrictionTree rooted names] :=
        trees?_parens rfl hflat
      have hread := Grammar.modifier_tokens rooted hne hnames
      rw [ofTokens?, htrees]
      simp only [Option.bind_some, Reader.runAll, hread]
      rfl

end Specimen
