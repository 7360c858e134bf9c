/-!
# Similarity of spellings

The Jaro-Winkler measure of two words, between zero and one. It counts the characters the words
share within a window, lowers the score by the shared characters that stand in another order, and
raises it for a common beginning.
-/

namespace Specimen.Text

/-- How far apart two shared characters may stand. -/
def jaroWindow (a b : List Char) : Nat := max a.length b.length / 2 - 1

/-- The first position from `low` to `high`, the end excluded, that holds `c` and is still
free. -/
def freeMatch? (c : Char) (b : List Char) (taken : List Nat) (low high : Nat) : Option Nat :=
  (b.zipIdx.find? fun (d, j) => low ≤ j && j < high && d == c && !taken.contains j).map (·.2)

/-- The characters of `a` that find a partner in `b`, from position `i` on, and the positions of
the partners, the latest first. -/
def jaroMatches (window : Nat) (b : List Char) : List Char → Nat → List Nat → List Char × List Nat
  | [], _, taken => ([], taken)
  | c :: cs, i, taken =>
    match freeMatch? c b taken (i - window) (i + window + 1) with
    | none => jaroMatches window b cs (i + 1) taken
    | some j =>
      let (shared, all) := jaroMatches window b cs (i + 1) (j :: taken)
      (c :: shared, all)

def jaro (a b : List Char) : Float :=
  if a.isEmpty && b.isEmpty then 1.0
  else if a.isEmpty || b.isEmpty then 0.0
  else
    let (left, partners) := jaroMatches (jaroWindow a b) b a 0 []
    let right := (b.zipIdx.filter fun (_, j) => partners.contains j).map (·.1)
    let common := left.length
    let swaps := ((left.zip right).filter fun (c, d) => c != d).length / 2
    if common = 0 then 0.0
    else
      (common.toFloat / a.length.toFloat + common.toFloat / b.length.toFloat +
        (common - swaps).toFloat / common.toFloat) / 3.0

def commonPrefixLength : List Char → List Char → Nat
  | c :: cs, d :: ds => if c = d then commonPrefixLength cs ds + 1 else 0
  | _, _ => 0

/-- The Jaro-Winkler similarity of two words: a common beginning of up to four characters counts
in favour of words that are already alike. -/
def jaroWinkler (a b : List Char) : Float :=
  let sim := jaro a b
  if sim > 0.7 then sim + 0.1 * (min 4 (commonPrefixLength a b)).toFloat * (1.0 - sim) else sim

/-- The better of the best candidate so far and a new one: the new one has to be alike enough to
be meant, and strictly better than what was found before. -/
def preferred (word : String) (best : Option (Float × String)) (candidate : String) :
    Option (Float × String) :=
  let score := jaroWinkler word.toList candidate.toList
  if score > 0.8 then
    match best with
    | none => some (score, candidate)
    | some (top, _) => if top < score then some (score, candidate) else best
  else best

/-- The candidate that is most like `word`, if one is alike enough to be meant; of equals the
first. -/
def nearest? (word : String) (candidates : List String) : Option String :=
  (candidates.foldl (preferred word) none).map (·.2)

end Specimen.Text
