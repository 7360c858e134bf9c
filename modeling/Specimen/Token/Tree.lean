import Specimen.Text.Position
import Specimen.Token.Basic

/-!
# Token trees

What is read from source text: tokens with their places, and groups that hold the trees between
two matching brackets.
-/

namespace Specimen

/-- A token with its place, or a bracketed group. -/
inductive Tree where
  | leaf (token : Token) (span : Span)
  | group (delimiter : Delimiter) (body : List Tree) (openSpan closeSpan : Span)
deriving Inhabited

namespace Tree

def span : Tree → Span
  | leaf _ s => s
  | group _ _ o c => o.through c

/-- The place a complaint about a tree points at: for a group its opening bracket, for a
lifetime its apostrophe. -/
def headSpan : Tree → Span
  | leaf (.lifetime _) s => s.firstColumn
  | leaf _ s => s
  | group _ _ o _ => o

mutual

def tokens : Tree → List Token
  | leaf t _ => [t]
  | group d body _ _ => Token.group d (tokensOf body)

def tokensOf : List Tree → List Token
  | [] => []
  | t :: ts => t.tokens ++ tokensOf ts

end

mutual

def weight : Tree → Nat
  | leaf _ _ => 1
  | group _ body _ _ => weightOf body + 1

def weightOf : List Tree → Nat
  | [] => 0
  | t :: ts => t.weight + weightOf ts

end

def spanOf (trees : List Tree) : Span :=
  match trees.head?, trees.getLast? with
  | some a, some b => a.span.through b.span
  | _, _ => .nowhere

end Tree

end Specimen
