import Specimen.Code.Type

/-!
# Visibility modifiers

What is written in front of a declaration or field: nothing, `pub`, or `pub` restricted to a path.
-/

namespace Specimen

/-- A visibility modifier as written. -/
inductive Modifier where
  | inherited
  | pub
  /-- `pub(path)`, or `pub(in path)` if `explicit` -/
  | restricted (explicit : Bool) (rooted : Bool) (names : List String)
deriving DecidableEq, Repr, Inhabited

namespace Modifier

/-- `pub(crate)` -/
def crate : Modifier := restricted false false ["crate"]

/-- `pub(super)` -/
def parent : Modifier := restricted false false ["super"]

def tokens : Modifier → List Token
  | inherited => []
  | pub => [.ident "pub"]
  | restricted explicit rooted names =>
    .ident "pub" :: Token.parens ((if explicit then [.ident "in"] else []) ++
      (Path.ofNames rooted names).tokens)

end Modifier

end Specimen
