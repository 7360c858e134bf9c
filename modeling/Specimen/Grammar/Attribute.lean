import Specimen.Grammar.Path

/-!
# Attributes

An outer attribute, `#[path]`, `#[path(...)]` or `#[path = value]`. The trees inside a list are kept
for whoever the attribute is for.
-/

namespace Specimen

/-- What follows the path of an attribute. -/
inductive AttributeForm where
  | word
  | list (body : List Tree)
  | nameValue

/-- An attribute: its path and form, the stretch between its brackets, the whole stretch, and its
code. -/
structure Attribute where
  path : Path
  form : AttributeForm
  contentSpan : Span
  span : Span
  pieces : List Piece

def Attribute.isNamed (a : Attribute) (name : String) : Bool := a.path.ident? = some name

namespace Grammar

open Reader

/-- The value after the equals sign of an attribute. A literal may only stand alone; other
attributes may not stand in it. -/
def attributeValue (g : Rules) : Reader Expr := do
  -- looks ahead: a literal that something follows is part of an expression
  let c ← get
  match (literal.run { c with rest := c.rest } : Except Fault (List Token × Cursor)) with
  | .ok (tokens, after) =>
    if after.rest.isEmpty then
      set after
      return ⟨.literal tokens, Piece.ofTokens tokens⟩
    else g.expr true
  | .error _ =>
    if ← sees fun ts => symAt "#" ts && groupAt .bracket (ts.drop 1) then
      failWith .nestedAttribute
    else g.expr true

def attributeContent (g : Rules) : Reader (Path × AttributeForm × List Piece) := do
  -- `unsafe(..)` is a form of its own, though `unsafe` is no name
  let path ← if ← sees (wordAt "unsafe") then Path.ofNames false <$> ([·]) <$> anyWord else namePath
  match ← ahead with
  | .group _ body _ _ :: _ => return (path, .list body, Piece.ofTokens (path.tokens ++ (← anyTree)))
  | _ =>
    if ← sees fun ts => symAt "=" ts && !symAt "==" ts && !symAt "=>" ts then
      sym "="
      let value ← attributeValue g
      return (path, .nameValue, Piece.ofTokens (path.tokens ++ Token.sym "=") ++ value.pieces)
    else return (path, .word, Piece.ofTokens path.tokens)

def outerAttribute (g : Rules) : Reader Attribute := do
  let (((path, form, content), inner), span) ← located do
    sym "#"
    inGroup .bracket (located (attributeContent g))
  return ⟨path, form, inner, span, Piece.ofTokens (Token.sym "#") ++
    .token (.opening .bracket) :: content ++ [.token (.closing .bracket)]⟩

def attributes (g : Rules) : Reader (List Attribute) :=
  gather do
    if ← sees (symAt "#") then return some (← outerAttribute g) else return none

def keepAttributes (g : Rules) : Reader (List Piece) := do
  return (← attributes g).flatMap (·.pieces)

end Grammar

end Specimen
