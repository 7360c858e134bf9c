import Specimen.Grammar.Type

/-!
# Patterns

Patterns occur in the statements, arms and closures inside of expressions. They are kept piece by
piece.
-/

namespace Specimen.Grammar

open Reader

/-- The code of a path in an expression or pattern, which may be qualified. -/
def keepPath (g : Rules) : Reader (List Piece) := do
  match ← qualifiedPath g (paramBound g) true with
  | .path rooted segments => return Segment.pathPieces rooted segments
  | .qualified self rooted trait rest => return Segment.qualifiedPieces self rooted trait rest
  | other => return [.type other]

def patternAlternatives (g : Rules) : Reader (List Piece) := do
  -- a bar may come first; `||` is an operator
  let bar ← if ← sees fun ts => symAt "|" ts && !symAt "||" ts then keepSym "|" else pure []
  let first ← g.pattern
  let rest ← gather do
    if ← sees fun ts => symAt "|" ts && !symAt "||" ts && !symAt "|=" ts then
      return some ((← keepSym "|") ++ (← g.pattern))
    else return none
  return bar ++ first ++ rest.flatten

def patternList (g : Rules) : Reader (List Piece) := keepCommaList (patternAlternatives g)

def fieldPattern (g : Rules) : Reader (List Piece) := do
  let attributes ← keepAttributes g
  if ← sees (symAt "..") then return attributes ++ (← keepSym "..")
  -- `name: pattern`, and else the name alone is bound
  else if ← sees fun ts => (identAt ts || literalAt ts) && colonAt (ts.drop 1) then
    return attributes ++ Piece.ofTokens (← anyTree) ++ (← keepSym ":") ++ (← patternAlternatives g)
  else
    let reference ← keepWord? "ref"
    let mutable ← keepWord? "mut"
    return attributes ++ reference ++ mutable ++ [.token (.ident (← ident))]

def rangePatternBound (g : Rules) : Reader (List Piece) := do
  if ← sees literalAt then return Piece.ofTokens (← literal)
  else if ← sees fun ts => identAt ts || wordIn pathWords ts || symAt "::" ts || symAt "<" ts then
    keepPath g
  else return []

def rangePatternRest? (g : Rules) : Reader (List Piece) := do
  if ← sees (symAt "..=") then return (← keepSym "..=") ++ (← rangePatternBound g)
  else if ← sees (symAt "..") then return (← keepSym "..") ++ (← rangePatternBound g)
  else return []

/-- A pattern without alternatives at its top. -/
def pattern (g : Rules) : Reader (List Piece) := do
  -- a single name is bound, unless something behind it shows that it is a path
  let opensPath (ts : List Tree) : Bool :=
    symAt "::" ts || symAt "<" ts || wordIn ["Self", "super", "crate"] ts ||
      (wordAt "self" ts && symAt "::" (ts.drop 1)) ||
      (identAt ts && (symIn ["::", "!", ".."] (ts.drop 1) || groupAt .brace (ts.drop 1) ||
        groupAt .paren (ts.drop 1)))
  if ← sees opensPath then
    let p ← keepPath g
    if ← sees (symAt "!") then return p ++ (← keepSym "!") ++ (← keepAnyGroup)
    else if ← sees (groupAt .brace) then
      return p ++ (← keepGroup .brace (keepCommaList (fieldPattern g)))
    else if ← sees (groupAt .paren) then return p ++ (← keepGroup .paren (patternList g))
    else return p ++ (← rangePatternRest? g)
  else if ← sees (wordAt "_") then keepWord "_"
  else if ← sees literalAt then return Piece.ofTokens (← literal) ++ (← rangePatternRest? g)
  else if ← sees (wordAt "const") then return (← keepWord "const") ++ (← g.block)
  else if ← sees fun ts => wordIn ["ref", "mut", "self"] ts || identAt ts then
    let reference ← keepWord? "ref"
    let mutable ← keepWord? "mut"
    let name ← if ← sees (wordAt "self") then anyWord else ident
    let sub ← if ← sees (symAt "@") then pure ((← keepSym "@") ++ (← g.pattern)) else pure []
    return reference ++ mutable ++ .token (.ident name) :: sub
  else if ← sees (symAt "&") then
    return (← keepSym "&") ++ (← keepWord? "mut") ++ (← g.pattern)
  else if ← sees (groupAt .paren) then keepGroup .paren (patternList g)
  else if ← sees (groupAt .bracket) then keepGroup .bracket (patternList g)
  else if ← sees (symAt "..") then rangePatternRest? g
  else expected "a pattern"

end Specimen.Grammar
