import Specimen.Code.ArgumentOrder
import Specimen.Grammar.Rules

/-!
# Paths and their arguments

A path stands in a type or in an expression; in an expression its arguments need a `::` before the
opening bracket.
-/

namespace Specimen.Grammar

open Reader

def callArgs (g : Rules) (name : String) : Reader Segment := do
  let (inputs, trailing) ← inGroup .paren (commaList (g.type true))
  let output ← if ← sym? "->" then some <$> g.type false else pure none
  return .called name inputs trailing output

def callArgsAt (ts : List Tree) : Bool :=
  groupAt .paren ts || (symAt "::" ts && groupAt .paren (ts.drop 2))

/-- A constant argument: a literal, a name or a block. -/
def constArgument (g : Rules) : Reader (List Piece) := do
  if ← sees literalAt then return Piece.ofTokens (← literal)
  else if ← sees identAt then return [.token (.ident (← ident))]
  else if ← sees (groupAt .brace) then g.block
  else expected "one of: literal, identifier, curly braces"

def lifetimeBounds (stop : List Tree → Bool) : Reader (List String × Bool) :=
  separatedBy "+" stop lifetime

def symIn (ss : List String) (ts : List Tree) : Bool := ss.any (symAt · ts)

def colonAt (ts : List Tree) : Bool := symAt ":" ts && !symAt "::" ts

/-- A generic argument, given the rule for bounds. -/
def argument (g : Rules) (bound : Reader Bound) : Reader Arg := do
  -- `'a + Trait` is a type without `dyn`
  if (← sees lifetimeAt) && !(← sees fun ts => symAt "+" (ts.drop 1)) then
    return .lifetime (← lifetime)
  else if (← sees literalAt) || (← sees (groupAt .brace)) then
    return .const (← constArgument g)
  else
    let ty ← g.type true
    match ty with
    -- a call has a result and is no name of an associated type
    | .path false [.called ..] => return .type ty
    -- one segment may turn out to be the name of an associated type or constant
    | .path false [item] =>
      if ← sym? "=" then
        if (← sees literalAt) || (← sees (groupAt .brace)) then
          return .assocConst item (← constArgument g)
        else return .assocType item (← g.type true)
      else if ← sym? ":" then
        let (list, trailing) ← separatedBy "+" (symIn [",", ">"]) bound
        return .constraint item list trailing
      else return .type ty
    | _ => return .type ty

def Arg.isLifetime : Arg → Bool
  | .lifetime _ => true
  | _ => false

def angledArgs (g : Rules) (bound : Reader Bound) (name : String) (turbofish : Bool) :
    Reader Segment := do
  sym "<"
  let (args, trailing) ← separatedBy "," (symAt ">") (argument g bound)
  sym ">"
  -- the syntax tree holds lifetimes first, wherever they were written
  let (ordered, trailing') := lifetimesFirst Arg.isLifetime args trailing
  return .angled name turbofish ordered trailing'

def segment (g : Rules) (bound : Reader Bound) (inExpr : Bool) : Reader Segment := do
  if ← sees (wordIn ["super", "self", "crate", "try"]) then return .plain (← anyWord)
  let name ← if ← sees (wordAt "Self") then anyWord else ident
  -- in an expression a bare `<` compares
  if ← sees fun ts => !inExpr && symAt "<" ts && !symAt "<=" ts then angledArgs g bound name false
  else if ← sees fun ts => symAt "::" ts && symAt "<" (ts.drop 2) then
    sym "::"
    angledArgs g bound name true
  else return .plain name

def moreSegments (g : Rules) (bound : Reader Bound) (inExpr : Bool) (more : List Tree → Bool) :
    Reader (List Segment) :=
  gather do
    if ← sees fun ts => symAt "::" ts && more (ts.drop 2) then
      sym "::"
      return some (← segment g bound inExpr)
    else return none

def segments (g : Rules) (bound : Reader Bound) (inExpr : Bool) (more : List Tree → Bool) :
    Reader (List Segment) := do
  let first ← segment g bound inExpr
  return first :: (← moreSegments g bound inExpr more)

/-- Whether no call stands here, whose arguments would belong to the segment before. -/
def noCallAt (ts : List Tree) : Bool := !groupAt .paren ts

def path (g : Rules) (bound : Reader Bound) (inExpr : Bool) : Reader Path := do
  let rooted ← sym? "::"
  return ⟨rooted, ← segments g bound inExpr noCallAt⟩

/-- A path of names, as in attributes and in visibility modifiers. -/
def namePath : Reader Path := do
  let rooted ← sym? "::"
  let nameAt (ts : List Tree) : Bool := identAt ts || wordIn ["super", "self", "Self", "crate"] ts
  let (names, trailing) ← separatedBy "::" (fun ts => !nameAt ts) anyWord
  if names.isEmpty then expected "identifier"
  else if trailing then expected "path segment after `::`"
  else return .ofNames rooted names

/-- A path type, which may be qualified: `<T as a::Trait>::Item`. -/
def qualifiedPath (g : Rules) (bound : Reader Bound) (inExpr : Bool) : Reader Ty := do
  if ← sym? "<" then
    let self ← g.type true
    let trait ← if ← word? "as" then some <$> path g bound false else pure none
    sym ">"
    sym "::"
    -- behind the bracket there has to be a segment, and calls are left to the caller
    let rest ← segments g bound inExpr fun _ => true
    match trait with
    | some p => return .qualified self p.rooted p.segments rest
    | none => return .qualified self false [] rest
  else
    let p ← path g bound inExpr
    return .path p.rooted p.segments

/-- Segments with the arguments of a call on the last one, if they stand here and the segment has
none of its own. -/
def withCallArgs? (g : Rules) (ss : List Segment) : Reader (Option (List Segment)) := do
  match ss.getLast? with
  | some last =>
    if last.hasNoArguments && (← sees callArgsAt) then
      let _ ← sym? "::"
      return some (ss.dropLast ++ [← callArgs g last.name])
    else return none
  | none => return none

/-- Whether a path may go on after its last segment: not if that has a result that could itself take
the segments to come. -/
def mayGoOn (ss : List Segment) : Bool :=
  match ss.getLast? with
  -- `Fn() -> (A)::b` goes on, while `Fn() -> A::b` has given the segment to the result
  | some (.called _ _ _ (some (.paren _))) => true
  | some (.called _ _ _ (some _)) => false
  | _ => true

/-- Segments of a path type with the arguments of calls, and the segments after them. -/
def withCalls (g : Rules) (bound : Reader Bound) : List Segment → Reader (List Segment) :=
  extend fun ss => do
    match ← withCallArgs? g ss with
    | none => return none
    | some called =>
      if mayGoOn called then return some (called ++ (← moreSegments g bound false noCallAt))
      else return some called

end Specimen.Grammar
