import Specimen.Code.Generics
import Specimen.Grammar.Attribute

/-!
# Types and bounds

The types of the language, bounds of type parameters and trait objects, and the `for<'a>` binders in
front of both.
-/

namespace Specimen.Grammar

open Reader

def endsParamBounds (ts : List Tree) : Bool := ts.isEmpty || symIn [",", ">", "="] ts

/-- A generic parameter, given the rule for bounds. -/
def genericParam (g : Rules) (bound : Reader Bound) : Reader GenericParam := do
  let attributes := Piece.tokensOf (← keepAttributes g)
  if ← sees lifetimeAt then
    let name ← lifetime
    if ← sym? ":" then
      let (list, trailing) ← lifetimeBounds fun ts => ts.isEmpty || symIn [",", ">"] ts
      return .lifetime attributes name list trailing
    else return .lifetime attributes name [] false
  else if ← sees identAt then
    let name ← ident
    let (list, trailing) ← if ← sym? ":" then separatedBy "+" endsParamBounds bound
      else pure ([], false)
    let default ← if ← sym? "=" then some <$> g.type true else pure none
    return .type attributes name list trailing default
  else if ← word? "const" then
    let name ← ident
    sym ":"
    let ty ← g.type true
    let default ← if ← sym? "=" then some <$> constArgument g else pure none
    return .const attributes name ty default
  -- an underscore is read, though nothing can be called so
  else if ← word? "_" then return .type attributes "_" [] false none
  else expected "one of: lifetime, identifier, `const`"

/-- The binder `for<'a>`, given the rule for bounds. -/
def binder (g : Rules) (bound : Reader Bound) : Reader (List Piece) := do
  word "for"
  sym "<"
  let (params, trailing) ← separatedBy "," (symAt ">") (genericParam g bound)
  sym ">"
  return Piece.ofTokens (.ident "for" :: Token.sym "<" ++
    Token.punctuated (Token.sym ",") (params.map GenericParam.declTokens) trailing ++ Token.sym ">")

def binder? (g : Rules) (bound : Reader Bound) : Reader (List Piece) := do
  if ← sees (wordAt "for") then binder g bound else return []

/-- What may stand in a bound. -/
structure BoundForms where
  capture : Bool
  const : Bool

def traitBound (g : Rules) (bound : Reader Bound) (forms : BoundForms) (parenthesized : Bool) :
    Reader Bound := do
  let before ← binder? g bound
  -- `[const] Trait` and `const Trait` are kept as tokens
  let conditional ← sees (groupAt .bracket)
  let constant ← if conditional then
      let tokens ← inGroup .bracket (keepWord "const")
      pure (Token.brackets (Piece.tokensOf tokens))
    else if ← word? "const" then
      if forms.const then pure [Token.ident "const"]
      else failWith (.refused "`const` is not allowed here")
    else pure []
  let maybe ← sym? "?"
  -- a binder may stand on either side of the question mark, but not on both
  let after ← if before.isEmpty && maybe then binder? g bound else pure []
  let p ← path g bound false
  -- `Fn(A) -> B`
  let segments := (← withCallArgs? g p.segments).getD p.segments
  if constant.isEmpty then return .trait parenthesized maybe (before ++ after) p.rooted segments
  else
    let inner := (Bound.trait false maybe (before ++ after) p.rooted segments).tokens
    let tokens := constant ++ inner
    return .verbatim (if parenthesized then Token.parens tokens else tokens)

def captureBound : Reader Bound := do
  word "use"
  sym "<"
  let (names, trailing) ← separatedBy "," (symAt ">") do
    if ← sees lifetimeAt then return [Token.lifetime (← lifetime)]
    else if ← sees (wordAt "Self") then return [Token.ident (← anyWord)]
    else return [Token.ident (← ident)]
  sym ">"
  return .verbatim (.ident "use" :: Token.sym "<" ++
    Token.punctuated (Token.sym ",") names trailing ++ Token.sym ">")

/-- A bound whose binders hold no bounds of their own deeper than `depth`. -/
def boundUpTo (g : Rules) (forms : BoundForms) : (depth : Nat) → Reader Bound
  | 0 => giveUp
  | depth + 1 => do
    let inner := boundUpTo g ⟨false, true⟩ depth
    if ← sees lifetimeAt then return .lifetime (← lifetime)
    else if ← sees (wordAt "use") then
      -- only `impl` types capture
      if forms.capture then captureBound
      else failWith (.refused "`use<...>` precise capturing syntax is not allowed here")
    else if ← sees (groupAt .paren) then
      inGroup .paren (traitBound g inner forms true)
    else traitBound g inner forms false

def bound (g : Rules) (forms : BoundForms) : Reader Bound := fun c =>
  boundUpTo g forms (Tree.weightOf c.rest + 2) c

/-- The bounds of a type or associated type parameter. -/
def paramBound (g : Rules) : Reader Bound := bound g ⟨false, true⟩

def boundAt (forms : BoundForms) (ts : List Tree) : Bool :=
  anyWordAt ts || symAt "::" ts || symAt "?" ts || lifetimeAt ts || groupAt .paren ts ||
    (forms.const && groupAt .bracket ts)

def boundList (g : Rules) (plus : Bool) (forms : BoundForms) : Reader (List Bound × Bool) := do
  let first ← bound g forms
  if !plus then return ([first], false)
  -- a plus sign without a bound behind it is left for whoever asks for a trailing one
  let rest ← gather do
    if ← sees fun ts => symAt "+" ts && boundAt forms (ts.drop 1) then
      sym "+"
      return some (← bound g forms)
    else return none
  return (first :: rest, ← sym? "+")

def namesTrait : Bound → Bool
  | .trait .. => true
  | _ => false

def objectBounds (g : Rules) (plus : Bool) : Reader (List Bound × Bool) := do
  let (list, trailing) ← boundList g plus ⟨false, false⟩
  -- lifetimes alone make no type
  if list.any namesTrait then return (list, trailing)
  else failWith (.refused "at least one trait is required for an object type")

/-- The bounds of an anonymous type. -/
def implBounds (g : Rules) (plus : Bool) : Reader (List Bound × Bool) := do
  let (list, trailing) ← boundList g plus ⟨true, true⟩
  let counts : Bound → Bool
    | .trait .. => true
    | .lifetime _ => false
    | .verbatim tokens => tokens.head? != some (.ident "use")
  if list.any counts then return (list, trailing)
  else failWith (.refused "at least one trait must be specified")

/-- More bounds after a first one; a plus sign has to be followed by a bound. -/
def addedBounds (g : Rules) (first : Bound) : Reader Ty := do
  let rest ← gather do
    if ← sym? "+" then return some (← bound g ⟨false, false⟩) else return none
  return .bounds .bare (first :: rest) false

def fnParam (g : Rules) (first : Bool) : Reader FnParam := do
  let attributes ← keepAttributes g
  let selfAt (ts : List Tree) : Bool := first && wordAt "self" ts
  -- `mut self` without a type
  if ← sees fun ts => first && wordAt "mut" ts && wordAt "self" (ts.drop 1) then
    drop 2
    let tokens := Token.words ["mut", "self"]
    if ← sees colonAt then
      sym ":"
      let ty ← g.type true
      return .mk attributes none (.verbatim (tokens ++ Token.sym ":" ++ ty.tokens))
    else return .mk attributes none (.verbatim tokens)
  -- a name is told from a type by the colon behind it
  else if ← sees fun ts => (identAt ts || wordAt "_" ts || selfAt ts) && colonAt (ts.drop 1) then
    let name ← anyWord
    sym ":"
    return .mk attributes (some name) (← g.type true)
  else return .mk attributes none (← g.type true)

def variadic (g : Rules) : Reader (List Piece) := do
  let attributes ← keepAttributes g
  let name ← if ← sees (symAt "...") then pure []
    else do
      let n ← anyWord
      sym ":"
      pure (Piece.ofTokens (.ident n :: Token.sym ":"))
  let dots ← keepSym "..."
  return attributes ++ name ++ dots ++ (← keepSym? ",")

/-- Whether the `...` of a function pointer stands here, after its attributes. -/
def variadicAt (ts : List Tree) : Bool :=
  -- `...` alone, or with a name in front
  symAt "..." ts ||
    ((identAt ts || wordAt "_" ts) && symAt ":" (ts.drop 1) && symAt "..." (ts.drop 2))

/-- The trees after the attributes that stand here. -/
def afterAttributes : List Tree → List Tree
  | .leaf (.punct '#' _) _ :: .group .bracket _ _ _ :: ts => afterAttributes ts
  | ts => ts

/-- The parameters of a function pointer up to its `...`, and whether a comma follows them. A
receiver may only come first. -/
def fnParams (g : Rules) : Reader (List FnParam × Bool) := do
  let stop (ts : List Tree) : Bool := ts.isEmpty || variadicAt (afterAttributes ts)
  if ← sees stop then return ([], false)
  let first ← fnParam g true
  if ← sym? "," then
    let (rest, trailing) ← separatedBy "," stop (fnParam g false)
    return (first :: rest, rest.isEmpty || trailing)
  else return ([first], false)

def fnPointer (g : Rules) (lifetimes : List Piece) : Reader Ty := do
  let isUnsafe ← keepWord? "unsafe"
  let abi ← if ← word? "extern" then
      let name ← if ← sees isString then Piece.ofTokens <$> anyTree else pure []
      pure (.token (.ident "extern") :: name)
    else pure []
  word "fn"
  let ((params, trailing), dots) ← inGroup .paren do
    let entries ← fnParams g
    -- the dots come first or behind a comma
    let mayHaveDots := entries.1.isEmpty || entries.2
    let dots ← if ← sees fun ts => !ts.isEmpty && mayHaveDots then variadic g else pure []
    if ← atEnd then return (entries, dots)
    else if dots.isEmpty then expected "`,`" else return (entries, dots)
  let output ← if ← sym? "->" then some <$> g.type false else pure none
  return .function lifetimes (Piece.tokensOf (isUnsafe ++ abi)) params trailing dots output
where
  /-- Whether a string literal stands here. -/
  isString : List Tree → Bool
    | .leaf (.literal text) _ :: _ => text.startsWith "\"" || text.startsWith "r"
    | _ => false

/-- What parentheses around a type turn into when bounds are added to it. -/
def asParenthesizedBound : Ty → Option Bound
  | .path rooted segments => some (.trait true false [] rooted segments)
  | .bounds .bare [.trait _ maybe lifetimes rooted segments] false =>
    some (.trait true maybe lifetimes rooted segments)
  | .bounds .bare [other] false => some other
  | _ => none

/-- What parentheses hold at the place of a type. -/
inductive Parenthesized where
  | tuple (elements : List Ty) (trailing : Bool)
  | relaxed (bound : Bound)
  | single (inner : Ty)

def parenthesized (g : Rules) : Reader Parenthesized := do
  if ← atEnd then return .tuple [] false
  else if ← sees lifetimeAt then
    let (list, trailing) ← objectBounds g true
    return .single (.bounds .bare list trailing)
  else if ← sees (symAt "?") then
    return .relaxed (← traitBound g (paramBound g) ⟨false, false⟩ true)
  else
    -- one type without a comma is that type in parentheses
    let first ← g.type true
    if ← sym? "," then
      let (rest, trailing) ← commaList (g.type true)
      return .tuple (first :: rest) (rest.isEmpty || trailing)
    else return .single first

/-- A type that opens with a path, after its binder. -/
def pathLikeType (g : Rules) (plus : Bool) (lifetimes : List Piece) : Reader Ty := do
  let ty ← qualifiedPath g (paramBound g) false
  match ty with
  | .path rooted segments =>
    let segments ← withCalls g (paramBound g) segments
    -- a macro in place of a type is kept as tokens
    if ← sees fun ts => symAt "!" ts && !symAt "!=" ts && segments.all Segment.isPlain then
      sym "!"
      let body ← keepAnyGroup
      return .verbatim ((Path.mk rooted segments).tokens ++ Token.sym "!" ++ Piece.tokensOf body)
    else if !lifetimes.isEmpty || (plus && (← sees (symAt "+"))) then
      -- with a binder or a plus sign the path is a bound and no type of its own
      let first := Bound.trait false false lifetimes rooted segments
      if !plus then return .bounds .bare [first] false
      let rest ← gather do
        if ← sees fun ts => symAt "+" ts && boundAt ⟨false, false⟩ (ts.drop 1) then
          sym "+"
          return some (← bound g ⟨false, false⟩)
        else return none
      return .bounds .bare (first :: rest) (← sym? "+")
    else return .path rooted segments
  | .qualified self rooted trait rest =>
    return .qualified self rooted trait (← withCalls g (paramBound g) rest)
  | other => return other

def typeOpenings : String :=
  "one of: `for`, parentheses, `fn`, `unsafe`, `extern`, identifier, `::`, `<`, `dyn`, " ++
    "square brackets, `*`, `&`, `!`, `impl`, `_`, lifetime"

def pathWords : List String := ["super", "self", "Self", "crate"]

/-- A type; `plus` says whether bounds may be added with `+`. -/
def type (g : Rules) (plus : Bool) : Reader Ty := do
  let lifetimes ← binder? g (paramBound g)
  if !lifetimes.isEmpty &&
      !(← sees fun ts => identAt ts || wordIn (["fn", "unsafe", "extern"] ++ pathWords) ts) then
    expected "one of: identifier, `fn`, `unsafe`, `extern`"
  else if ← sees (groupAt .paren) then
    -- parentheses hold a tuple, a type, or the first of some bounds
    match ← inGroup .paren (parenthesized g) with
    | .tuple elements trailing => return .tuple elements trailing
    | .relaxed first => addedBounds g first
    | .single inner =>
      if plus && (← sees (symAt "+")) then
        match asParenthesizedBound inner with
        | some first => addedBounds g first
        | none => return .paren inner
      else return .paren inner
  else if ← sees (wordIn ["fn", "unsafe", "extern"]) then fnPointer g lifetimes
  else if ← sees fun ts => identAt ts || wordIn pathWords ts || symAt "::" ts || symAt "<" ts then
    pathLikeType g plus lifetimes
  else if ← word? "dyn" then
    -- `dyn* Trait` is kept as tokens
    let star ← sym? "*"
    let (list, trailing) ← objectBounds g plus
    if star then
      return .verbatim (.ident "dyn" :: Token.sym "*" ++ (Ty.bounds .bare list trailing).tokens)
    else return .bounds .dynamic list trailing
  else if ← sees (groupAt .bracket) then
    inGroup .bracket do
      let element ← g.type true
      if ← sym? ";" then return .array element (← g.expr true).pieces
      else return .slice element
  else if ← sym? "*" then
    if ← word? "const" then return .pointer false (← g.type false)
    else
      -- a pointer always says which of the two it is
      word "mut"
      return .pointer true (← g.type false)
  else if ← sym? "&" then
    let region ← if ← sees lifetimeAt then some <$> lifetime else pure none
    let mutable ← word? "mut"
    return .reference region mutable (← g.type false)
  else if ← sym? "!" then return .never
  else if ← word? "impl" then
    let (list, trailing) ← implBounds g plus
    return .bounds .impl list trailing
  else if ← word? "_" then return .inferred
  else if ← sees lifetimeAt then
    let (list, trailing) ← objectBounds g true
    return .bounds .bare list trailing
  else expected typeOpenings

end Specimen.Grammar
