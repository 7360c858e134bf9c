import Specimen.Grammar.Pattern

/-!
# Expressions

Expressions stand in array lengths, constant arguments, discriminants and attribute values. Only
their form and the types inside them matter, so an expression is kept as pieces of code; types are
told apart where an expression names one as a type, not where a path expression starts with it.
-/

namespace Specimen.Grammar

open Reader

/-! ## Precedence -/

def assignPrecedence : Nat := 1

def rangePrecedence : Nat := 2

def comparePrecedence : Nat := 5

def castPrecedence : Nat := 12

/-- The binary operators with their precedence, longer spellings before their beginnings. -/
def binaryOperators : List (String × Nat) :=
  -- `<<=` would be read as `<<` if that came first
  [("<<=", 1), (">>=", 1), ("+=", 1), ("-=", 1), ("*=", 1), ("/=", 1), ("%=", 1), ("^=", 1),
   ("&=", 1), ("|=", 1), ("&&", 4), ("||", 3), ("<<", 9), (">>", 9), ("==", 5), ("<=", 5),
   ("!=", 5), (">=", 5), ("+", 10), ("-", 10), ("*", 11), ("/", 11), ("%", 11), ("^", 7),
   ("&", 8), ("|", 6), ("<", 5), (">", 5)]

def binaryAt? (ts : List Tree) : Option (String × Nat) :=
  binaryOperators.find? fun (s, _) => symAt s ts

/-- The precedence of the operator that stands here, zero if there is none. -/
def precedenceAt (ts : List Tree) : Nat :=
  match binaryAt? ts with
  | some (_, p) => p
  | none =>
    -- an arrow belongs to the arm around the expression
    if symAt "=" ts && !symAt "=>" ts then assignPrecedence
    else if symAt ".." ts then rangePrecedence
    else if wordAt "as" ts then castPrecedence
    else 0

/-! ## Parts -/

/-- An expression of a named form. -/
def formed (name : String) (ps : List Piece) (block : Bool) : Expr := ⟨.other name block, ps⟩

def beginsExpr (ts : List Tree) : Bool :=
  -- `as` follows an operand and opens none
  (anyWordAt ts && !wordAt "as" ts) || anyGroupAt ts || literalAt ts || lifetimeAt ts ||
    (symAt "!" ts && !symAt "!=" ts) || (symAt "-" ts && !symAt "-=" ts && !symAt "->" ts) ||
    (symAt "*" ts && !symAt "*=" ts) || (symAt "|" ts && !symAt "|=" ts) ||
    (symAt "&" ts && !symAt "&=" ts) || symAt ".." ts ||
    (symAt "<" ts && !symAt "<=" ts && !symAt "<<=" ts) || symAt "::" ts || symAt "#" ts

def rightSide (g : Rules) (braces : Bool) (precedence : Nat) : Reader Expr := do
  let first ← g.operand braces
  extend (fun rhs => do
    let next ← precedenceAt <$> ahead
    -- only assignments are taken from the right; all other operators are taken from the left
    if precedence < next || (next = precedence && precedence = assignPrecedence) then
      let before := (← ahead).length
      let rhs' ← g.operators braces next rhs
      -- an operator that nothing was taken for would be tried for ever
      if (← ahead).length = before then return none else return some rhs'
    else return none) first

/-- The symbols after which a range has no upper end. -/
def closesRange (braces : Bool) (ts : List Tree) : Bool :=
  ts.isEmpty || symIn [",", ";", "?", "=>", "=", "+", "/", "%", "^", ">", "<=", "!=", "-=", "*=",
    "&=", "|=", "<<="] ts || (symAt "." ts && !symAt ".." ts) || wordAt "as" ts ||
    (!braces && groupAt .brace ts)

def rangeRest (g : Rules) (braces : Bool) : Reader (List Piece) := do
  if ← sees (symAt "..=") then
    return (← keepSym "..=") ++ (← rightSide g braces rangePrecedence).pieces
  -- the old spelling of an inclusive range
  else if ← sees (symAt "...") then expected "`..` or `..=`"
  else
    let dots ← keepSym ".."
    if ← sees (closesRange braces) then return dots
    else return dots ++ (← rightSide g braces rangePrecedence).pieces

/-- A cast takes no method, field, index or call after it. -/
def checkCast : Reader Unit := do
  if ← sees fun ts => (symAt "." ts && !symAt ".." ts) || symAt "?" ts || groupAt .bracket ts ||
      groupAt .paren ts then
    failWith (.refused "casts cannot be followed by an access")

/-! ## Operators -/

def operators (g : Rules) (braces : Bool) (least : Nat) : Expr → Reader Expr :=
  extend fun lhs => do
    match lhs.shape with
    -- a range takes no operator, so that `a..b + c` has the sum as its end
    | .range => return none
    | _ =>
      match binaryAt? (← ahead) with
      | some (op, precedence) =>
        if precedence < least then return none
        else
          let comparison := precedence == comparePrecedence
          match lhs.shape, comparison with
          -- `a < b < c` is turned down and not read from the left
          | .binary true, true => failWith (.refused "comparison operators cannot be chained")
          | _, _ =>
            let op ← keepSym op
            let rhs ← rightSide g braces precedence
            return some ⟨.binary comparison, lhs.pieces ++ op ++ rhs.pieces⟩
      | none =>
        if least ≤ assignPrecedence && (← sees fun ts => symAt "=" ts && !symAt "=>" ts) then
          let op ← keepSym "="
          let rhs ← rightSide g braces assignPrecedence
          return some (formed "assign" (lhs.pieces ++ op ++ rhs.pieces) false)
        else if least ≤ rangePrecedence && (← sees (symAt "..")) then
          return some ⟨.range, lhs.pieces ++ (← rangeRest g braces)⟩
        else if least ≤ castPrecedence && (← sees (wordAt "as")) then
          let op ← keepWord "as"
          -- `x as T + y` is a sum, so the type takes no bounds
          let ty ← g.type false
          checkCast
          return some (formed "cast" (lhs.pieces ++ op ++ [.type ty]) false)
        else return none

def expr (g : Rules) (braces : Bool) : Reader Expr := do
  operators g braces 0 (← g.operand braces)

/-! ## Operands -/

def pathOperand (g : Rules) (braces : Bool) : Reader Expr := do
  let ty ← qualifiedPath g (paramBound g) true
  let (p, plain, keep) : Path × Bool × List Piece := match ty with
    | .path rooted segments =>
      (⟨rooted, segments⟩, segments.all Segment.isPlain, Segment.pathPieces rooted segments)
    | .qualified self rooted trait rest =>
      (⟨rooted || trait.isEmpty, trait ++ rest⟩, false,
        Segment.qualifiedPieces self rooted trait rest)
    | other => (⟨false, []⟩, false, [.type other])
  -- a macro is called by a path of bare names; `a != b` compares
  if plain && (← sees fun ts => symAt "!" ts && !symAt "!=" ts) then
    let braced ← sees fun ts => groupAt .brace (ts.drop 1)
    return ⟨.macroCall braced, keep ++ (← keepSym "!") ++ (← keepAnyGroup)⟩
  -- in a condition the brace opens the block and no literal
  else if braces && (← sees (groupAt .brace)) then
    let body ← keepGroup .brace structFields
    return formed "struct" (keep ++ body) false
  else return ⟨.path p, keep⟩
where
  /-- The fields of a struct literal. -/
  structFields : Reader (List Piece) := do
    let (fields, trailing) ← separatedBy "," (fun ts => ts.isEmpty || symAt ".." ts) do
      let attributes ← keepAttributes g
      if ← sees fun ts => colonAt (ts.drop 1) then
        let member := attributes ++ Piece.ofTokens (← anyTree) ++ (← keepSym ":")
        return member ++ (← g.expr true).pieces
      else return attributes ++ [.token (.ident (← ident))]
    let base ← if ← sees (symAt "..") then
        let dots ← keepSym ".."
        if ← atEnd then pure dots else pure (dots ++ (← g.expr true).pieces)
      else pure []
    return Piece.punctuated "," fields trailing ++ base

def parenOperand (g : Rules) : Reader Expr := do
  if ← sees fun
      | .group .paren [] _ _ :: _ => true
      | _ => false then
    return formed "tuple" (Piece.ofTokens (← anyTree)) false
  -- one expression without a comma is that expression in parentheses
  let (single, body) ← inGroup .paren do
    let first := (← g.expr true).pieces
    if ← atEnd then return (true, first)
    else
      let comma ← keepSym ","
      return (false, first ++ comma ++ (← keepCommaList (Expr.pieces <$> g.expr true)))
  return formed (if single then "paren" else "tuple")
    (.token (.opening .paren) :: body ++ [.token (.closing .paren)]) false

/-- An array, given by its elements or by one element and a length. -/
def arrayOperand (g : Rules) : Reader Expr := do
  let (name, body) ← inGroup .bracket do
    if ← atEnd then return ("array", [])
    let first := (← g.expr true).pieces
    if ← sees (symAt ";") then
      let semi ← keepSym ";"
      return ("repeat", first ++ semi ++ (← g.expr true).pieces)
    else if ← atEnd then return ("array", first)
    else if ← sees (symAt ",") then
      let comma ← keepSym ","
      return ("array", first ++ comma ++ (← keepCommaList (Expr.pieces <$> g.expr true)))
    else expected "`,` or `;`"
  return formed name (.token (.opening .bracket) :: body ++ [.token (.closing .bracket)]) false

def closureOperand (g : Rules) (braces : Bool) : Reader Expr := do
  let lifetimes ← binder? g (paramBound g)
  let constant ← keepWord? "const"
  let still ← keepWord? "static"
  let async ← keepWord? "async"
  let move ← keepWord? "move"
  let opening ← keepSym "|"
  let (inputs, trailing) ← separatedBy "," (symAt "|") do
    let attributes ← keepAttributes g
    let p ← g.pattern
    if ← sees colonAt then
      let colon ← keepSym ":"
      return attributes ++ p ++ colon ++ [.type (← g.type true)]
    else return attributes ++ p
  let closing ← keepSym "|"
  let head := lifetimes ++ constant ++ still ++ async ++ move ++ opening ++
    Piece.punctuated "," inputs trailing ++ closing
  -- with a result type the body has to be a block
  if ← sees (symAt "->") then
    let arrow ← keepSym "->"
    let ty ← g.type false
    return formed "closure" (head ++ arrow ++ .type ty :: (← g.block)) false
  else return formed "closure" (head ++ (← g.expr braces).pieces) false

def ifBranches (g : Rules) : (fuel : Nat) → Reader (List Piece)
  | 0 => giveUp
  | fuel + 1 => do
    let head ← keepWord "if"
    let condition := (← g.expr false).pieces
    let body ← g.block
    if ← sees (wordAt "else") then
      let before := head ++ condition ++ body ++ (← keepWord "else")
      if ← sees (wordAt "if") then return before ++ (← ifBranches g fuel)
      -- the chain ends here
      else if ← sees (groupAt .brace) then return before ++ (← g.block)
      else expected "`if` or curly braces"
    else return head ++ condition ++ body

def forLoop (g : Rules) : Reader (List Piece) := do
  let head ← keepWord "for"
  let p ← patternAlternatives g
  let inside ← keepWord "in"
  let source := (← g.expr false).pieces
  return head ++ p ++ inside ++ source ++ (← g.block)

def matchArms (g : Rules) : Reader (List Piece) := do
  let head ← keepWord "match"
  let subject := (← g.expr false).pieces
  let arms ← keepGroup .brace do
    let list ← gather do
      if ← atEnd then return none
      let attributes ← keepAttributes g
      let p ← patternAlternatives g
      let guard ← if ← sees (wordAt "if") then
          pure ((← keepWord "if") ++ (← g.expr true).pieces)
        else pure []
      let arrow ← keepSym "=>"
      let body ← g.statement
      let blockLike := match body.shape with
        | .other _ block => block
        | _ => false
      -- a body that ends with a block needs no comma behind it
      let comma ← if blockLike || (← atEnd) then keepSym? "," else keepSym ","
      return some (attributes ++ p ++ guard ++ arrow ++ body.pieces ++ comma)
    return list.flatten
  return head ++ subject ++ arms

def blockOperand? (g : Rules) : Reader (Option Expr) := do
  let ts ← ahead
  if wordAt "if" ts then
    return some (formed "if" (← ifBranches g (ts.length + 1)) true)
  else if wordAt "while" ts then
    let head ← keepWord "while"
    let condition := (← g.expr false).pieces
    return some (formed "while" (head ++ condition ++ (← g.block)) true)
  -- `for<'a> |x| ..` is a closure
  else if wordAt "for" ts && !(symAt "<" (ts.drop 1)) then
    return some (formed "for_loop" (← forLoop g) true)
  else if wordAt "loop" ts then
    return some (formed "loop" ((← keepWord "loop") ++ (← g.block)) true)
  else if wordAt "match" ts then
    return some (formed "match" (← matchArms g) true)
  else if wordAt "unsafe" ts then
    return some (formed "unsafe" ((← keepWord "unsafe") ++ (← g.block)) true)
  -- `const { .. }` is a block, and otherwise `const` opens a closure
  else if wordAt "const" ts && groupAt .brace (ts.drop 1) then
    return some (formed "const" ((← keepWord "const") ++ (← g.block)) true)
  else if wordAt "try" ts && groupAt .brace (ts.drop 1) then
    return some (formed "try_block" ((← keepWord "try") ++ (← g.block)) true)
  else if groupAt .brace ts then return some (formed "block" (← g.block) true)
  else return none

def closureAt (ts : List Tree) : Bool :=
  symAt "|" ts || wordIn ["move", "static"] ts ||
    (wordAt "for" ts && symAt "<" (ts.drop 1)) ||
    (wordAt "const" ts && !groupAt .brace (ts.drop 1)) ||
    (wordAt "async" ts && (symAt "|" (ts.drop 1) || wordAt "move" (ts.drop 1)))

/-- An optional value after `break` or `return`. -/
def optionalValue (g : Rules) (braces : Bool) : Reader (List Piece) := do
  if ← sees fun ts => beginsExpr ts && (braces || !groupAt .brace ts) then
    return (← g.expr braces).pieces
  else return []

/-- An operand without the accesses and calls after it. -/
def atom (g : Rules) (braces : Bool) : Reader Expr := do
  let ts ← ahead
  if literalAt ts then
    let tokens ← literal
    return ⟨.literal tokens, Piece.ofTokens tokens⟩
  else if wordAt "async" ts &&
      (groupAt .brace (ts.drop 1) ||
        (wordAt "move" (ts.drop 1) && groupAt .brace (ts.drop 2))) then
    return formed "async" ((← keepWord "async") ++ (← keepWord? "move") ++ (← g.block)) false
  -- before the blocks, since some closures open with a word that a block may open with
  else if closureAt ts then closureOperand g braces
  else
    match ← blockOperand? g with
    | some e => return e
    | none =>
      if identAt ts || symAt "::" ts || symAt "<" ts || wordIn pathWords ts ||
          (wordAt "try" ts && (symAt "!" (ts.drop 1) || symAt "::" (ts.drop 1))) then
        pathOperand g braces
      else if groupAt .paren ts then parenOperand g
      else if groupAt .bracket ts then arrayOperand g
      else if wordAt "break" ts then
        let head ← keepWord "break"
        let label ← if ← sees lifetimeAt then Piece.ofTokens <$> anyTree else pure []
        return formed "break" (head ++ label ++ (← optionalValue g braces)) false
      else if wordAt "continue" ts then
        let head ← keepWord "continue"
        let label ← if ← sees lifetimeAt then Piece.ofTokens <$> anyTree else pure []
        return formed "continue" (head ++ label) false
      else if wordAt "return" ts then
        return formed "return" ((← keepWord "return") ++ (← optionalValue g true)) false
      else if wordAt "yield" ts then
        return formed "yield" ((← keepWord "yield") ++ (← optionalValue g true)) false
      else if wordAt "let" ts then
        let head ← keepWord "let"
        let p ← patternAlternatives g
        let eq ← keepSym "="
        -- `let p = a && b` is a conjunction of which only the first part is matched
        let value ← g.operators braces comparePrecedence (← g.operand braces)
        return formed "let" (head ++ p ++ eq ++ value.pieces) false
      else if symAt ".." ts then return ⟨.range, ← rangeRest g braces⟩
      else if wordAt "_" ts then return formed "infer" (← keepWord "_") false
      else if wordAt "become" ts then
        -- kept as bare tokens, in which no types are told apart
        let code := (← keepWord "become") ++ (← g.expr true).pieces
        return formed "verbatim" (Piece.ofTokens (Piece.tokensOf code)) false
      else if lifetimeAt ts then
        let label := Piece.ofTokens (← anyTree) ++ (← keepSym ":")
        let bodyAt (ts : List Tree) : Bool :=
          wordIn ["while", "for", "loop"] ts || groupAt .brace ts
        let body ← if ← sees bodyAt then blockOperand? g else pure none
        match body with
        | some e => return ⟨e.shape, label ++ e.pieces⟩
        | none => expected "loop or block expression"
      else expected "an expression"

def callPieces (g : Rules) : Reader (List Piece) :=
  keepGroup .paren (keepCommaList (Expr.pieces <$> g.expr true))

/-- The number that digits with gaps spell. -/
def plainNumber? (text : String) : Option Nat :=
  let digits := text.toList.filter (· ≠ '_')
  if digits.isEmpty || !digits.all Char.isDigit then none
  else some (digits.foldl (fun n c => 10 * n + (c.toNat - '0'.toNat)) 0)

/-- The components that a float after a dot stands for, and whether a dot ends it: `0.1` is two of
them. -/
def components? (text : String) : Option (List Nat × Bool) :=
  -- what the lexer takes for a float is two accesses here
  let parts := text.splitOn "."
  let endsInDot := parts.getLast? = some ""
  ((if endsInDot then parts.dropLast else parts).mapM plainNumber?).map (·, endsInDot)

def componentAt? : List Tree → Option Nat
  | .leaf (.literal text) _ :: _ => plainNumber? text
  | _ => none

/-- The member that follows a dot, with the arguments of a call if there are any. -/
def memberAccess (g : Rules) (owner : List Piece) : Reader Expr := do
  if ← sees (wordAt "await") then return formed "await" (owner ++ (← keepWord "await")) false
  -- the component of a tuple
  else if let some n := componentAt? (← ahead) then
    drop 1
    return formed "field" (owner ++ [.token (.literal (toString n))]) false
  else if ← sees identAt then
    let member := owner ++ [.token (.ident (← ident))]
    if ← sees (symAt "::") then
      sym "::"
      let args ← angledArgs g (paramBound g) "" true
      return formed "method_call" (member ++ args.argPieces ++ (← callPieces g)) false
    else if ← sees (groupAt .paren) then
      return formed "method_call" (member ++ (← callPieces g)) false
    else return formed "field" member false
  else expected "identifier or integer"

/-- What follows the dot after `owner`. -/
def access (g : Rules) (owner : List Piece) : Reader Expr := do
  match ← ahead with
  | .leaf (.literal text) _ :: _ =>
    if text.toList.contains '.' then
      match components? text with
      | none => expected "identifier or integer"
      | some (numbers, endsInDot) =>
        drop 1
        let path := Token.separated (Token.sym ".") (numbers.map fun n => [.literal (toString n)])
        let inner := owner ++ Piece.ofTokens path
        -- `x.0.y`: the dot behind the number is that of the next member
        if endsInDot then memberAccess g (inner ++ Piece.ofTokens (Token.sym "."))
        else return formed "field" inner false
    else memberAccess g owner
  | _ => memberAccess g owner

/-- What may follow an operand: a call, an index, an access or a question mark. -/
def trailer? (g : Rules) (e : Expr) : Reader (Option Expr) := do
  let ts ← ahead
  -- `..x.y` ends in an access, but none follows the range as a whole
  let isRange := match e.shape with
    | .range => true
    | _ => false
  if groupAt .paren ts then return some (formed "call" (e.pieces ++ (← callPieces g)) false)
  else if symAt "." ts && !symAt ".." ts && !isRange then
    let dot ← keepSym "."
    return some (← access g (e.pieces ++ dot))
  else if groupAt .bracket ts then
    return some (formed "index" (e.pieces ++ (← keepGroup .bracket (Expr.pieces <$> g.expr true)))
      false)
  else if symAt "?" ts && !isRange then
    return some (formed "try" (e.pieces ++ (← keepSym "?")) false)
  else return none

/-- An expression without binary operators at its top. -/
def operand (g : Rules) (braces : Bool) : Reader Expr := do
  let attributes ← keepAttributes g
  let e ← if ← sees (symAt "&") then
      let head ← keepSym "&"
      let raw ← if ← sees fun ts => wordAt "raw" ts && wordIn ["mut", "const"] (ts.drop 1) then
          pure ((← keepWord "raw") ++ Piece.ofTokens (← anyTree))
        else keepWord? "mut"
      let inner ← g.operand braces
      -- a raw reference has no form of its own
      pure (formed (if raw.length = 2 then "unknown" else "reference") (head ++ raw ++ inner.pieces)
        false)
    else if ← sees (symIn ["*", "!", "-"]) then
      let op := Piece.ofTokens (Token.marks [← mark])
      pure (formed "unary" (op ++ (← g.operand braces).pieces) false)
    else extend (trailer? g) (← atom g braces)
  return ⟨e.shape, attributes ++ e.pieces⟩
where
  /-- Takes a single punctuation mark. -/
  mark : Reader Char := do
    match ← ahead with
    | .leaf (.punct c _) _ :: _ => drop 1; return c
    | _ => expected "operator"

/-- An expression where a statement may stand: one that ends with a block ends there, unless an
access or a question mark follows. -/
def statementExpr (g : Rules) : Reader Expr := do
  match ← blockOperand? g with
  | some e =>
    if ← sees fun ts => (symAt "." ts && !symAt ".." ts) || symAt "?" ts then
      operators g true 0 (← extend (trailer? g) e)
    else return e
  | none => g.expr true

/-! ## Blocks -/

def itemAt (ts : List Tree) : Bool :=
  wordIn ["fn", "struct", "enum", "use", "type", "trait", "mod", "impl", "extern", "pub"] ts ||
    -- `const { .. }` and `static ||` are expressions
    (wordIn ["const", "static"] ts &&
      (identAt (ts.drop 1) || wordIn ["mut", "_", "fn"] (ts.drop 1))) ||
    (wordAt "union" ts && identAt (ts.drop 1)) ||
    (wordIn ["unsafe", "async"] ts && wordIn ["fn", "impl", "trait", "extern"] (ts.drop 1))

/-- An item inside of a block, kept as it is up to its end: a semicolon or a brace. -/
def itemPieces : Reader (List Piece) := do
  -- what stands in an item is none of an expression's business
  let parts ← gather do
    if (← atEnd) || (← sees (symAt ";")) || (← sees (groupAt .brace)) then return none
    else return some (Piece.ofTokens (← anyTree))
  if ← sees (symAt ";") then return parts.flatten ++ (← keepSym ";")
  else if ← sees (groupAt .brace) then return parts.flatten ++ Piece.ofTokens (← anyTree)
  else expected "`;`"

def letStatement (g : Rules) : Reader (List Piece) := do
  let head ← keepWord "let"
  let p ← patternAlternatives g
  let annotation ← if ← sees colonAt then
      let colon ← keepSym ":"
      pure (colon ++ [.type (← g.type true)])
    else pure []
  let value ← if ← sees (symAt "=") then
      let eq ← keepSym "="
      let e := (← g.expr true).pieces
      let other ← if ← sees (wordAt "else") then pure ((← keepWord "else") ++ (← g.block))
        else pure []
      pure (eq ++ e ++ other)
    else pure []
  return head ++ p ++ annotation ++ value ++ (← keepSym ";")

/-- A statement of a block. An expression that does not end with a block needs a semicolon, unless
it comes last. -/
def statement (g : Rules) : Reader (List Piece) := do
  if ← sees (symAt ";") then keepSym ";"
  else
    let attributes ← keepAttributes g
    if ← sees (wordAt "let") then return attributes ++ (← letStatement g)
    -- items come before expressions, as some open with the same words
    else if ← sees itemAt then return attributes ++ (← itemPieces)
    else
      let e ← statementExpr g
      let endsItself := match e.shape with
        | .other _ block => block
        | .macroCall braced => braced
        | _ => false
      -- a semicolon may follow in any case
      let semi ← keepSym? ";"
      if !semi.isEmpty || endsItself || (← atEnd) then return attributes ++ e.pieces ++ semi
      else failWith (.refused "unexpected token, expected `;`")

/-- Attributes at the start of a block, which belong to the block. -/
def keepInnerAttributes (g : Rules) : Reader (List Piece) := do
  let attributes ← gather do
    if ← sees fun ts => symAt "#" ts && symAt "!" (ts.drop 1) then
      let head := (← keepSym "#") ++ (← keepSym "!")
      return some (head ++ (← keepGroup .bracket ((·.2.2) <$> attributeContent g)))
    else return none
  return attributes.flatten

def block (g : Rules) : Reader (List Piece) :=
  keepGroup .brace do
    let attributes ← keepInnerAttributes g
    let statements ← gather do
      if ← atEnd then return none else return some (← statement g)
    return attributes ++ statements.flatten

/-! ## Tying the rules -/

/-- Every rule, with the rules it refers to. -/
def step (g : Rules) : Rules where
  type := type g
  expr := expr g
  operand := operand g
  operators := operators g
  statement := statementExpr g
  block := block g
  pattern := pattern g

/-- The rules, deep enough for a run of trees: no rule is entered twice at one place more than a few
times. -/
def rules (trees : List Tree) : Rules := Rules.unfold step (6 * Tree.weightOf trees + 16)

end Specimen.Grammar
