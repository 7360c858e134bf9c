import Specimen.Code.Type
import Specimen.Token.Tree

/-!
# Reading token trees

A reader takes trees from the front of a run. The inside of a group is a run of its own: what is
left over there is noted and makes the whole text unreadable, but only after everything else has
been read. A run that ends too early is reported at the bracket that closes it.
-/

namespace Specimen

/-- Why a run of trees could not be read. -/
inductive FaultCause where
  | expected (what : String)
  | nestedAttribute
  /-- Trees that nothing takes, in the brackets of a group or at the end of the text. -/
  | leftover (inside : Option Delimiter)
  | refused (reason : String)
deriving DecidableEq, Repr

/-- A complaint about a run of trees: its cause, whether the run had ended, and the place. -/
structure Fault where
  cause : FaultCause
  atEnd : Bool
  span : Span
deriving DecidableEq, Repr

namespace Fault

def causeMessage : FaultCause → String
  | .expected what => "expected " ++ what
  | .nestedAttribute => "unexpected attribute inside of attribute"
  | .leftover none => "unexpected token"
  | .leftover (some d) => "unexpected token, expected `" ++ d.closer.toString ++ "`"
  | .refused reason => reason

def message (f : Fault) : String :=
  if f.atEnd then "unexpected end of input, " ++ causeMessage f.cause else causeMessage f.cause

end Fault

/-- What is left to read: the trees, where the run ends, and the complaint about the first tree that
was left over in a group read before. -/
structure Cursor where
  rest : List Tree
  stop : Span
  leftover : Option Fault

/-- A reader of trees. -/
abbrev Reader := StateT Cursor (Except Fault)

namespace Reader

variable {α β : Type}

/-! ## Looking ahead -/

/-- Whether a symbol stands at the front of a run. Its last mark may be joined to what follows. -/
def marksAt : List Char → List Tree → Bool
  | [], _ => true
  -- the last mark may be joined to another symbol: `>` stands in `>>`
  | [c], .leaf (.punct d _) _ :: _ => c == d
  | c :: cs, .leaf (.punct d true) _ :: ts => c == d && marksAt cs ts
  | _, _ => false

def symAt (s : String) (ts : List Tree) : Bool := marksAt s.toList ts

def wordAt (w : String) : List Tree → Bool
  | .leaf (.ident n) _ :: _ => n = w
  | _ => false

def wordIn (ws : List String) (ts : List Tree) : Bool := ws.any (wordAt · ts)

def reserved : List String :=
  ["_", "abstract", "as", "async", "await", "become", "box", "break", "const", "continue",
   "crate", "do", "dyn", "else", "enum", "extern", "false", "final", "fn", "for", "if", "impl",
   "in", "let", "loop", "macro", "match", "mod", "move", "mut", "override", "priv", "pub", "ref",
   "return", "Self", "self", "static", "struct", "super", "trait", "true", "try", "type",
   "typeof", "unsafe", "unsized", "use", "virtual", "where", "while", "yield"]

def anyWordAt : List Tree → Bool
  | .leaf (.ident _) _ :: _ => true
  | _ => false

def identAt : List Tree → Bool
  | .leaf (.ident n) _ :: _ => !reserved.contains n
  | _ => false

def lifetimeAt : List Tree → Bool
  | .leaf (.lifetime _) _ :: _ => true
  | _ => false

def isNumber (text : String) : Bool := text.toList.head?.any Char.isDigit

/-- Whether a literal stands at the front of a run; truth values and signed numbers are literals
too. -/
def literalAt : List Tree → Bool
  | .leaf (.literal _) _ :: _ => true
  | .leaf (.punct '-' _) _ :: .leaf (.literal text) _ :: _ => isNumber text
  -- truth values are words to the lexer
  | ts => wordIn ["true", "false"] ts

def groupAt (d : Delimiter) : List Tree → Bool
  | .group e _ _ _ :: _ => d = e
  | _ => false

def anyGroupAt : List Tree → Bool
  | .group .. :: _ => true
  | _ => false

def ahead : Reader (List Tree) := return (← get).rest

def sees (test : List Tree → Bool) : Reader Bool := return test (← ahead)

def atEnd : Reader Bool := sees List.isEmpty

/-! ## Taking trees -/

def failWith (cause : FaultCause) : Reader α := fun c =>
  match c.rest with
  -- the run has ended, so the complaint is about its closing bracket
  | [] => .error ⟨cause, true, c.stop⟩
  | t :: _ => .error ⟨cause, false, t.headSpan⟩

def expected (what : String) : Reader α := failWith (.expected what)

/-- Gives up, where rules are not unfolded any further. -/
def giveUp : Reader α := failWith (.leftover none)

/-- Complains that a symbol was expected here. The end of the run is not mentioned. -/
def expectedSym (s : String) : Reader α := fun c =>
  .error ⟨.expected s!"`{s}`", false, (c.rest.head?.map Tree.headSpan).getD c.stop⟩

/-- The complaint about the first tree that is left over, if one is. -/
def leftoverIn (inside : Option Delimiter) (ts : List Tree) : Option Fault :=
  ts.head?.map fun t => ⟨.leftover inside, false, t.headSpan⟩

def drop (n : Nat) : Reader Unit := modify fun c => { c with rest := c.rest.drop n }

def sym (s : String) : Reader Unit := do
  if ← sees (symAt s) then drop s.length else expectedSym s

/-- Takes a symbol if it is there, and says whether it was. -/
def sym? (s : String) : Reader Bool := do
  if ← sees (symAt s) then drop s.length; return true else return false

def word (w : String) : Reader Unit := do
  if ← sees (wordAt w) then drop 1 else expected s!"`{w}`"

def word? (w : String) : Reader Bool := do
  if ← sees (wordAt w) then drop 1; return true else return false

def anyWord : Reader String := do
  match ← ahead with
  | .leaf (.ident n) _ :: _ => drop 1; return n
  | _ => expected "identifier"

def ident : Reader String := do
  match ← ahead with
  | .leaf (.ident n) _ :: _ =>
    if reserved.contains n then expected s!"identifier, found keyword `{n}`" else anyWord
  | _ => expected "identifier"

def lifetime : Reader String := do
  match ← ahead with
  | .leaf (.lifetime n) _ :: _ => drop 1; return n
  | _ => expected "lifetime"

def literal : Reader (List Token) := do
  match ← ahead with
  | .leaf (.literal text) _ :: _ => drop 1; return [.literal text]
  | .leaf (.punct '-' _) _ :: .leaf (.literal text) _ :: _ =>
    if isNumber text then drop 2; return [.punct '-' false, .literal text] else expected "literal"
  | ts => if wordIn ["true", "false"] ts then return [.ident (← anyWord)] else expected "literal"

def anyTree : Reader (List Token) := do
  match ← ahead with
  | t :: _ => drop 1; return t.tokens
  | [] => expected "token"

def bracketsName : Delimiter → String
  | .paren => "parentheses"
  | .bracket => "square brackets"
  | .brace => "curly braces"

/-- Reads the inside of a group. -/
def inGroup (d : Delimiter) (p : Reader α) : Reader α := fun c =>
  match c.rest with
  | .group e body _ stop :: after =>
    if d = e then
      match p ⟨body, stop, c.leftover⟩ with
      | .error f => .error f
      | .ok (a, inner) =>
        -- the first group with something left over is the one that is complained about
        .ok (a, ⟨after, c.stop, inner.leftover <|> leftoverIn (some d) inner.rest⟩)
    else expected (bracketsName d) c
  | _ => expected (bracketsName d) c

/-! ## Repetition -/

/-- Takes items until there are no more, at most `fuel` of them. -/
def gatherUpTo (item? : Reader (Option α)) : Nat → Reader (List α)
  | 0 => return []
  | fuel + 1 => do
    match ← item? with
    | none => return []
    | some a => return a :: (← gatherUpTo item? fuel)

/-- Takes items until there are no more. Every item takes a tree, so there are at most as many as
trees. -/
def gather (item? : Reader (Option α)) : Reader (List α) := do
  gatherUpTo item? ((← ahead).length + 1)

/-- Extends a value until there is nothing to extend it with, at most `fuel` times. -/
def extendUpTo (step? : α → Reader (Option α)) : Nat → α → Reader α
  | 0, a => return a
  | fuel + 1, a => do
    match ← step? a with
    | none => return a
    | some b => extendUpTo step? fuel b

/-- Extends a value until there is nothing to extend it with. Every extension takes a tree. -/
def extend (step? : α → Reader (Option α)) (a : α) : Reader α := do
  extendUpTo step? ((← ahead).length + 1) a

/-- Takes items with a separator between them, and says whether one follows the last item. No item
is taken where `stop` holds. -/
def separatedBy (separator : String) (stop : List Tree → Bool) (item : Reader α) :
    Reader (List α × Bool) := do
  let entry? : Reader (Option (α × Bool)) := do
    if ← sees stop then return none
    let a ← item
    return some (a, ← sym? separator)
  let rec collect : Nat → Reader (List (α × Bool))
    | 0 => return []
    | fuel + 1 => do
      match ← entry? with
      | none => return []
      | some (a, true) => return (a, true) :: (← collect fuel)
      -- without a separator the list ends
      | some (a, false) => return [(a, false)]
  let entries ← collect ((← ahead).length + 1)
  return (entries.map (·.1), entries.getLast?.any (·.2))

/-- Takes comma-separated items up to the end of the run, and says whether a comma follows the last
item. -/
def commaList (item : Reader α) : Reader (List α × Bool) := do
  let (items, trailing) ← separatedBy "," List.isEmpty item
  if ← atEnd then return (items, trailing) else expectedSym ","

/-- The trees that a reader takes, with its result. -/
def taken (p : Reader α) : Reader (α × List Tree) := do
  let before ← ahead
  let a ← p
  let after ← ahead
  return (a, before.take (before.length - after.length))

def located (p : Reader α) : Reader (α × Span) := do
  let (a, trees) ← taken p
  return (a, Tree.spanOf trees)

/-! ## Code that is kept as it is written -/

def keepSym (s : String) : Reader (List Piece) := do
  sym s
  return Piece.ofTokens (Token.sym s)

def keepSym? (s : String) : Reader (List Piece) := do
  return if ← sym? s then Piece.ofTokens (Token.sym s) else []

def keepWord (w : String) : Reader (List Piece) := do
  word w
  return [.token (.ident w)]

def keepWord? (w : String) : Reader (List Piece) := do
  return if ← word? w then [.token (.ident w)] else []

/-- Takes a group and keeps it, its inside read by `p`. -/
def keepGroup (d : Delimiter) (p : Reader (List Piece)) : Reader (List Piece) := do
  let body ← inGroup d p
  return .token (.opening d) :: body ++ [.token (.closing d)]

def keepAnyGroup : Reader (List Piece) := do
  if ← sees anyGroupAt then return Piece.ofTokens (← anyTree)
  else expected "one of: parentheses, curly braces, square brackets"

/-- Takes comma-separated pieces up to the end of the run and keeps them. -/
def keepCommaList (item : Reader (List Piece)) : Reader (List Piece) := do
  let (items, trailing) ← commaList item
  return Piece.punctuated "," items trailing

/-! ## Whole texts -/

def runAll (p : Reader α) (trees : List Tree) : Except Fault α :=
  match p ⟨trees, .nowhere, none⟩ with
  | .error f => .error f
  | .ok (a, c) =>
    -- what a group had left over comes before what the whole has
    match c.leftover <|> leftoverIn none c.rest with
    | some f => .error f
    | none => .ok a

end Reader

end Specimen
