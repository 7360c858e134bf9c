import Specimen.Grammar.Reader

/-!
# The rules that refer to each other

Types contain expressions and expressions contain types. The recursive rules are handed to the
others as a record, so that each rule is defined on its own; tying the record to itself is a matter
of unfolding it often enough.
-/

namespace Specimen

/-- The form of an expression, as far as it matters where the expression stands. -/
inductive ExprShape where
  | literal (tokens : List Token)
  | path (path : Path)
  | range
  | binary (comparison : Bool)
  | macroCall (braced : Bool)
  /-- Any other form, by name; `block` marks the forms that end with a block. -/
  | other (name : String) (block : Bool)

/-- An expression as written. -/
structure Expr where
  shape : ExprShape
  pieces : List Piece

def ExprShape.name : ExprShape → String
  | literal _ => "lit"
  | path _ => "path"
  | range => "range"
  | binary _ => "binary"
  | macroCall _ => "macro"
  | other name _ => name

/-- The recursive rules. -/
structure Rules where
  /-- A type; `plus` says whether bounds may be added with `+`. -/
  type : (plus : Bool) → Reader Ty
  /-- An expression; `braces` says whether a brace may open a struct literal. -/
  expr : (braces : Bool) → Reader Expr
  /-- An expression without binary operators at its top. -/
  operand : (braces : Bool) → Reader Expr
  /-- The operators of at least a given precedence that follow an operand. -/
  operators : (braces : Bool) → (least : Nat) → Expr → Reader Expr
  /-- An expression where a statement may stand: if it ends with a block, it ends there, unless an
  access follows. -/
  statement : Reader Expr
  /-- A block in braces. -/
  block : Reader (List Piece)
  /-- A pattern without alternatives at its top. -/
  pattern : Reader (List Piece)

namespace Rules

/-- The rules that read nothing. -/
def none : Rules where
  type _ := Reader.giveUp
  expr _ := Reader.giveUp
  operand _ := Reader.giveUp
  operators _ _ _ := Reader.giveUp
  statement := Reader.giveUp
  block := Reader.giveUp
  pattern := Reader.giveUp

/-- The rules that unfold each other up to `depth` times. -/
def unfold (step : Rules → Rules) : (depth : Nat) → Rules
  | 0 => none
  | depth + 1 => step (unfold step depth)

end Rules

end Specimen
