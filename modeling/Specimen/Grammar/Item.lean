import Specimen.Code.Item
import Specimen.Grammar.Expr
import Specimen.Token.Lexer

/-!
# Type declarations

Generic parameter lists, where clauses, visibility modifiers, fields, variants and whole
declarations.
-/

namespace Specimen.Grammar

open Reader

/-! ## Generics -/

def paramList (g : Rules) : Reader (List GenericParam × Bool) := do
  if ← sees (symAt "<") then
    sym "<"
    let found ← separatedBy "," (symAt ">") (genericParam g (paramBound g))
    sym ">"
    return found
  else return ([], false)

def endsWhere (ts : List Tree) : Bool :=
  ts.isEmpty || groupAt .brace ts || symIn [",", ";", "="] ts || colonAt ts

def predicate (g : Rules) : Reader Predicate := do
  -- `'a: 'b`; other predicates are about types
  if ← sees fun ts => lifetimeAt ts && symAt ":" (ts.drop 1) then
    let name ← lifetime
    sym ":"
    let (list, trailing) ← lifetimeBounds fun ts =>
      ts.isEmpty || groupAt .brace ts || symIn [",", ";", ":", "="] ts
    return .lifetime name list trailing
  else
    let lifetimes ← binder? g (paramBound g)
    let bounded ← g.type true
    sym ":"
    let (list, trailing) ← separatedBy "+" endsWhere (paramBound g)
    return .type lifetimes bounded list trailing

/-- Whether generic parameters stand here, and not the bracket that opens a qualified path. -/
def paramsAt (ts : List Tree) : Bool :=
  let second := ts.drop 1
  let third := ts.drop 2
  -- `<T>` or `<T,` and so on; `<T as Trait>::Item: ..` opens a predicate
  symAt "<" ts &&
    (symAt ">" second || symAt "#" second || wordAt "const" second ||
      ((lifetimeAt second || identAt second) &&
        (symAt ">" third || symAt "," third || colonAt third || symAt "=" third)))

/-- A where clause. It has no parameters of its own. -/
def whereClause (g : Rules) : Reader WhereClause := do
  word "where"
  if ← sees paramsAt then
    failWith (.refused "generic parameters on `where` clauses are reserved for future use")
  let (predicates, trailing) ← separatedBy "," endsWhere (predicate g)
  return ⟨predicates, trailing⟩

def whereClause? (g : Rules) : Reader (Option WhereClause) := do
  if ← sees (wordAt "where") then some <$> whereClause g else return none

/-! ## Modifiers -/

/-- The restriction of `pub`: one of three keywords, or `in` and a path. Anything else in
parentheses belongs to what follows. -/
def restriction? : Reader (Option Modifier) := do
  match ← ahead with
  | .group .paren [.leaf (.ident w) _] _ _ :: _ =>
    -- the parentheses of a tuple struct hold other words
    if ["crate", "self", "super"].contains w then
      drop 1
      return some (.restricted false false [w])
    else if w = "in" then some <$> inGroup .paren explicitPath
    else return none
  | .group .paren (.leaf (.ident "in") _ :: _) _ _ :: _ => some <$> inGroup .paren explicitPath
  | _ => return none
where
  /-- `in` and a path of names. -/
  explicitPath : Reader Modifier := do
    word "in"
    let p ← namePath
    return .restricted true p.rooted (p.segments.map Segment.name)

def modifier : Reader Modifier := do
  if ← word? "pub" then return (← restriction?).getD .pub else return .inherited

/-! ## Fields and variants -/

def placedIdent : Reader Ident := do
  let (text, span) ← located ident
  return ⟨text, span⟩

/-- A field with a name; the name may be an underscore. -/
def namedField (g : Rules) : Reader NamedField := do
  let (field, span) ← located do
    let attributes ← attributes g
    let visibility ← modifier
    let (name, span) ← located (if ← sees (wordAt "_") then anyWord else ident)
    sym ":"
    return NamedField.mk attributes visibility ⟨name, span⟩ (← g.type true) .nowhere
  return { field with span }

def unnamedField (g : Rules) : Reader UnnamedField := do
  let attributes ← attributes g
  -- nothing is generated for such a field, so nobody asks how far it is seen
  let _ ← modifier
  return ⟨attributes, ← g.type true⟩

def namedFields (g : Rules) : Reader (List NamedField) := do
  return (← inGroup .brace (commaList (namedField g))).1

def unnamedFields (g : Rules) : Reader (List UnnamedField) := do
  return (← inGroup .paren (commaList (unnamedField g))).1

/-- A variant of an enum. A modifier and a discriminant are read and dropped. -/
def variant (g : Rules) : Reader Variant := do
  let attributes ← attributes g
  let _ ← modifier
  let name ← placedIdent
  let fields ← if ← sees (groupAt .brace) then Fields.named <$> namedFields g
    else if ← sees (groupAt .paren) then Fields.unnamed <$> unnamedFields g
    else pure .unit
  if ← sym? "=" then
    -- the discriminant has no part in a sample
    let _ ← g.expr true
  return ⟨attributes, name, fields⟩

/-! ## Declarations -/

/-- The where clause and the fields of a struct. Those without names come before the where clause
and end with a semicolon. -/
def recordBody (g : Rules) : Reader (Option WhereClause × Fields) := do
  let before ← whereClause? g
  -- parentheses behind a where clause would be none of a tuple struct
  if before.isNone && (← sees (groupAt .paren)) then
    let fields ← unnamedFields g
    let after ← whereClause? g
    sym ";"
    return (after, .unnamed fields)
  else if ← sees (groupAt .brace) then return (before, .named (← namedFields g))
  else
    sym ";"
    return (before, .unit)

def item (g : Rules) : Reader Item := do
  let attributes ← attributes g
  let visibility ← modifier
  if ← word? "struct" then
    let name ← placedIdent
    let (params, trailing) ← paramList g
    let (clause, fields) ← recordBody g
    return ⟨attributes, visibility, name, .ofParams params trailing clause, .record fields⟩
  else if ← word? "enum" then
    let name ← placedIdent
    let (params, trailing) ← paramList g
    let clause ← whereClause? g
    let (variants, _) ← inGroup .brace (commaList (variant g))
    let generics := Generics.ofParams params trailing clause
    return ⟨attributes, visibility, name, generics, .enumeration variants⟩
  else if ← word? "union" then
    let name ← placedIdent
    let (params, trailing) ← paramList g
    let clause ← whereClause? g
    -- unions are read to the end, so that they are turned down for what they are
    let _ ← namedFields g
    return ⟨attributes, visibility, name, .ofParams params trailing clause, .union⟩
  else expected "one of: `struct`, `enum`, `union`"

end Specimen.Grammar

namespace Specimen

/-! ## Reading whole texts -/

/-- Reads a whole text by a rule; nothing if the text does not follow it. -/
def readWith {α : Type} (rule : Rules → Reader α) (source : String) : Option α :=
  match Lexer.read? source with
  | none => none
  | some trees => (Reader.runAll (rule (Grammar.rules trees)) trees).toOption

def Ty.read? (source : String) : Option Ty := readWith (Rules.type · true) source

/-- The path a text spells, in the form it has in types. -/
def Path.read? (source : String) : Option Path :=
  readWith (fun g => Grammar.path g (Grammar.paramBound g) false) source

/-- The modifier a text spells; nothing but blanks is the modifier that is left out. -/
def Modifier.read? (source : String) : Option Modifier :=
  readWith (fun _ => Grammar.modifier) source

def Ident.read? (source : String) : Option Ident := readWith (fun _ => Grammar.placedIdent) source

def GenericParam.readList? (source : String) : Option (List GenericParam × Bool) :=
  readWith Grammar.paramList source

def WhereClause.read? (source : String) : Option WhereClause := readWith Grammar.whereClause source

def Item.read? (source : String) : Option Item := readWith Grammar.item source

end Specimen
