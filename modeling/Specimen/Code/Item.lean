import Specimen.Code.Generics
import Specimen.Code.Modifier
import Specimen.Grammar.Attribute

/-!
# Type declarations as written

A struct, enum or union with everything that generation looks at. The discriminants of an enum and
the fields of a union play no part in it.
-/

namespace Specimen

/-- An identifier with its place. -/
structure Ident where
  text : String
  span : Span
deriving DecidableEq, Repr, Inhabited

/-- A field with a name. -/
structure NamedField where
  attributes : List Attribute
  modifier : Modifier
  name : Ident
  type : Ty
  /-- From the first attribute to the end of the type. -/
  span : Span

/-- A field that is known by its position. -/
structure UnnamedField where
  attributes : List Attribute
  type : Ty

inductive Fields where
  | unit
  | unnamed (list : List UnnamedField)
  | named (list : List NamedField)

def Fields.attributes : Fields → List Attribute
  | unit => []
  | unnamed list => list.flatMap (·.attributes)
  | named list => list.flatMap (·.attributes)

/-- A variant of an enum. -/
structure Variant where
  attributes : List Attribute
  name : Ident
  fields : Fields

/-- What a declaration declares. -/
inductive ItemBody where
  | record (fields : Fields)
  | enumeration (variants : List Variant)
  | union

/-- A type declaration. -/
structure Item where
  attributes : List Attribute
  modifier : Modifier
  name : Ident
  generics : Generics
  body : ItemBody

end Specimen
