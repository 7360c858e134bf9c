import Specimen.Attribute.Options
import Specimen.Code.Name
import Specimen.Record.Field

/-!
# Declarations

A type declaration reduced to what generation needs: a record with its members, a tagged union with
its cases, or a kind that nothing can be generated for.
-/

namespace Specimen

/-- What a case of a tagged union carries. Either all of its values are labelled or none is. -/
inductive Payload where
  | unit
  | unlabeled (types : List Ty)
  | labeled (params : List (String × Ty))

namespace Payload

def types : Payload → List Ty
  | unit => []
  | unlabeled ts => ts
  | labeled ps => ps.map (·.2)

def labels : Payload → Option (List String)
  | labeled ps => some (ps.map (·.1))
  | _ => none

end Payload

/-- A case of a tagged union. -/
structure Case where
  name : String
  payload : Payload

/-- The kinds of declarations. -/
inductive DeclarationKind where
  | record (members : List Member)
  | taggedUnion (cases : List Case)
  | unsupported (kind : Unsupported)

/-- A type declaration. -/
structure Declaration where
  name : Ident
  generics : Generics
  visibility : Option Visibility
  /-- The visibility of the surrounding scope, for a type without a modifier of its own. -/
  enclosing : Option Visibility
  options : TypeOptions
  kind : DeclarationKind

namespace Declaration

def enclosedBy (d : Declaration) (v : Visibility) : Declaration := { d with enclosing := some v }

/-- The visibility that generated members take from the type: its own, or the enclosing one if its
own is not stated or left out. -/
def typeVisibility (d : Declaration) : Option Visibility :=
  match d.visibility, d.enclosing with
  | some own, some enclosing => if own.isInherited then some enclosing else some own
  | none, some enclosing => some enclosing
  | own, none => own

/-- The path of the crate with `Sampleable`: the type's own, or else a given one. -/
def cratePath (d : Declaration) (otherwise : Path) : Path := d.options.crate.getD otherwise

/-- The declared type, spelled out for places where `Self` means something else. -/
def selfType (d : Declaration) : Ty := d.generics.applied d.name.text

def builder (d : Declaration) : String :=
  (d.options.builder.map (·.text)).getD (builderName d.name.text)

/-- Outside of any scope the type is seen as far as it says. -/
@[simp] theorem typeVisibility_of_enclosing_none {d : Declaration} (h : d.enclosing = none) :
    d.typeVisibility = d.visibility := by
  simp only [typeVisibility, h]

end Declaration

end Specimen
