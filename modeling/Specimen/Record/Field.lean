import Specimen.Code.Name
import Specimen.Record.Member

/-!
# Constructible fields and fillers

The stored members of a record are its constructible fields, one for each name that has a type. A
name without one may take the type of the last name in its group. All other instance fields are
fillers: construction leaves them to their default values.
-/

namespace Specimen

structure Field where
  name : String
  type : Ty
  hasDefault : Bool
  visibility : Option Visibility

def Field.parameter (f : Field) : String := parameterName f.name

/-- The type and default of a binding. Without a type of its own it takes that of the group's last
binding if `inherit` holds, and a default from either of the two. -/
def Binding.resolve (b : Binding) (inherit : Bool) (last : Binding) : Option (Ty × Bool) :=
  match b.type with
  | some ty => some (ty, b.hasDefault)
  | none => if inherit then last.type.map (·, b.hasDefault || last.hasDefault) else none

namespace Member

def storedFields (inherit : Bool) (m : Member) : List Field :=
  match m.bindings.getLast? with
  | none => []
  | some last =>
    -- a name that comes to no type is left out
    m.bindings.filterMap fun b =>
      (b.resolve inherit last).map fun (ty, hasDefault) => ⟨b.name, ty, hasDefault, m.visibility⟩

def fields (inherit : Bool) (m : Member) : List Field :=
  if m.storage = .stored then m.storedFields inherit else []

def fillers (m : Member) : List String :=
  if m.storage ≠ .stored ∧ m.storage.isInstanceField then m.bindings.map (·.name) else []

end Member

structure Extraction where
  fields : List Field
  fillers : List String

def extract (inherit : Bool) (members : List Member) : Extraction :=
  ⟨members.flatMap (·.fields inherit), members.flatMap (·.fillers)⟩

/-- More members add their fields behind those of the others. -/
theorem extract_append_fields (inherit : Bool) (ms ns : List Member) :
    (extract inherit (ms ++ ns)).fields =
      (extract inherit ms).fields ++ (extract inherit ns).fields := by
  simp [extract]

/-- So they do with their fillers. -/
theorem extract_append_fillers (inherit : Bool) (ms ns : List Member) :
    (extract inherit (ms ++ ns)).fillers =
      (extract inherit ms).fillers ++ (extract inherit ns).fillers := by
  simp [extract]

end Specimen
