import Specimen.SelfType
import Specimen.Synthesis.Context

/-!
# Scanning a record

What is learned about a record before anything is generated: its fields with `Self` spelled out, its
fillers, and how far the generated members may be seen.
-/

namespace Specimen

/-- What is learned about a record. -/
structure RecordScan where
  fields : List Field
  fillers : List String
  /-- The visibility of the sample accessor. -/
  typeVisibility : Visibility
  /-- The visibility of everything that mentions field types. -/
  effective : Visibility

namespace RecordScan

/-- A record without constructible fields gets no constructor. -/
def hasConstructor (s : RecordScan) : Bool := !s.fields.isEmpty

def sampled (s : RecordScan) : List Ty := s.fields.map (·.type)

end RecordScan

/-- The fields of an extraction with `Self` in their types spelled out. -/
def Declaration.spelledFields (d : Declaration) (e : Extraction) : List Field :=
  e.fields.map fun f => { f with type := f.type.replaceSelf d.selfType }

/-- What is learned about a record with the given members. -/
def Declaration.scan (d : Declaration) (inherit : Bool) (members : List Member) : RecordScan :=
  let e := extract inherit members
  { fields := d.spelledFields e
    fillers := e.fillers
    typeVisibility := d.typeVisibility.getD .unstated
    effective := .narrowest d.typeVisibility (e.fields.map (·.visibility)) }

def Declaration.scan? (d : Declaration) (inherit : Bool) : Option RecordScan :=
  match d.kind with
  | .record members => some (d.scan inherit members)
  | _ => none

end Specimen
