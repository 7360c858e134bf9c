import Specimen.Synthesis.Expansion
import Specimen.Synthesis.Scan

/-!
# Records

The constructor takes a value for each field and leaves the fillers to their defaults. The sample
accessor passes samples, the factory what the builder holds after it was adjusted. A field with a
default is an optional parameter: without a value the constructor samples it.
-/

namespace Specimen

/-- Names for the builder's marker: one after another, each with one more underscore in front. -/
def markerCandidate (underscores : Nat) : String :=
  "".pushn '_' underscores ++ "__fixture_marker"

/-- The first marker name from a number of underscores on that no field has, among `fuel` of
them. -/
def freeMarker (taken : List String) : (fuel underscores : Nat) → String
  | 0, k => markerCandidate k
  | fuel + 1, k =>
    if taken.contains (markerCandidate k) then freeMarker taken fuel (k + 1) else markerCandidate k

/-- The shortest marker name that no field has. There are more candidates than fields. -/
def markerName (taken : List String) : String := freeMarker taken taken.length 0

namespace Field

def param (f : Field) : Param := ⟨f.parameter, f.type, f.hasDefault⟩

def init (f : Field) : Init :=
  ⟨f.name, if f.hasDefault then .paramOrSample f.parameter f.type else .param f.parameter⟩

def sampleArg (f : Field) : Value := if f.hasDefault then .none else .sample f.type

def builtArg (f : Field) : Value := if f.hasDefault then .someBuilt f.name else .built f.name

end Field

namespace RecordScan

/-- The fillers with their defaults. -/
def fillerInits (s : RecordScan) : List Init := s.fillers.map (⟨·, .default⟩)

/-- The instance that the constructor makes of arguments, or a struct literal where there is no
constructor. -/
def construct (s : RecordScan) (args : List Value) : Instance :=
  if s.hasConstructor then .constructed args else .literal s.fillerInits

def constructor (s : RecordScan) : Constructor :=
  ⟨s.effective, s.fields.map (·.param), s.fields.map (·.init), s.fillerInits⟩

def sampleAccessor (s : RecordScan) (name : String) : SampleAccessor :=
  ⟨"A sample " ++ code name ++ " built from sample field values.", s.typeVisibility,
    s.construct (s.fields.map (·.sampleArg))⟩

def builder (s : RecordScan) (generics : Generics) : Builder :=
  ⟨s.effective, s.fields.map fun f => ⟨f.name, f.type⟩,
    if generics.params.isEmpty then none else some (markerName (s.fields.map (·.name))), generics⟩

def factory (s : RecordScan) : Factory := ⟨s.effective, s.construct (s.fields.map (·.builtArg))⟩

def expansion (s : RecordScan) (cx : Context) : Expansion :=
  let generics := cx.declaration.generics.sampling cx.crate s.sampled
  { context := cx
    generics
    fragments :=
      (if s.hasConstructor then [.constructor s.constructor] else []) ++
        [.sampleAccessor (s.sampleAccessor cx.declaration.name.text),
         .builder (s.builder generics),
         .factory s.factory] }

end RecordScan

end Specimen
