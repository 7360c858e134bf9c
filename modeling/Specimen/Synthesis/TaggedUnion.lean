import Specimen.Synthesis.Expansion

/-!
# Tagged unions

The sample of a tagged union is its first case, with a sample of each of its values.
-/

namespace Specimen

namespace Case

def sample (c : Case) : Instance :=
  match c.payload with
  | .unit => .unitCase c.name
  | .unlabeled types => .unlabeledCase c.name (types.map fun _ => .inferred)
  | .labeled params => .labeledCase c.name (params.map fun (label, _) => ⟨label, .inferred⟩)

def sampleAccessor (c : Case) (d : Declaration) : SampleAccessor :=
  ⟨"A sample " ++ code d.name.text ++ ": the " ++ code c.name ++ " variant with sample values.",
    d.typeVisibility.getD .unstated, c.sample⟩

def expansion (c : Case) (cx : Context) : Expansion where
  context := cx
  generics := cx.declaration.generics.sampling cx.crate c.payload.types
  fragments := [.sampleAccessor (c.sampleAccessor cx.declaration)]

end Case

end Specimen
