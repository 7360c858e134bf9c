import Specimen.Declaration.Lowering
import Specimen.Synthesis.Record
import Specimen.Synthesis.TaggedUnion

/-!
# Deriving

From a declaration to its expansion, and from an item to generated code or to everything that is
wrong with the item.
-/

namespace Specimen

namespace Deriver

def expand (v : Deriver) (d : Declaration) : Except SynthesisError Expansion :=
  let cx := Context.ofDeclaration v d
  match d.kind with
  | .record members => .ok ((d.scan v.inherit members).expansion cx)
  | .taggedUnion [] => .error ⟨.noCases, d.name.span⟩
  | .taggedUnion (first :: _) => .ok (first.expansion cx)
  | .unsupported kind => .error ⟨.unsupported kind, d.name.span⟩

def derive (v : Deriver) (item : Item) : Except Report (List Token) := do
  -- what is wrong in the source is reported before generation is tried
  let d ← Declaration.ofItem item
  match v.expand d with
  | .ok e => return e.tokens
  | .error e => .error e.report

end Deriver

end Specimen
