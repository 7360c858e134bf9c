import Mathlib.Data.List.Forall2
import Specimen.Declaration.Lowering
import Specimen.Proofs.SelfMention
import Specimen.Synthesis.Scan

/-!
# `Self` in scanned fields

The types of constructible fields are copied into the builder, where `Self` is the builder. The scan
spells it out, but only where a path type starts with it. `scanned_namesSelf_iff` says field by
field which types come out with `Self` in them.
-/

namespace Specimen

open Token

/-! ## The declared type -/

def GenericParam.isCalledSelf (p : GenericParam) : Bool := !p.isLifetime && p.name = "Self"

/-- Lifetimes are marks and names, so they never count as `Self`. -/
theorem GenericParam.namesSelf_argument (p : GenericParam) :
    namesSelf p.argument.tokens = p.isCalledSelf := by
  cases p with
  | lifetime attributes n list trailing => simp [argument, isCalledSelf, isLifetime, Arg.tokens]
  | type attributes n list trailing default =>
    show namesSelf (Ty.named n).tokens = decide (n = "Self")
    simp [Ty.named, Ty.tokens, Segment.tokensEach, Segment.tokens, separated]
  | const attributes n ty default =>
    show namesSelf (Ty.named n).tokens = decide (n = "Self")
    simp [Ty.named, Ty.tokens, Segment.tokensEach, Segment.tokens, separated]

/-- Whether a declaration or one of its parameters is called `Self`, which no source can do. -/
def Declaration.isCalledSelf (d : Declaration) : Bool :=
  d.name.text = "Self" || d.generics.params.any (·.isCalledSelf)

/-- A list in angle brackets says `Self` if one of its parts does. -/
theorem Generics.namesSelf_angled (g : Generics) (write : GenericParam → List Token) :
    namesSelf (g.angled write) = g.params.any fun p => namesSelf (write p) := by
  rw [angled]
  split
  · next h => simp [List.isEmpty_iff.mp h]
  · simp [List.any_map, Function.comp_def]

/-- The declared type is written as its name and its parameters. -/
theorem Declaration.namesSelf_selfType (d : Declaration) :
    namesSelf d.selfType.tokens = d.isCalledSelf := by
  rw [selfType, Generics.applied_tokens, namesSelf_ident_cons, Generics.argTokens,
    Generics.namesSelf_angled, isCalledSelf]
  simp only [GenericParam.namesSelf_argument]

/-! ## Fields -/

/-- **`Self` in scanned types.** A field comes out of the scan with `Self` in its type exactly if
`Self` stands in the declared type other than at the start of a path type, or if it stands there and
the declaration itself is called `Self`. -/
theorem scanned_namesSelf_iff (d : Declaration) (inherit : Bool) (members : List Member) :
    List.Forall₂
      (fun declared scanned : Field =>
        scanned.name = declared.name ∧
          (namesSelf scanned.type.tokens = true ↔
            declared.type.hasSelf false true = true ∨
              (declared.type.hasSelf true false = true ∧ d.isCalledSelf = true)))
      (extract inherit members).fields (d.scan inherit members).fields := by
  show List.Forall₂ _ _ (d.spelledFields _)
  rw [Declaration.spelledFields, List.forall₂_map_right_iff, List.forall₂_same]
  -- field by field: what is kept of the written type, or comes in with the type's own name
  intro f _
  refine ⟨rfl, ?_⟩
  rw [Ty.namesSelf_replaceSelf, Declaration.namesSelf_selfType, Bool.or_eq_true, Bool.and_eq_true]

/-- `struct Table { rows: [u8; Self::N] }` -/
def tableItem : Item where
  attributes := []
  modifier := .inherited
  name := ⟨"Table", .nowhere⟩
  generics := .empty
  body := .record (.named
    [⟨[], .inherited, ⟨"rows", .nowhere⟩,
      .array (.named "u8") (Segment.pathPieces false [.plain "Self", .plain "N"]), .nowhere⟩])

/-- The length of an array is scanned with the `Self` in it. -/
theorem array_length_keeps_self :
    ¬ ∀ (item : Item) (d : Declaration) (members : List Member) (inherit : Bool),
      Declaration.ofItem item = .ok d → d.kind = .record members →
        ∀ f ∈ (d.scan inherit members).fields, namesSelf f.type.tokens = false := by
  intro h
  have hrows := h tableItem _ _ true rfl rfl _ List.mem_cons_self
  rw [Ty.namesSelf_tokens] at hrows
  revert hrows
  decide

end Specimen
