import Mathlib.Data.List.Basic
import Specimen.Synthesis.Expansion

/-!
# What code takes from its declaration

Members and cases go into fragments before any code is written. From the declaration itself code
takes the name, the generics, the name of the builder, the crate path and the guard, and
`Expansion.tokens_congr` says that it takes nothing else.
-/

namespace Specimen

/-- Contexts that agree on everything that stands in code. -/
structure Context.WritesAs (cx cx' : Context) : Prop where
  crate : cx.crate = cx'.crate
  guarded : cx.guarded = cx'.guarded
  name : cx.declaration.name = cx'.declaration.name
  generics : cx.declaration.generics = cx'.declaration.generics
  builder : cx.declaration.builder = cx'.declaration.builder

namespace Context.WritesAs

variable {cx cx' : Context} (h : cx.WritesAs cx')
include h

/-- The guard is the same in both contexts. -/
theorem guard : cx.guard = cx'.guard := by
  rw [Context.guard, Context.guard, h.guarded]

/-- So is the declared type with its parameters. -/
theorem selfType : cx.declaration.selfType = cx'.declaration.selfType := by
  rw [Declaration.selfType, Declaration.selfType, h.name, h.generics]

/-- A builder is written with the guard, the names and the generics of its context. -/
theorem builderTokens (b : Builder) : b.tokens cx = b.tokens cx' := by
  -- both impls of a builder are written by one template
  have himpl (trait body : List Token) :
      b.implTokens cx trait body = b.implTokens cx' trait body := by
    rw [Builder.implTokens, Builder.implTokens, h.guard, h.builder]
  have hstruct : b.structTokens cx = b.structTokens cx' := by
    simp only [Builder.structTokens, h.guard, h.name, h.generics, h.builder, h.selfType]
  have hdefault : b.defaultTokens cx = b.defaultTokens cx' := by
    simp only [Builder.defaultTokens, himpl, h.crate]
  have hnew : b.newTokens cx = b.newTokens cx' := by
    simp only [Builder.newTokens, himpl]
  rw [Builder.tokens, Builder.tokens, hstruct, hdefault, hnew]

/-- Each fragment takes some of what the contexts agree on, and nothing else of them. -/
theorem fragmentTokens (f : Fragment) : f.tokens cx = f.tokens cx' := by
  cases f with
  | constructor c =>
    simp only [Fragment.tokens, Constructor.tokens, h.guard, h.name, h.crate]
  | sampleAccessor a =>
    simp only [Fragment.tokens, SampleAccessor.tokens, h.guard, h.crate]
  | builder b => exact h.builderTokens b
  | factory f =>
    simp only [Fragment.tokens, Factory.tokens, h.guard, h.name, h.generics, h.builder, h.crate]

end Context.WritesAs

namespace Expansion

variable {e e' : Expansion} (hcx : e.context.WritesAs e'.context)
  (hgenerics : e.generics = e'.generics)
include hcx hgenerics

/-- The impl of `Sampleable` looks at the guard, the crate and the name. -/
theorem conformance_congr : e.conformance = e'.conformance := by
  rw [conformance, conformance, target, target, hcx.guard, hcx.crate, hcx.name, hgenerics]

/-- **The code of an expansion** depends on its fragments, its generics and what contexts that are
written alike have in common. -/
theorem tokens_congr (hfragments : e.fragments = e'.fragments) : e.tokens = e'.tokens := by
  have hparts (keep : FragmentKind → Bool) : e.tokensOf keep = e'.tokensOf keep := by
    rw [tokensOf, tokensOf, hfragments]
    exact List.flatMap_congr fun f _ => hcx.fragmentTokens f
  rw [tokens, tokens, inherent, inherent, target, target, hparts, hparts,
    conformance_congr hcx hgenerics, hcx.name, hgenerics]

end Expansion

/-! ## The kind of the declaration -/

def Context.withKind (cx : Context) (k : DeclarationKind) : Context :=
  { cx with declaration := { cx.declaration with kind := k } }

theorem Context.writesAs_withKind (cx : Context) (k : DeclarationKind) :
    (cx.withKind k).WritesAs cx :=
  ⟨rfl, rfl, rfl, rfl, rfl⟩

/-- Nothing that is written looks at members or cases of the declaration; they have gone into the
fragments. -/
theorem Expansion.tokens_withKind (e : Expansion) (k : DeclarationKind) :
    { e with context := e.context.withKind k }.tokens = e.tokens :=
  Expansion.tokens_congr (e.context.writesAs_withKind k) rfl rfl

end Specimen
