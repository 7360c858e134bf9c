import Specimen.Synthesis.Fragment

/-!
# Expansions

Everything that is generated for a declaration: an impl of the declared type with the member
fragments, the other fragments beside it, and the impl of `Sampleable`.
-/

namespace Specimen

open Token

/-- Everything that is generated for a declaration. -/
structure Expansion where
  context : Context
  /-- The generics of the impls, with the bounds for sampling. -/
  generics : Generics
  fragments : List Fragment

namespace Expansion

def kinds (e : Expansion) : List FragmentKind := e.fragments.map (·.kind)

def fragment? (e : Expansion) (k : FragmentKind) : Option Fragment :=
  e.fragments.find? (·.kind = k)

/-- The declared type and the where clause of an impl for it. -/
def target (e : Expansion) : List Token :=
  ident e.context.declaration.name.text :: e.generics.argTokens ++ e.generics.whereTokens

def conformance (e : Expansion) : List Token :=
  e.context.guard ++ derivedAttribute ++ [ident "impl"] ++ e.generics.implTokens ++
    (e.context.crate.join "Sampleable").tokens ++ [ident "for"] ++ e.target ++
    -- the trait's function only calls the sample accessor
    braces (fnTokens "sample" [] (Instance.caseTokens "fixture" ++ parens []))

/-- The tokens of the fragments for which `keep` holds, in order. -/
def tokensOf (e : Expansion) (keep : FragmentKind → Bool) : List Token :=
  (e.fragments.filter (keep ·.kind)).flatMap (·.tokens e.context)

def inherent (e : Expansion) : List Token :=
  -- the impl itself has no guard; its members have
  derivedAttribute ++ [ident "impl"] ++ e.generics.implTokens ++ e.target ++
    braces (e.tokensOf (·.isMember))

def tokens (e : Expansion) : List Token :=
  e.inherent ++ e.tokensOf (!·.isMember) ++ e.conformance

end Expansion

end Specimen
