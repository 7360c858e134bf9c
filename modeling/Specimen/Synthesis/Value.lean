import Specimen.Code.Generics

/-!
# Values and bodies of generated code

The expressions that generated functions are made of. `K` is the path of the crate that declares
`Sampleable`.
-/

namespace Specimen

open Token

def corePath (names : List String) : List Token := (Path.ofNames true ("core" :: names)).tokens

/-- An expression that generated code computes a value with. -/
inductive Value where
  /-- The sample of a type: `<T as K::Sampleable>::sample()` -/
  | sample (ty : Ty)
  /-- The sample of whatever type is needed: `K::Sampleable::sample()` -/
  | inferred
  /-- A parameter. -/
  | param (name : String)
  /-- An optional parameter, or the sample of its type. -/
  | paramOrSample (name : String) (ty : Ty)
  /-- The default of whatever type is needed. -/
  | default
  /-- No value for an optional parameter. -/
  | none
  /-- What the builder holds in a field. -/
  | built (field : String)
  /-- What the builder holds in a field, as a value for an optional parameter. -/
  | someBuilt (field : String)

namespace Value

/-- `<T as K::Sampleable>` -/
def sampleable (crate : Path) (ty : Ty) : List Token :=
  sym "<" ++ ty.tokens ++ [ident "as"] ++ (crate.join "Sampleable").tokens ++ sym ">"

def builtTokens (field : String) : List Token := ident "builder" :: sym "." ++ [ident field]

def tokens (crate : Path) : Value → List Token
  | sample ty => sampleable crate ty ++ sym "::" ++ [ident "sample"] ++ parens []
  | inferred => ((crate.join "Sampleable").join "sample").tokens ++ parens []
  | param name => [ident name]
  | paramOrSample name ty =>
    ident name :: sym "." ++ [ident "unwrap_or_else"] ++
      parens (sampleable crate ty ++ sym "::" ++ [ident "sample"])
  | default => corePath ["default", "Default", "default"] ++ parens []
  | none => corePath ["option", "Option", "None"]
  | built field => builtTokens field
  | someBuilt field => corePath ["option", "Option", "Some"] ++ parens (builtTokens field)

end Value

/-- A field of a struct literal with its value. -/
structure Init where
  field : String
  value : Value

def Init.tokens (crate : Path) (i : Init) : List Token :=
  ident i.field :: sym ":" ++ i.value.tokens crate

/-- An instance of the declared type. -/
inductive Instance where
  /-- The constructor applied to arguments. -/
  | constructed (args : List Value)
  /-- A struct literal. -/
  | literal (inits : List Init)
  /-- A case without values. -/
  | unitCase (name : String)
  /-- A case with values. -/
  | unlabeledCase (name : String) (args : List Value)
  /-- A case with labelled values. -/
  | labeledCase (name : String) (inits : List Init)

namespace Instance

def caseTokens (name : String) : List Token := ident "Self" :: sym "::" ++ [ident name]

def tokens (crate : Path) : Instance → List Token
  | constructed args =>
    caseTokens "fixture_new" ++ parens (commaSeparated (args.map (Value.tokens crate)))
  | literal inits =>
    ident "Self" :: braces (commaSeparated (inits.map (Init.tokens crate)))
  | unitCase name => caseTokens name
  | unlabeledCase name args =>
    caseTokens name ++ parens (commaSeparated (args.map (Value.tokens crate)))
  | labeledCase name inits =>
    caseTokens name ++ braces (commaSeparated (inits.map (Init.tokens crate)))

end Instance

end Specimen
