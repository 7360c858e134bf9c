import Specimen.Synthesis.Context

/-!
# Fragments

The four things that are generated for a declaration. A fragment holds what is particular about it;
its code is written around that.
-/

namespace Specimen

open Token

/-- The kinds of fragments. -/
inductive FragmentKind where
  /-- `fixture_new`, with a parameter for each constructible field. -/
  | constructor
  /-- `fixture`, the sample. -/
  | sampleAccessor
  /-- The builder type and its impls. -/
  | builder
  /-- `fixture_with`, the sample adjusted by a callback. -/
  | factory
deriving DecidableEq, Repr, Inhabited

/-- Whether a fragment is a member of the declared type, and not an item beside it. -/
def FragmentKind.isMember (k : FragmentKind) : Bool := k ≠ .builder

/-- A parameter of the constructor. -/
structure Param where
  name : String
  type : Ty
  optional : Bool

def Param.tokens (p : Param) : List Token :=
  ident p.name :: sym ":" ++
    if p.optional then corePath ["option", "Option"] ++ sym "<" ++ p.type.tokens ++ sym ">"
    else p.type.tokens

/-- The constructor: it names every field of the instance, fillers last. -/
structure Constructor where
  visibility : Visibility
  params : List Param
  inits : List Init
  fillers : List Init

structure SampleAccessor where
  doc : String
  visibility : Visibility
  body : Instance

/-- A field of the builder with the value it starts with. -/
structure Seed where
  field : String
  type : Ty

/-- The builder type. The marker ties a generic builder to the declared type. -/
structure Builder where
  visibility : Visibility
  seeds : List Seed
  marker : Option String
  /-- The generics of the builder's impls. -/
  generics : Generics

structure Factory where
  visibility : Visibility
  body : Instance

inductive Fragment where
  | constructor (c : Constructor)
  | sampleAccessor (a : SampleAccessor)
  | builder (b : Builder)
  | factory (f : Factory)

def Fragment.kind : Fragment → FragmentKind
  | constructor _ => .constructor
  | sampleAccessor _ => .sampleAccessor
  | builder _ => .builder
  | factory _ => .factory

/-! ## Code -/

def allowAttribute (lints : List (List Token)) : List Token :=
  hashAttribute (ident "allow" :: parens (commaSeparated lints))

def fnTokens (name : String) (params body : List Token) : List Token :=
  words ["fn", name] ++ parens params ++ sym "->" ++ [ident "Self"] ++ braces body

def Constructor.doc (c : Constructor) (name : String) : String :=
  "Builds a " ++ code name ++ " from one argument per field." ++
    if c.params.any (·.optional) then
      " `None` picks the sample for fields with a default."
    else ""

def Constructor.tokens (cx : Context) (c : Constructor) : List Token :=
  cx.guard ++ docAttribute (c.doc cx.declaration.name.text) ++
    -- one parameter per field may be many, and field names decide about their case
    allowAttribute [(Path.ofNames false ["clippy", "too_many_arguments"]).tokens,
      [ident "non_snake_case"]] ++
    c.visibility.tokens ++
    fnTokens "fixture_new" (commaSeparated (c.params.map Param.tokens))
      (ident "Self" ::
        braces (commaTerminated ((c.inits ++ c.fillers).map (Init.tokens cx.crate))))

def SampleAccessor.tokens (cx : Context) (a : SampleAccessor) : List Token :=
  cx.guard ++ docAttribute a.doc ++ a.visibility.tokens ++
    fnTokens "fixture" [] (a.body.tokens cx.crate)

namespace Builder

def phantom : List Token := corePath ["marker", "PhantomData"]

def doc (name : String) : String :=
  "Sample-seeded fields of " ++ code name ++ ", handed to the " ++
    code (name ++ "::fixture_with") ++ " callback."

def structTokens (cx : Context) (b : Builder) : List Token :=
  let d := cx.declaration
  let fields := b.seeds.map fun s =>
    b.visibility.tokens ++ ident s.field :: sym ":" ++ s.type.tokens
  -- `fn() -> T` owns nothing and holds no lifetime back
  let marker := match b.marker with
    | some m => ident m :: sym ":" ++ phantom ++ sym "<" ++
        [ident "fn"] ++ parens [] ++ sym "->" ++ d.selfType.tokens ++ sym ">"
    | none => []
  -- the struct has the declared clause only; bounds for sampling are on the impls
  cx.guard ++ docAttribute (doc d.name.text) ++ allowAttribute [[ident "non_snake_case"]] ++
    b.visibility.tokens ++ words ["struct", d.builder] ++ d.generics.declTokens ++
    d.generics.whereTokens ++ braces (commaTerminated fields ++ marker)

def implTokens (cx : Context) (b : Builder) (trait body : List Token) : List Token :=
  cx.guard ++ derivedAttribute ++ [ident "impl"] ++ b.generics.implTokens ++ trait ++
    ident cx.declaration.builder :: b.generics.argTokens ++ b.generics.whereTokens ++ braces body

/-- The impl that seeds the builder with samples. -/
def defaultTokens (cx : Context) (b : Builder) : List Token :=
  let seeds := b.seeds.map fun s => (Init.mk s.field (.sample s.type)).tokens cx.crate
  let marker := match b.marker with
    | some m => ident m :: sym ":" ++ phantom
    | none => []
  b.implTokens cx (corePath ["default", "Default"] ++ [ident "for"])
    (fnTokens "default" [] (ident "Self" :: braces (commaTerminated seeds ++ marker)))

/-- The impl of the named constructor, which only a builder for the whole workspace has. -/
def newTokens (cx : Context) (b : Builder) : List Token :=
  if Level.workspace ≤ b.visibility.level then
    b.implTokens cx []
      (b.visibility.tokens ++
        fnTokens "new" []
          (sym "<" ++ words ["Self", "as"] ++ corePath ["default", "Default"] ++ sym ">" ++
            sym "::" ++ [ident "default"] ++ parens []))
  else []

def tokens (cx : Context) (b : Builder) : List Token :=
  b.structTokens cx ++ b.defaultTokens cx ++ b.newTokens cx

end Builder

/-- The documentation of the factory of the declared type `name`. -/
def Factory.doc (name : String) : String :=
  "A sample " ++ code name ++ " whose fields are first adjusted by `configure`."

def Factory.tokens (cx : Context) (f : Factory) : List Token :=
  let d := cx.declaration
  let builder := ident d.builder :: d.generics.argTokens
  let params := ident "configure" :: sym ":" ++ [ident "impl"] ++ corePath ["ops", "FnOnce"] ++
    parens (sym "&" ++ ident "mut" :: builder) ++ sym ","
  -- by the trait, since the builder need not have `new`
  let start := words ["let", "mut", "builder"] ++ sym "=" ++ sym "<" ++ builder ++ [ident "as"] ++
    corePath ["default", "Default"] ++ sym ">" ++ sym "::" ++ [ident "default"] ++ parens [] ++
    sym ";"
  let adjust := ident "configure" :: parens (sym "&" ++ words ["mut", "builder"]) ++ sym ";"
  cx.guard ++ docAttribute (Factory.doc d.name.text) ++ f.visibility.tokens ++
    fnTokens "fixture_with" params (start ++ adjust ++ f.body.tokens cx.crate)

def Fragment.tokens (cx : Context) : Fragment → List Token
  | constructor c => c.tokens cx
  | sampleAccessor a => a.tokens cx
  | builder b => b.tokens cx
  | factory f => f.tokens cx

end Specimen
