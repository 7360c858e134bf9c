import Specimen.Code.ArgumentOrder
import Specimen.Code.Type

/-!
# Generic parameters and where clauses

The parameter list of a declaration is written in three ways: in full where the declaration stands,
without defaults after `impl`, and as bare names where the declared type is used. A where clause
without predicates leaves no trace in code.
-/

namespace Specimen

inductive GenericParam where
  /-- `'a: 'b + 'c` -/
  | lifetime (attributes : List Token) (name : String) (list : List String) (trailing : Bool)
  /-- `T: A + B = D` -/
  | type (attributes : List Token) (name : String) (list : List Bound) (trailing : Bool)
      (default : Option Ty)
  /-- `const N: usize = 3` -/
  | const (attributes : List Token) (name : String) (ty : Ty) (default : Option (List Piece))

/-- A condition of a where clause. -/
inductive Predicate where
  /-- `'a: 'b + 'c` -/
  | lifetime (name : String) (list : List String) (trailing : Bool)
  /-- `for<'a> T: A + B`; the binder holds its `for` -/
  | type (binder : List Piece) (bounded : Ty) (list : List Bound) (trailing : Bool)

/-- A where clause, with a comma at its end if `trailing`. -/
structure WhereClause where
  predicates : List Predicate
  trailing : Bool

/-- The generic parameters of a declaration, lifetimes first, and its where clause. -/
structure Generics where
  params : List GenericParam
  trailing : Bool
  whereClause : Option WhereClause

open Token

namespace GenericParam

def isLifetime : GenericParam → Bool
  | lifetime .. => true
  | _ => false

/-- The name of a parameter, that of a lifetime without its apostrophe. -/
def name : GenericParam → String
  | lifetime _ n _ _ => n
  | type _ n _ _ _ => n
  | const _ n _ _ => n

/-- Bounds with the colon before them; no colon where there are no bounds. -/
def boundsTokens (list : List (List Token)) (trailing : Bool) : List Token :=
  if list.isEmpty then [] else sym ":" ++ punctuated (sym "+") list trailing

/-- The attributes and bounds that both lists of parameters show. -/
def boundedTokens : GenericParam → List Token
  | lifetime attributes n list trailing =>
    attributes ++ Token.lifetime n :: boundsTokens (list.map ([Token.lifetime ·])) trailing
  | type attributes n list trailing _ =>
    attributes ++ ident n :: boundsTokens (Bound.tokensEach list) trailing
  | const attributes n ty _ => attributes ++ words ["const", n] ++ sym ":" ++ ty.tokens

def defaultTokens : GenericParam → List Token
  | type _ _ _ _ (some ty) => sym "=" ++ ty.tokens
  | const _ _ _ (some value) => sym "=" ++ Piece.tokensOf value
  | _ => []

def declTokens (p : GenericParam) : List Token := p.boundedTokens ++ p.defaultTokens

def argument : GenericParam → Arg
  | lifetime _ n _ _ => .lifetime n
  | type _ n _ _ _ => .type (.named n)
  | const _ n _ _ => .type (.named n)

end GenericParam

namespace Predicate

def tokens : Predicate → List Token
  | lifetime n list trailing =>
    Token.lifetime n :: sym ":" ++ punctuated (sym "+") (list.map ([Token.lifetime ·])) trailing
  | type binder bounded list trailing =>
    Piece.tokensOf binder ++ bounded.tokens ++ sym ":" ++
      punctuated (sym "+") (Bound.tokensEach list) trailing

end Predicate

namespace WhereClause

def tokens (w : WhereClause) : List Token :=
  if w.predicates.isEmpty then []
  else ident "where" :: punctuated (sym ",") (w.predicates.map Predicate.tokens) w.trailing

def push (w : WhereClause) (p : Predicate) : WhereClause := ⟨w.predicates ++ [p], false⟩

@[simp] theorem predicates_push (w : WhereClause) (p : Predicate) :
    (w.push p).predicates = w.predicates ++ [p] := rfl

end WhereClause

namespace Generics

def empty : Generics := ⟨[], false, none⟩

instance : Inhabited Generics := ⟨empty⟩

/-- The generics with the given parameters in any order. -/
def ofParams (params : List GenericParam) (trailing : Bool) (whereClause : Option WhereClause) :
    Generics :=
  let (ordered, trailing') := lifetimesFirst GenericParam.isLifetime params trailing
  ⟨ordered, trailing', whereClause⟩

/-- A parameter list in angle brackets, each parameter written by `write`; nothing if there are no
parameters. -/
def angled (g : Generics) (write : GenericParam → List Token) : List Token :=
  if g.params.isEmpty then []
  else sym "<" ++ punctuated (sym ",") (g.params.map write) g.trailing ++ sym ">"

def declTokens (g : Generics) : List Token := g.angled GenericParam.declTokens

/-- The parameters as written after `impl`: without defaults. -/
def implTokens (g : Generics) : List Token := g.angled GenericParam.boundedTokens

def argTokens (g : Generics) : List Token := g.angled fun p => p.argument.tokens

/-- The where clause, which may be missing or empty. -/
def whereTokens (g : Generics) : List Token := (g.whereClause.map WhereClause.tokens).getD []

def applied (g : Generics) (name : String) : Ty :=
  .path false
    [if g.params.isEmpty then .plain name
     else .angled name false (g.params.map GenericParam.argument) g.trailing]

/-- An applied name is written as the name and the arguments. -/
theorem applied_tokens (g : Generics) (name : String) :
    (g.applied name).tokens = ident name :: g.argTokens := by
  by_cases h : g.params.isEmpty
  · simp [applied, argTokens, angled, h, Ty.tokens, Segment.tokensEach, Segment.tokens, root,
      separated]
  · simp [applied, argTokens, angled, h, Ty.tokens, Segment.tokensEach, Segment.tokens, root,
      separated, Arg.tokensEach_eq_map, Function.comp_def]

end Generics

end Specimen
