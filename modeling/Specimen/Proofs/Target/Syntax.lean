import Mathlib.Data.List.Forall2
import Specimen.Synthesis.Expansion

/-!
# The language of generated functions

Generated code is read as programs of a small language: functions whose bodies are a few `let`s and
calls with an expression or a struct literal at the end. The syntax trees here know nothing about
declarations or fields. Each has its tokens, so that "these tokens are that program" is an equation
between token lists; what a program does is the matter of `Target.Semantics`.
-/

namespace Specimen.Target

open Token

/-! ## Expressions -/

/-- How code names a function or a constant. -/
inductive Callee where
  /-- `::a::b` -/
  | absolute (names : List String)
  /-- `a::b`, with whatever start the path has -/
  | relative (p : Path)
  /-- `<T as a::Trait>::item` -/
  | associated (ty : Ty) (trait : Path) (item : String)
  /-- `Self::item` -/
  | own (item : String)

def Callee.tokens : Callee → List Token
  | absolute names => (Path.ofNames true names).tokens
  | relative p => p.tokens
  | associated ty trait item =>
    sym "<" ++ ty.tokens ++ [ident "as"] ++ trait.tokens ++ sym ">" ++ sym "::" ++ [ident item]
  | own item => ident "Self" :: sym "::" ++ [ident item]

inductive Expr where
  /-- A parameter or a variable. -/
  | variable (name : String)
  /-- `x.field` -/
  | field (name : String) (field : String)
  /-- A constant. -/
  | constant (c : Callee)
  /-- `f(a, b)` -/
  | call (c : Callee) (args : List Expr)
  /-- `e.method(f)`, where `f` is a function -/
  | method (receiver : Expr) (name : String) (arg : Callee)

mutual

def Expr.tokens : Expr → List Token
  | .variable name => [ident name]
  | .field name f => ident name :: sym "." ++ [ident f]
  | .constant c => c.tokens
  | .call c args => c.tokens ++ parens (commaSeparated (Expr.tokensEach args))
  | .method receiver name arg => receiver.tokens ++ sym "." ++ [ident name] ++ parens arg.tokens

def Expr.tokensEach : List Expr → List (List Token)
  | [] => []
  | e :: es => e.tokens :: Expr.tokensEach es

end

theorem Expr.tokensEach_eq_map (es : List Expr) : Expr.tokensEach es = es.map Expr.tokens := by
  induction es with
  | nil => simp [Expr.tokensEach]
  | cons e es ih => simp [Expr.tokensEach, ih]

/-! ## Bodies -/

/-- What stands before the end of a body. -/
inductive Statement where
  /-- `let mut name = e;` -/
  | letMut (name : String) (e : Expr)
  /-- `f(&mut name);` -/
  | lend (f : String) (name : String)

def Statement.tokens : Statement → List Token
  | letMut name e => words ["let", "mut", name] ++ sym "=" ++ e.tokens ++ sym ";"
  | lend f name => ident f :: parens (sym "&" ++ words ["mut", name]) ++ sym ";"

/-- A field of a struct literal: its name and what it is set to. -/
abbrev Entry := String × Expr

def entryTokens (e : Entry) : List Token := ident e.1 :: sym ":" ++ e.2.tokens

/-- The end of a body. -/
inductive Tail where
  | expr (e : Expr)
  /-- `Self { a: x, b: y }`, with a comma at the end if `trailing` -/
  | literal (entries : List Entry) (trailing : Bool)
  /-- `Self::Case { a: x, b: y }` -/
  | caseLiteral (name : String) (entries : List Entry)

def Tail.tokens : Tail → List Token
  | expr e => e.tokens
  | literal entries trailing =>
    ident "Self" :: braces (punctuated (sym ",") (entries.map entryTokens) trailing)
  | caseLiteral name entries =>
    (Callee.own name).tokens ++ braces (commaSeparated (entries.map entryTokens))

structure Body where
  statements : List Statement
  tail : Tail

def Body.tokens (b : Body) : List Token := b.statements.flatMap Statement.tokens ++ b.tail.tokens

/-! ## Items -/

inductive Parameter where
  /-- `name: T` or `name: ::core::option::Option<T>` -/
  | value (p : Param)
  /-- `name: impl ::core::ops::FnOnce(&mut T)` -/
  | callback (name : String) (target : Ty)

namespace Parameter

def name : Parameter → String
  | value p => p.name
  | callback n _ => n

def tokens : Parameter → List Token
  | value p => p.tokens
  | callback n target =>
    ident n :: sym ":" ++ [ident "impl"] ++ corePath ["ops", "FnOnce"] ++
      parens (sym "&" ++ [ident "mut"] ++ target.tokens)

end Parameter

/-- A function that gives an instance of `Self`. -/
structure Function where
  name : String
  params : List Parameter
  /-- Whether a comma follows the last parameter. -/
  trailing : Bool
  body : Body

def Function.tokens (f : Function) : List Token :=
  fnTokens f.name (punctuated (sym ",") (f.params.map Parameter.tokens) f.trailing) f.body.tokens

/-- An impl block: its parameters, the trait with its `for`, the type, the bounds and what stands
between its braces. -/
def implBlock (params trait : List Token) (ty : Ty) (bounds members : List Token) : List Token :=
  ident "impl" :: params ++ trait ++ ty.tokens ++ bounds ++ braces members

def slotTokens (slot : String × Ty) : List Token := ident slot.1 :: sym ":" ++ slot.2.tokens

def structBlock (name : String) (params bounds fields : List Token) : List Token :=
  words ["struct", name] ++ params ++ bounds ++ braces fields

/-- Tokens declare an item with a modifier: attributes, the modifier and the tokens of the item. -/
def Declares (m : Modifier) (ts item : List Token) : Prop :=
  ∃ attributes : List (List Token), ts = attributes.flatMap hashAttribute ++ m.tokens ++ item

/-! ## Programs -/

def defaultTrait : Path := Path.ofNames true ["core", "default", "Default"]

/-- The functions of a record type and of its builder type. -/
structure Program where
  /-- The path of the crate with `Sampleable`. -/
  crate : Path
  record : Ty
  builderName : String
  builder : Ty
  /-- The fields of the builder with their types. -/
  slots : List (String × Ty)
  /-- The functions of the record's own impl. -/
  members : List Function
  /-- The function of the builder's `Default` impl. -/
  seeding : Function
  /-- The function of the record's `Sampleable` impl. -/
  conformance : Function

/-- Pieces of code declare items, one each and in the same order. -/
def DeclareEach {α : Type} (write : α → List Token) (pieces : List (List Token)) (xs : List α) :
    Prop :=
  List.Forall₂ (fun ts x => ∃ m, Declares m ts (write x)) pieces xs

namespace Program

/-- Tokens are the record's own impl. -/
def PrintsInherent (p : Program) (ts : List Token) : Prop :=
  ∃ params bounds pieces,
    Declares .inherited ts (implBlock params [] p.record bounds pieces.flatten) ∧
      DeclareEach Function.tokens pieces p.members

/-- Tokens are the builder struct. -/
def PrintsStruct (p : Program) (ts : List Token) : Prop :=
  ∃ m params bounds pieces trailing,
    Declares m ts
      (structBlock p.builderName params bounds (punctuated (sym ",") pieces trailing)) ∧
      DeclareEach slotTokens pieces p.slots

/-- Tokens are the `Default` impl of the builder. -/
def PrintsSeeding (p : Program) (ts : List Token) : Prop :=
  ∃ params bounds,
    Declares .inherited ts (implBlock params (defaultTrait.tokens ++ [ident "for"]) p.builder bounds
      p.seeding.tokens)

/-- Tokens are the `Sampleable` impl of the record. -/
def PrintsConformance (p : Program) (ts : List Token) : Prop :=
  ∃ params bounds,
    Declares .inherited ts (implBlock params ((p.crate.join "Sampleable").tokens ++ [ident "for"])
      p.record bounds p.conformance.tokens)

/-- Tokens are a program: the record's own impl, the builder struct, its `Default` impl, whatever
other impl the builder has, and the `Sampleable` impl of the record. -/
def Prints (p : Program) (ts : List Token) : Prop :=
  ∃ inherent struct seeding others conformance,
    ts = inherent ++ (struct ++ seeding ++ others) ++ conformance ∧
      p.PrintsInherent inherent ∧ p.PrintsStruct struct ∧ p.PrintsSeeding seeding ∧
      p.PrintsConformance conformance

end Program

end Specimen.Target
