import Specimen.Proofs.Target.Syntax

/-!
# Items and what stands in front of them

Generated code at the level of items is a list of impl blocks and structs. Each of them, and each
function or field inside of one, has attributes and a modifier in front of it. Code for debug builds
is marked by one attribute, and `released` is what the items come to in a build without it.
-/

namespace Specimen.Target

open Token

/-! ## Attributes -/

/-- The condition that code for debug builds stands under. -/
def debugCondition : List Token := ident "cfg" :: parens [ident "debug_assertions"]

def derivedContent : List Token := [ident "automatically_derived"]

def docContent (text : String) : List Token :=
  ident "doc" :: sym "=" ++ [literal (Text.quote text)]

def lintContent (lints : List (List Token)) : List Token :=
  ident "allow" :: parens (commaSeparated lints)

def guardAttributes (cx : Context) : List (List Token) :=
  if cx.guarded then [debugCondition] else []

/-- Written out, these are the guard that templates have in front. -/
theorem flatMap_guardAttributes (cx : Context) :
    (guardAttributes cx).flatMap hashAttribute = cx.guard := by
  rw [guardAttributes, Context.guard]
  split
  · simp [debugCondition]
  · rfl

/-- The condition is among them exactly if the guard is in force. -/
theorem mem_guardAttributes {cx : Context} :
    debugCondition ∈ guardAttributes cx ↔ cx.guarded = true := by
  rw [guardAttributes]
  split <;> simp [*]

/-! ## Declared things -/

/-- Something with the attributes and the modifier in front of it. -/
structure Declared (α : Type) where
  attributes : List (List Token)
  modifier : Modifier
  item : α

namespace Declared

variable {α : Type}

def tokens (write : α → List Token) (x : Declared α) : List Token :=
  x.attributes.flatMap hashAttribute ++ x.modifier.tokens ++ write x.item

/-- What is declared is written behind its attributes and its modifier. -/
theorem declares (write : α → List Token) (x : Declared α) :
    Declares x.modifier (x.tokens write) (write x.item) :=
  ⟨x.attributes, rfl⟩

/-- Declared things are written one after the other, each with what stands in front of it. -/
theorem declareEach (write : α → List Token) (xs : List (Declared α)) :
    DeclareEach write (xs.map (tokens write)) (xs.map (·.item)) := by
  rw [DeclareEach, List.forall₂_map_left_iff, List.forall₂_map_right_iff, List.forall₂_same]
  exact fun x _ => ⟨_, x.declares write⟩

/-- Whether something is for debug builds only. -/
def Guarded (x : Declared α) : Prop := debugCondition ∈ x.attributes

instance (x : Declared α) : Decidable x.Guarded :=
  inferInstanceAs (Decidable (debugCondition ∈ x.attributes))

end Declared

inductive Block where
  | impl (params trait : List Token) (ty : Ty) (bounds : List Token)
      (functions : List (Declared Function))
  /-- A struct, with a comma after its last field if `trailing`. -/
  | struct (name : String) (params bounds : List Token) (fields : List (Declared (String × Ty)))
      (trailing : Bool)

namespace Block

def tokens : Block → List Token
  | impl params trait ty bounds functions =>
    implBlock params trait ty bounds (functions.flatMap (Declared.tokens Function.tokens))
  | struct name params bounds fields trailing =>
    structBlock name params bounds
      (punctuated (sym ",") (fields.map (Declared.tokens slotTokens)) trailing)

def functions : Block → List (Declared Function)
  | impl _ _ _ _ fs => fs
  | struct .. => []

/-- What the head of an item says about parameters: those that it declares, the arguments behind
the name of the type that an impl is for, and the where clause. -/
def header : Block → List Token
  | impl params _ ty bounds _ => params ++ ty.tokens.tail ++ bounds
  | struct _ params bounds _ _ => params ++ bounds

def fields? : Block → Option (List (Declared (String × Ty)))
  | impl .. => none
  | struct _ _ _ fs _ => some fs

end Block

def itemTokens (x : Declared Block) : List Token := x.tokens Block.tokens

def functionsOf (items : List (Declared Block)) : List (Declared Function) :=
  items.flatMap (·.item.functions)

/-- The structs among some items: the modifier and the fields of each. -/
def structsOf (items : List (Declared Block)) :
    List (Modifier × List (Declared (String × Ty))) :=
  items.filterMap fun x => x.item.fields?.map (x.modifier, ·)

theorem functionsOf_append (xs ys : List (Declared Block)) :
    functionsOf (xs ++ ys) = functionsOf xs ++ functionsOf ys :=
  List.flatMap_append

theorem structsOf_append (xs ys : List (Declared Block)) :
    structsOf (xs ++ ys) = structsOf xs ++ structsOf ys :=
  List.filterMap_append

/-! ## Builds without debug assertions -/

def unguarded {α : Type} (xs : List (Declared α)) : List (Declared α) :=
  xs.filter fun x => ¬x.Guarded

/-- Nothing is taken out where nothing is marked. -/
theorem unguarded_eq_self {α : Type} {xs : List (Declared α)} (h : ∀ x ∈ xs, ¬x.Guarded) :
    unguarded xs = xs :=
  List.filter_eq_self.mpr fun x hx => decide_eq_true (h x hx)

/-- Everything is taken out where everything is marked. -/
theorem unguarded_eq_nil {α : Type} {xs : List (Declared α)} (h : ∀ x ∈ xs, x.Guarded) :
    unguarded xs = [] := by
  rw [unguarded, List.filter_eq_nil_iff]
  intro x hx hkept
  exact of_decide_eq_true hkept (h x hx)

def Block.released : Block → Block
  | impl params trait ty bounds functions => impl params trait ty bounds (unguarded functions)
  | struct name params bounds fields trailing =>
    struct name params bounds (unguarded fields) trailing

def released (items : List (Declared Block)) : List (Declared Block) :=
  (unguarded items).map fun x => { x with item := x.item.released }

end Specimen.Target
