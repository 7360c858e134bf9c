import Specimen.Code.Modifier

/-!
# Visibility levels

Generated members that mention field types must not be seen further than the least visible of the
declared type and its fields. Visibilities are therefore ranked by how far they reach; a visibility
that was never stated ranks like `pub(crate)`.
-/

namespace Specimen

/-- How far a declaration is visible, narrowest first. -/
inductive Level where
  /-- Its own module. -/
  | own
  /-- Some module above its own. -/
  | ancestor
  /-- Its crate. -/
  | crate
  /-- Its workspace, for which there is no modifier. -/
  | workspace
  /-- Everywhere. -/
  | everywhere
deriving DecidableEq, Repr, Inhabited

namespace Level

def rank : Level → Nat
  | own => 0
  | ancestor => 1
  | crate => 2
  | workspace => 3
  | everywhere => 4

def all : List Level := [own, ancestor, crate, workspace, everywhere]

instance : LT Level := ⟨fun a b => a.rank < b.rank⟩

instance : LE Level := ⟨fun a b => a.rank ≤ b.rank⟩

instance (a b : Level) : Decidable (a < b) := inferInstanceAs (Decidable (a.rank < b.rank))

instance (a b : Level) : Decidable (a ≤ b) := inferInstanceAs (Decidable (a.rank ≤ b.rank))

theorem le_def {a b : Level} : a ≤ b ↔ a.rank ≤ b.rank := Iff.rfl

/-- Levels with one rank are one level. -/
theorem rank_injective {a b : Level} (h : a.rank = b.rank) : a = b := by
  cases a <;> cases b <;> first | rfl | simp [rank] at h

def below (l : Level) : List Level := all.filter (· < l)

/-- The modifier that stands for a level. The workspace has none of its own and is written like
everywhere. -/
def canonical : Level → Modifier
  | own => .inherited
  | ancestor => .parent
  | crate => .crate
  | workspace => .pub
  | everywhere => .pub

end Level

/-- The level that a written modifier grants. -/
def Modifier.level : Modifier → Level
  | inherited => .own
  | pub => .everywhere
  -- one keyword has a level of its own, with `in` in front or without
  | restricted _ false ["crate"] => .crate
  | restricted _ false ["self"] => .own
  -- any other path leads to a module above
  | restricted .. => .ancestor

/-- A level, and the modifier it is written with. -/
structure Visibility where
  level : Level
  modifier : Modifier
deriving DecidableEq, Repr, Inhabited

namespace Visibility

def ofModifier (m : Modifier) : Visibility := ⟨m.level, m⟩

/-- The visibility of a level without a modifier of its own. -/
def ofLevel (l : Level) : Visibility := ⟨l, l.canonical⟩

/-- The visibility of what is not said to have one. -/
def unstated : Visibility := ofLevel .crate

def isInherited (v : Visibility) : Bool := v.modifier = .inherited

def tokens (v : Visibility) : List Token := v.modifier.tokens

def levelOf (v : Option Visibility) : Level := (v.map level).getD .crate

@[simp] theorem levelOf_some (v : Visibility) : levelOf (some v) = v.level := rfl

def narrower (a b : Option Visibility) : Option Visibility :=
  -- at a tie the first one stays
  if levelOf b < levelOf a then b else a

/-- The narrowest of a type's visibility and those of its fields, the first of equals; if that one
is not stated, `pub(crate)`. -/
def narrowest (type : Option Visibility) (fields : List (Option Visibility)) : Visibility :=
  (fields.foldl narrower type).getD unstated

@[simp] theorem narrowest_nil (type : Option Visibility) :
    narrowest type [] = type.getD unstated := rfl

/-- Each field is compared with what is narrowest so far. -/
theorem narrowest_cons (type field : Option Visibility) (fields : List (Option Visibility)) :
    narrowest type (field :: fields) = narrowest (narrower type field) fields := rfl

/-- Stating what goes without saying changes no level. -/
theorem levelOf_getD (v : Option Visibility) : (v.getD unstated).level = levelOf v := by
  cases v <;> rfl

end Visibility

end Specimen
