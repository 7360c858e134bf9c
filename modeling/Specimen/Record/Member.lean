import Specimen.Visibility

/-!
# Members of a record

A member declaration introduces one or more names. Several names may share one declaration, and then
only some of them carry the type and the default.
-/

namespace Specimen

/-- How a member holds its value, which decides whether it takes part in construction. -/
inductive Storage where
  /-- Plain storage in every instance; only these members are constructed. -/
  | stored
  /-- Belongs to the type and not to its instances. -/
  | static
  /-- Filled on first use. -/
  | lazy
  /-- Derived on access, without data of its own. -/
  | computed
  /-- Writes go through change hooks. -/
  | observed
deriving DecidableEq, Repr, Inhabited

/-- Whether a member is a field of the instance, which a struct literal has to name. -/
def Storage.isInstanceField (s : Storage) : Bool := s ≠ .static

/-- One name of a member declaration. -/
structure Binding where
  name : String
  type : Option Ty
  hasDefault : Bool

structure Member where
  bindings : List Binding
  storage : Storage
  visibility : Option Visibility

end Specimen
