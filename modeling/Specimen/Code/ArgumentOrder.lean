/-!
# The order of generic parameters and arguments

Lifetimes are written before all other parameters and arguments, wherever the source put them. Every
entry but the last keeps the comma after it, so moving a last lifetime forward leaves a comma at the
end of the list.
-/

namespace Specimen

/-- A list with its lifetimes first, and whether a comma follows its last entry then. -/
def lifetimesFirst {α : Type} (isLifetime : α → Bool) (xs : List α) (trailing : Bool) :
    List α × Bool :=
  (xs.filter isLifetime ++ xs.filter (!isLifetime ·),
   trailing || (xs.getLast?.any isLifetime && !xs.all isLifetime))

/-- To put lifetimes first leaves nothing out. -/
theorem mem_lifetimesFirst {α : Type} (isLifetime : α → Bool) (xs : List α) (trailing : Bool)
    (x : α) : x ∈ (lifetimesFirst isLifetime xs trailing).1 ↔ x ∈ xs := by
  simp only [lifetimesFirst, List.mem_append, List.mem_filter]
  cases isLifetime x <;> simp

end Specimen
