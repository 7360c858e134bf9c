import Specimen.Proofs.Lowering

/-!
# What checks report

A check gives a result or a report. `Settles` says which of the two, and exactly what is reported.
Checks one after the other report the complaints of the first that has any (`Settles.bind`), and
checks that are collected report those of all of them, in order (`Settles.collect`).
-/

namespace Specimen

variable {α β σ : Type}

/-! ## Single checks -/

def complaintsOf : Except Report α → List Diagnostic
  | .ok _ => []
  | .error r => r.diagnostics

/-- A check has exactly these complaints, and gives `a` if there are none. -/
structure Settles (x : Except Report α) (complaints : List Diagnostic) (a : α) : Prop where
  reports : complaintsOf x = complaints
  passes : complaints = [] → x = .ok a

namespace Settles

variable {x : Except Report α} {ds : List Diagnostic} {a : α}

/-- A check with complaints fails, and reports just these. -/
theorem fails (h : Settles x ds a) (hds : ds ≠ []) : ∃ r, x = .error r ∧ r.diagnostics = ds := by
  have hreports := h.reports
  cases x with
  | ok b => exact absurd hreports.symm hds
  | error r => exact ⟨r, rfl, hreports⟩

/-- A check passes exactly if it has no complaints. -/
theorem ok_iff (h : Settles x ds a) : (∃ b, x = .ok b) ↔ ds = [] := by
  refine ⟨?_, fun hds => ⟨a, h.passes hds⟩⟩
  rintro ⟨b, rfl⟩
  exact h.reports.symm

theorem pure (a : α) : Settles (.ok a) [] a := ⟨rfl, fun _ => rfl⟩

/-- A check that fails with a single complaint. -/
theorem about (cause : Cause) (span : Span) (a : α) :
    Settles (.error (.about cause span)) [⟨cause, span, none⟩] a :=
  ⟨rfl, fun h => absurd h (List.cons_ne_nil _ _)⟩

/-- What is made of a result does not change what is reported. -/
theorem map (h : Settles x ds a) (f : α → β) : Settles (f <$> x) ds (f a) := by
  refine ⟨?_, fun hds => ?_⟩
  · rw [← h.reports]
    cases x <;> rfl
  · rw [h.passes hds]
    rfl

/-- **One check after another.** Once the first has complaints, the second is not made. -/
theorem bind {f : α → Except Report β} {es : List Diagnostic} {b : β} (hx : Settles x ds a)
    (hf : ds = [] → Settles (f a) es b) :
    Settles (x >>= f) (if ds.isEmpty then es else ds) b := by
  by_cases hds : ds = []
  · rw [hx.passes hds, hds]
    exact hf hds
  · have hsome : ds.isEmpty = false := by rwa [List.isEmpty_eq_false_iff]
    -- the second check is not made, so what it would complain about does not count
    obtain ⟨r, hr, hdiagnostics⟩ := hx.fails hds
    rw [hr, hsome]
    exact ⟨hdiagnostics, fun hnil => absurd hnil hds⟩

end Settles

/-! ## Checks that are collected -/

def failure? : Except Report α → Option Report
  | .error r => some r
  | .ok _ => none

/-- What the failed checks report is what all of them do, as the others report nothing. -/
theorem flatMap_failures (results : List (Except Report α)) :
    (results.filterMap failure?).flatMap Report.diagnostics = results.flatMap complaintsOf := by
  induction results with
  | nil => rfl
  | cons x xs ih =>
    rw [List.flatMap_cons, ← ih]
    cases x with
    | ok a => rfl
    | error r => rfl

/-- Collected checks report what each of them does. -/
theorem complaintsOf_collect (results : List (Except Report α)) :
    complaintsOf (collect results) = results.flatMap complaintsOf := by
  rw [← flatMap_failures]
  show complaintsOf (if (results.filterMap failure?).isEmpty then _ else _) = _
  split
  · next hnone =>
    rw [List.isEmpty_iff.mp hnone]
    rfl
  · exact Report.diagnostics_ofList _

/-- **All checks of a list** are made, and the complaints are those of each in order. -/
theorem Settles.collect {ι : Type} {check : ι → Except Report α} {ds : ι → List Diagnostic}
    {a : ι → α} (h : ∀ i, Settles (check i) (ds i) (a i)) (is : List ι) :
    Settles (collect (is.map check)) (is.flatMap ds) (is.map a) := by
  refine ⟨?_, fun hnil => ?_⟩
  · have heach : (fun i => complaintsOf (check i)) = ds := funext fun i => (h i).reports
    rw [complaintsOf_collect, List.flatMap_map, heach]
  · have hnone : ∀ i ∈ is, ds i = [] := List.flatMap_eq_nil_iff.mp hnil
    rw [collect_ok, List.map_map]
    exact List.map_congr_left fun i hi => (h i).passes (hnone i hi)

/-! ## Options -/

/-- Every problem of a reading is reported, and nothing else. -/
theorem complaintsOf_result (r : Reading σ) : complaintsOf r.result = r.problems := by
  rw [Reading.result]
  split
  · next hnone => exact (List.isEmpty_iff.mp hnone).symm
  · show (Report.ofList (r.problems.map .single)).diagnostics = r.problems
    rw [Report.diagnostics_ofList, List.flatMap_map]
    exact List.flatMap_singleton' r.problems

/-- Reading options is a check that gives the empty options if nothing is set. -/
theorem readOptions_settles [EmptyCollection σ] (ks : KeySet σ) (attributes : List Attribute) :
    Settles (readOptions ks attributes) (complaintsOf (readOptions ks attributes))
      ((readOptions ks attributes).toOption.getD ∅) := by
  refine ⟨rfl, ?_⟩
  rw [readOptions, complaintsOf_result]
  intro hnone
  rw [Reading.result, hnone]
  rfl

/-- Options that are not read are reported on. -/
theorem readOptions_ne_nil [EmptyCollection σ] {ks : KeySet σ} {attributes : List Attribute}
    {r : Report} (h : readOptions ks attributes = .error r) : r.diagnostics ≠ [] := by
  have hread := readOptions_settles ks attributes
  rw [h] at hread
  -- an empty report would mean that the options were read
  intro hnil
  have hok := hread.passes hnil
  simp at hok

/-! ## Declarations -/

/-- The declaration that an item makes with given options and of a given kind. -/
def Item.declaration (item : Item) (options : TypeOptions) (kind : DeclarationKind) :
    Declaration where
  name := item.name
  generics := item.generics
  visibility := some (.ofModifier item.modifier)
  enclosing := options.enclosing.map .ofModifier
  options := options
  kind := kind

/-- With good options, the declaration is that of the body. -/
theorem Declaration.ofItem_of_options {item : Item} {options : TypeOptions}
    (h : readOptions TypeOptions.keySet item.attributes = .ok options) :
    Declaration.ofItem item =
      item.declaration options <$> DeclarationKind.ofBody options item.body := by
  rw [Declaration.ofItem, h, map_eq_pure_bind]
  rfl

/-- With good options, an item is as good as its body. -/
theorem Declaration.ofItem_settles {item : Item} {options : TypeOptions} {ds : List Diagnostic}
    {kind : DeclarationKind}
    (hoptions : readOptions TypeOptions.keySet item.attributes = .ok options)
    (hbody : Settles (DeclarationKind.ofBody options item.body) ds kind) :
    Settles (Declaration.ofItem item) ds (item.declaration options kind) := by
  rw [Declaration.ofItem_of_options hoptions]
  exact hbody.map _

end Specimen
