import Mathlib.Data.List.Nodup
import Specimen.Proofs.Names
import Specimen.Proofs.Target.Reading
import Specimen.Proofs.Target.Semantics

/-!
# What the functions of a record compute

The functions generated for a record are separate templates that have to line up field by field: the
constructor's parameters and literal, the arguments that the sample accessor and the factory pass,
and the seeds of the builder. Here they are run. The crux is `construct_eval`: whatever arguments an
entry point passes, if they fit the fields then the instance holds one value per field, in order,
and the defaults of the fillers. Every entry point is then a choice of arguments.
-/

namespace Specimen

open Target

variable {V : Type}

/-! ## Parameters of fields -/

/-- Parameters differ as the fields do. -/
theorem distinct_parameters_iff (fields : List Field) :
    Distinct (fields.map (·.parameter)) ↔ Distinct (fields.map (·.name)) := by
  have hmap : (fields.map (·.parameter)).map bareName =
      ((fields.map (·.name)).map bareName).map ("fixture" ++ ·) := by
    simp only [List.map_map]
    exact List.map_congr_left fun f _ => bareName_parameterName f.name
  have hinjective : Function.Injective ("fixture" ++ · : String → String) := fun _ _ h =>
    (String.append_right_inj "fixture").mp h
  rw [Distinct, Distinct, hmap, List.nodup_map_iff hinjective]

/-! ## Arguments for fields -/

/-- An argument for a field, and the value that the field is meant to hold for it. -/
structure Passed (V : Type) where
  field : Field
  argument : Datum V
  value : V

/-- The argument fits its field: a plain field holds its argument, a field with a default holds the
value it is given, or the sample of its type if it is given none. -/
inductive Passed.Fits (w : World V) : Passed V → Prop where
  | plain {f : Field} {v : V} (h : f.hasDefault = false) : Fits w ⟨f, .plain v, v⟩
  | given {f : Field} {v : V} (h : f.hasDefault = true) : Fits w ⟨f, .present v, v⟩
  | omitted {f : Field} (h : f.hasDefault = true) : Fits w ⟨f, .absent, w.sample f.type⟩

/-- The fields that arguments are for, with the values they are meant to hold. -/
def holding (passed : List (Passed V)) : List (String × V) :=
  passed.map fun x => (x.field.name, x.value)

namespace Passed

/-- The constructor's parameter for a field admits the argument. -/
theorem Fits.admits {w : World V} {x : Passed V} (h : x.Fits w) :
    (Parameter.value x.field.param).admits x.argument = true := by
  cases h with
  | plain h => simp [Parameter.admits, Field.param, h]
  | given h => simp [Parameter.admits, Field.param, h]
  | omitted h => simp [Parameter.admits, Field.param, h]

/-- The constructor sets a field to the value that it is meant to hold. -/
theorem Fits.eval_init {σ : Setting V} {x : Passed V} (h : x.Fits σ.world)
    {bound : List (String × Datum V)} (hb : lookup x.field.parameter bound = some x.argument)
    (slot : Option String) :
    (x.field.init.entry σ.program.crate).2.eval σ bound slot = some (.plain x.value) := by
  cases h with
  | plain h => simp [Field.init, Init.entry, h, Value.expr, Expr.eval, hb]
  | given h => simp [Field.init, Init.entry, h, Value.expr, Expr.eval, hb, Setting.method]
  | omitted h =>
    simp [Field.init, Init.entry, h, Value.expr, Expr.eval, hb, Setting.method, Setting.apply]

end Passed

namespace RecordScan

variable (s : RecordScan)

def filled (w : World V) : List (String × V) := s.fillers.map fun f => (f, w.default f)

/-- Entries of fillers need nothing to be bound. -/
theorem evalEntries_fillers (σ : Setting V) (bound : List (String × Datum V)) :
    evalEntries σ bound (s.fillerInits.map (Init.entry σ.program.crate)) =
      some (s.filled σ.world) := by
  rw [fillerInits, List.map_map, evalEntries_map s.fillers _ σ.world.default]
  · rfl
  · intro f _
    simp [Init.entry, Value.expr, Target.Expr.eval, Target.Expr.evalEach, Setting.apply]

def instanceNames : List String := s.fields.map (·.name) ++ s.fillers

/-- Part of a list of different names. -/
theorem distinct_fields (h : Distinct s.instanceNames) : Distinct (s.fields.map (·.name)) := by
  rw [Distinct, instanceNames, List.map_append] at h
  exact (List.nodup_append.mp h).1

/-- The names that the constructor's literal sets. -/
theorem constructor_entry_names (crate : Path) :
    (((s.constructor.inits ++ s.constructor.fillers).map (Init.entry crate)).map (·.1)) =
      s.instanceNames := by
  rw [List.map_map, List.map_append]
  simp [constructor, fillerInits, instanceNames, Function.comp_def, Init.entry, Field.init]

/-- **The constructor.** For arguments that fit, it gives the record that holds what they stand for
and the defaults of the fillers. -/
theorem constructor_run (σ : Setting V) (hd : Distinct s.instanceNames) {passed : List (Passed V)}
    (hp : passed.map (·.field) = s.fields) (hfit : ∀ x ∈ passed, x.Fits σ.world) :
    (s.constructor.function σ.program.crate).run σ (passed.map (·.argument)) =
      some (.struct (holding passed ++ s.filled σ.world)) := by
  have hdp := (distinct_parameters_iff s.fields).mpr (s.distinct_fields hd)
  rw [← hp, List.map_map] at hdp
  let bound := passed.map fun x => (x.field.parameter, x.argument)
  -- the parameters are those of the fields that the arguments are for
  have hparams : (s.constructor.function σ.program.crate).params =
      passed.map fun x => Parameter.value x.field.param := by
    simp only [Constructor.function, constructor, ← hp, List.map_map]
    rfl
  have hbind : bindAll (s.constructor.function σ.program.crate).params
      (passed.map (·.argument)) = some bound := by
    rw [hparams]
    exact bindAll_map passed _ _ fun x hx => (hfit x hx).admits
  -- each parameter is bound to the argument for its own field
  have hlookup : ∀ x ∈ passed, lookup x.field.parameter bound = some x.argument := by
    intro x hx
    apply lookup_eq_of_mem
    · rw [List.map_map]
      exact hdp
    · exact List.mem_map_of_mem (f := fun x => (x.field.parameter, x.argument)) hx
  have hinits : evalEntries σ bound (s.constructor.inits.map (Init.entry σ.program.crate)) =
      some (holding passed) := by
    simp only [constructor, ← hp, List.map_map]
    exact evalEntries_map passed _ _ fun x hx => (hfit x hx).eval_init (hlookup x hx) _
  have hentries : evalEntries σ bound
      ((s.constructor.inits ++ s.constructor.fillers).map (Init.entry σ.program.crate)) =
        some (holding passed ++ s.filled σ.world) := by
    rw [List.map_append]
    exact evalEntries_append hinits (s.evalEntries_fillers σ bound)
  -- to run a function is to bind its parameters and to evaluate the literal
  rw [Function.run, if_pos]
  · rw [hbind]
    simp only [Option.bind_some, Constructor.function, runAll, Tail.eval,
      constructor_entry_names, if_pos hd, hentries]
    rfl
  · rw [hparams, List.map_map]
    exact hdp

/-- **The crux.** An instance made of arguments that fit holds what they stand for and the defaults
of the fillers, whether there is a constructor to pass them to or not. -/
theorem construct_eval (σ : Setting V) (bound : List (String × Datum V))
    (hd : Distinct s.instanceNames) {passed : List (Passed V)}
    (hp : passed.map (·.field) = s.fields) (arg : Field → Value)
    (harg : ∀ x ∈ passed, ((arg x.field).expr σ.program.crate).eval σ bound none = some x.argument)
    (hnew : s.hasConstructor = true → σ.own "fixture_new" (passed.map (·.argument)) =
      some (.struct (holding passed ++ s.filled σ.world))) :
    ((s.construct (s.fields.map arg)).tail σ.program.crate).eval σ bound =
      some (.struct (holding passed ++ s.filled σ.world)) := by
  cases hc : s.hasConstructor with
  | true =>
    have hargs : Target.Expr.evalEach σ bound
        ((s.fields.map arg).map (Value.expr σ.program.crate)) = some (passed.map (·.argument)) := by
      rw [← hp, List.map_map, List.map_map]
      exact evalEach_map passed _ _ harg
    rw [construct, if_pos hc]
    simp only [Instance.tail, Tail.eval, Target.Expr.eval, hargs, Option.bind_some, Setting.apply]
    exact hnew hc
  | false =>
    -- without a constructor there are no fields, and the literal sets the fillers
    have hfields : s.fields = [] := by simpa [hasConstructor] using hc
    have hpassed : passed = [] := by simpa [hfields] using hp
    have hnames : (s.fillerInits.map (Init.entry σ.program.crate)).map (·.1) = s.instanceNames := by
      simp [fillerInits, instanceNames, hfields, Function.comp_def, Init.entry]
    rw [construct, if_neg (by simp [hc])]
    simp only [Instance.tail, Tail.eval, hnames, if_pos hd, evalEntries_fillers, hpassed, holding]
    rfl

/-- Samples for all fields, as the sample accessor passes them: nothing for a field with a
default. -/
def samples (w : World V) : List (Passed V) :=
  s.fields.map fun f =>
    ⟨f, if f.hasDefault then .absent else .plain (w.sample f.type), w.sample f.type⟩

def sampledFields (w : World V) : List (String × V) :=
  s.fields.map fun f => (f.name, w.sample f.type)

/-- There is an argument for each field. -/
theorem samples_fields (w : World V) : (s.samples w).map (·.field) = s.fields := by
  simp [samples, Function.comp_def]

/-- Fields with a default are sampled too, though nothing is passed for them. -/
theorem holding_samples (w : World V) : holding (s.samples w) = s.sampledFields w := by
  simp [holding, samples, sampledFields, Function.comp_def]

theorem samples_fit (w : World V) : ∀ x ∈ s.samples w, x.Fits w := by
  intro x hx
  obtain ⟨f, _, rfl⟩ := List.mem_map.mp hx
  cases h : f.hasDefault with
  | true => exact .omitted h
  | false => exact .plain h

/-- The arguments of the sample accessor come to what it is meant to pass. -/
theorem eval_sampleArg (σ : Setting V) (bound : List (String × Datum V)) :
    ∀ x ∈ s.samples σ.world,
      (x.field.sampleArg.expr σ.program.crate).eval σ bound none = some x.argument := by
  intro x hx
  obtain ⟨f, _, rfl⟩ := List.mem_map.mp hx
  cases h : f.hasDefault with
  | true => simp [Field.sampleArg, h, Value.expr, Target.Expr.eval, Setting.constant]
  | false =>
    simp [Field.sampleArg, h, Value.expr, Target.Expr.eval, Target.Expr.evalEach, Setting.apply]

/-! ### The builder -/

def marked (cx : Context) (w : World V) : List (String × V) :=
  (s.builderIn cx).marker.toList.map fun m => (m, w.phantom)

def slotNames (cx : Context) : List String :=
  s.fields.map (·.name) ++ (s.builderIn cx).marker.toList

/-- The builder of the program has the fields of the record and the marker. -/
theorem map_fst_slots (cx : Context) : (s.program cx).slots.map (·.1) = s.slotNames cx := by
  simp [program, Builder.slots, builderIn, builder, slotNames, Function.comp_def]

/-- The values that the builder starts with are those of all its fields. -/
theorem map_fst_seeded (cx : Context) (w : World V) :
    (s.sampledFields w ++ s.marked cx w).map (·.1) = s.slotNames cx := by
  simp [sampledFields, marked, slotNames, Function.comp_def]

/-- The builder starts with samples, whether fields have defaults or not. -/
theorem seeding_run (cx : Context) (σ : Setting V) (hσ : σ.program.crate = cx.crate)
    (hd : Distinct (s.slotNames cx)) :
    ((s.builderIn cx).seeding cx.crate).run σ [] =
      some (.struct (s.sampledFields σ.world ++ s.marked cx σ.world)) := by
  -- the entries fall into seeds and marker; each part is evaluated on its own
  have hseeds : evalEntries σ []
      ((s.builderIn cx).seeds.map fun x => (Init.mk x.field (.sample x.type)).entry cx.crate) =
        some (s.sampledFields σ.world) := by
    simp only [builderIn, builder, List.map_map]
    apply evalEntries_map s.fields
    intro f _
    simp [Init.entry, Value.expr, Target.Expr.eval, Target.Expr.evalEach, Setting.apply, hσ]
  have hmarker : evalEntries σ []
      ((s.builderIn cx).marker.toList.map fun m =>
        (m, Target.Expr.constant (.absolute ["core", "marker", "PhantomData"]))) =
        some (s.marked cx σ.world) := by
    apply evalEntries_map
    intro m _
    simp [Target.Expr.eval, Setting.constant]
  -- their names are the slots, which is what makes the literal well-formed
  have hnames : (((s.builderIn cx).seeds.map fun x =>
      (Init.mk x.field (.sample x.type)).entry cx.crate) ++
        (s.builderIn cx).marker.toList.map fun m =>
          (m, Target.Expr.constant (.absolute ["core", "marker", "PhantomData"]))).map (·.1) =
      s.slotNames cx := by
    simp [builderIn, builder, slotNames, Function.comp_def, Init.entry]
  rw [Function.run, if_pos (by simp [Builder.seeding, Distinct])]
  simp only [Builder.seeding, bindAll, runAll, Option.bind_some, Tail.eval, hnames, if_pos hd,
    evalEntries_append hseeds hmarker]
  rfl

/-- What the builder holds, as the factory passes it on. -/
def built (left : List (String × V)) : List (Passed V) :=
  (s.fields.zip left).map fun x =>
    ⟨x.1, if x.1.hasDefault then .present x.2.2 else .plain x.2.2, x.2.2⟩

/-- The first fields of a builder are those of the record, in their order. -/
theorem zip_slots {fields : List Field} {left : List (String × V)} {ms : List String}
    (h : left.map (·.1) = fields.map (·.name) ++ ms) :
    (fields.zip left).map (·.1) = fields ∧
      ((fields.zip left).map fun x => (x.1.name, x.2.2)) = left.take fields.length := by
  -- both lists are consumed together; what is left of the names at the end is the marker
  induction fields generalizing left with
  | nil => simp
  | cons f fs ih =>
    cases left with
    | nil => simp at h
    | cons b bs =>
      simp only [List.map_cons, List.cons_append, List.cons.injEq] at h
      obtain ⟨hf, hv⟩ := ih h.2
      simp only [List.zip_cons_cons, List.map_cons, hf, hv, List.length_cons, List.take_succ_cons,
        true_and, List.cons.injEq, and_true]
      rw [← h.1]

/-- The arguments of the factory come to what the builder holds for their fields. -/
theorem eval_builtArg (cx : Context) (σ : Setting V) {bound : List (String × Datum V)}
    {left : List (String × V)} (hd : Distinct (s.slotNames cx))
    (hleft : left.map (·.1) = s.slotNames cx) (hb : lookup "builder" bound = some (.struct left)) :
    ∀ x ∈ s.built left,
      (x.field.builtArg.expr σ.program.crate).eval σ bound none = some x.argument := by
  intro x hx
  obtain ⟨⟨f, h⟩, hm, rfl⟩ := List.mem_map.mp hx
  -- the builder has an entry of the field's own name, whatever `configure` did to its value
  have hmem : (f.name, h.2) ∈ left := by
    have hv : (f.name, h.2) ∈ (s.fields.zip left).map fun x => (x.1.name, x.2.2) :=
      List.mem_map_of_mem (f := fun x : Field × (String × V) => (x.1.name, x.2.2)) hm
    rw [(zip_slots hleft).2] at hv
    exact List.mem_of_mem_take hv
  have hlook : lookup f.name left = some h.2 := lookup_eq_of_mem (by rw [hleft]; exact hd) hmem
  cases hdef : f.hasDefault with
  | true =>
    simp [Field.builtArg, hdef, Value.expr, Target.Expr.eval, Target.Expr.evalEach, Setting.apply,
      hb, hlook]
  | false => simp [Field.builtArg, hdef, Value.expr, Target.Expr.eval, hb, hlook]

/-- The marker is left out, since no field is zipped with it. -/
theorem built_fields {cx : Context} {left : List (String × V)}
    (hleft : left.map (·.1) = s.slotNames cx) : (s.built left).map (·.field) = s.fields := by
  rw [built, List.map_map]
  exact (zip_slots hleft).1

/-- The instance holds what the builder does, without its last field if that is the marker. -/
theorem holding_built {cx : Context} {left : List (String × V)}
    (hleft : left.map (·.1) = s.slotNames cx) :
    holding (s.built left) = left.take s.fields.length := by
  rw [holding, built, List.map_map]
  exact (zip_slots hleft).2

/-- Every field has a value in the builder, with a default or not. -/
theorem built_fit (w : World V) (left : List (String × V)) : ∀ x ∈ s.built left, x.Fits w := by
  intro x hx
  obtain ⟨⟨f, h⟩, _, rfl⟩ := List.mem_map.mp hx
  cases hd : f.hasDefault with
  | true => simpa [hd] using Passed.Fits.given hd
  | false => simpa [hd] using Passed.Fits.plain hd

/-! ### The program

Names of the record's functions are looked up in its own impl. -/

variable (cx : Context) (w : World V)

/-- The constructor is the first member of its name, if there is one. -/
theorem find_constructor (h : s.hasConstructor = true) :
    (s.program cx).members.find? (·.name = "fixture_new") =
      some (s.constructor.function cx.crate) := by
  simp [program, h, Constructor.function]

theorem find_accessor :
    (s.program cx).members.find? (·.name = "fixture") =
      some ((s.sampleAccessor cx.declaration.name.text).function cx.crate) := by
  cases h : s.hasConstructor <;>
    simp [program, h, Constructor.function, SampleAccessor.function]

theorem find_factory :
    (s.program cx).members.find? (·.name = "fixture_with") =
      some (s.factory.function cx.crate (s.program cx).builder) := by
  cases h : s.hasConstructor <;>
    simp [program, h, Constructor.function, SampleAccessor.function, Factory.function]

/-- One call deep, the constructor calls none of the record's functions. -/
theorem call_constructor (n : Nat) (hd : Distinct s.instanceNames) (hc : s.hasConstructor = true)
    {passed : List (Passed V)} (hp : passed.map (·.field) = s.fields)
    (hfit : ∀ x ∈ passed, x.Fits w) :
    (s.program cx).call w (n + 1) "fixture_new" (passed.map (·.argument)) =
      some (.struct (holding passed ++ s.filled w)) := by
  rw [Program.call_succ, s.find_constructor cx hc, Option.bind_some]
  exact s.constructor_run ((s.program cx).setting w n) hd hp hfit

/-- Two calls deep: the sample accessor calls the constructor. -/
theorem call_accessor (n : Nat) (hd : Distinct s.instanceNames) :
    (s.program cx).call w (n + 2) "fixture" [] =
      some (.struct (s.sampledFields w ++ s.filled w)) := by
  rw [Program.call_succ, s.find_accessor cx, Option.bind_some, ← holding_samples]
  exact s.construct_eval ((s.program cx).setting w (n + 1)) [] hd (s.samples_fields w) _
    (s.eval_sampleArg ((s.program cx).setting w (n + 1)) []) fun hc =>
      s.call_constructor cx w n hd hc (s.samples_fields w) (s.samples_fit w)

theorem sampled_eq (n : Nat) (hd : Distinct s.instanceNames) :
    (s.program cx).sampled w (n + 2) = some (.struct (s.sampledFields w ++ s.filled w)) :=
  s.call_accessor cx w n hd

/-- To seed a builder calls none of the record's functions. -/
theorem seeded_eq (hd : Distinct (s.slotNames cx)) :
    (s.program cx).seeded w = some (.struct (s.sampledFields w ++ s.marked cx w)) :=
  s.seeding_run cx ⟨s.program cx, w, _, _⟩ rfl hd

end RecordScan

/-- A value of a struct with fields of these names. -/
def Holding (V : Type) (names : List String) : Type :=
  { held : List (String × V) // held.map (·.1) = names }

/-- A function on the values of a struct, as code passes it: it takes nothing else. -/
def Holding.closure {names : List String} (configure : Holding V names → Holding V names) :
    Datum V :=
  .closure fun held => if h : held.map (·.1) = names then some (configure ⟨held, h⟩).1 else none

/-- Lending a struct to a function leaves what the function makes of it. -/
theorem Holding.run_lend {σ : Setting V} {bound : List (String × Datum V)} {f x : String}
    {names : List String} (configure : Holding V names → Holding V names) (held : Holding V names)
    (hf : lookup f bound = some (Holding.closure configure))
    (hx : lookup x bound = some (.struct held.1)) :
    (Statement.lend f x).run σ bound = some ((x, .struct (configure held).1) :: bound) := by
  rw [Statement.run, hf, hx]
  simp only [Holding.closure]
  rw [dif_pos held.2]
  rfl

namespace RecordScan

variable (s : RecordScan) (cx : Context) (w : World V)

def seeds : Holding V (s.slotNames cx) :=
  ⟨s.sampledFields w ++ s.marked cx w, s.map_fst_seeded cx w⟩

/-- **The factory.** It changes the builder's default with the given function, and makes a record of
what the builder then holds. -/
theorem call_factory (n : Nat) (hd : Distinct s.instanceNames) (hds : Distinct (s.slotNames cx))
    (configure : Holding V (s.slotNames cx) → Holding V (s.slotNames cx)) :
    (s.program cx).call w (n + 2) "fixture_with" [Holding.closure configure] =
      some (.struct ((configure (s.seeds cx w)).1.take s.fields.length ++ s.filled w)) := by
  let σ := (s.program cx).setting w (n + 1)
  let seeded := (s.seeds cx w).1
  let left := configure (s.seeds cx w)
  let bound : List (String × Datum V) :=
    [("builder", .struct left.1), ("builder", .struct seeded),
      ("configure", Holding.closure configure)]
  -- the factory starts from the builder's default
  have hstart : Target.Expr.eval σ [("configure", Holding.closure configure)] none
      (.call (.associated (s.program cx).builder defaultTrait "default") []) =
        some (.struct seeded) := by
    have happly : σ.apply none (.associated (s.program cx).builder defaultTrait "default") [] =
        σ.seeded := by
      rw [Setting.apply, if_neg (by simp), if_pos ⟨rfl, rfl, rfl⟩]
    rw [Target.Expr.eval, Target.Expr.evalEach, Option.bind_some, happly]
    exact s.seeded_eq cx w hds
  have hother : bareName "builder" ≠ bareName "configure" := by decide
  have hconfigure : lookup "configure" [("builder", Datum.struct seeded),
      ("configure", Holding.closure configure)] = some (Holding.closure configure) := by
    rw [lookup, List.find?_cons_of_neg (by simpa using hother)]
    exact lookup_cons_self ..
  -- and lends it to the callback
  have hrun : runAll σ [("configure", Holding.closure configure)]
      (s.factory.function cx.crate (s.program cx).builder).body.statements = some bound := by
    have hlend := Holding.run_lend (σ := σ) configure (s.seeds cx w) hconfigure
      (lookup_cons_self ..)
    simp only [Factory.function, runAll]
    rw [Statement.run, hstart, Option.map_some, Option.bind_some, hlend]
    rfl
  rw [Program.call_succ, s.find_factory cx, Option.bind_some, Function.run, if_pos]
  · -- the end of the body passes on what was left
    have hbind : bindAll (s.factory.function cx.crate (s.program cx).builder).params
        [Holding.closure configure] = some [("configure", Holding.closure configure)] := rfl
    rw [hbind, Option.bind_some, hrun, Option.bind_some, ← s.holding_built left.2]
    exact s.construct_eval σ bound hd (s.built_fields left.2) _
      (s.eval_builtArg cx σ hds left.2 (lookup_cons_self _ _ _)) fun hc =>
        s.call_constructor cx w n hd hc (s.built_fields left.2) (s.built_fit w left.1)
  · simp [Factory.function, Distinct]

/-! ## Agreement -/

/-- What the functions of a record are meant to compute. The samples and defaults that the code
around them provides are `w`, and calls may go `n + 2` deep. -/
structure Computes (n : Nat) : Prop where
  /-- The constructor gives each field what its argument stands for. -/
  constructed : s.hasConstructor = true → ∀ passed : List (Passed V),
    passed.map (·.field) = s.fields → (∀ x ∈ passed, x.Fits w) →
      (s.program cx).call w (n + 2) "fixture_new" (passed.map (·.argument)) =
        some (.struct (holding passed ++ s.filled w))
  /-- The sample accessor gives each field the sample of its type. -/
  accessed : (s.program cx).call w (n + 2) "fixture" [] =
    some (.struct (s.sampledFields w ++ s.filled w))
  /-- So does the trait. -/
  sampled : (s.program cx).sampled w (n + 2) = some (.struct (s.sampledFields w ++ s.filled w))
  /-- So does the builder's default, for the builder's fields. -/
  seeded : (s.program cx).seeded w = some (.struct (s.sampledFields w ++ s.marked cx w))
  /-- Values of the builder have the fields of its struct. -/
  shaped : (s.program cx).slots.map (·.1) = s.slotNames cx
  /-- The factory gives the fields what `configure` leaves in the builder, marker aside. -/
  configured : ∀ configure : Holding V (s.slotNames cx) → Holding V (s.slotNames cx),
    (s.program cx).call w (n + 2) "fixture_with" [Holding.closure configure] =
      some (.struct ((configure (s.seeds cx w)).1.take s.fields.length ++ s.filled w))

/-- What a builder and an instance hold are parts of one list of names. -/
theorem distinct_slots
    (h : Distinct (s.instanceNames ++ (s.builderIn cx).marker.toList)) :
    Distinct s.instanceNames ∧ Distinct (s.slotNames cx) := by
  rw [Distinct, List.map_append] at h
  -- the builder leaves out the fillers, which stand between the fields and the marker
  refine ⟨(List.nodup_append.mp h).1, h.sublist ?_⟩
  rw [slotNames, List.map_append, instanceNames, List.map_append]
  exact (List.sublist_append_left _ _).append_right _

/-- The six parts, each from the lemma about its function. -/
theorem computes (n : Nat) (h : Distinct (s.instanceNames ++ (s.builderIn cx).marker.toList)) :
    s.Computes cx w n := by
  obtain ⟨hd, hds⟩ := s.distinct_slots cx h
  exact {
    constructed := fun hc _ hp hfit => s.call_constructor cx w (n + 1) hd hc hp hfit
    accessed := s.call_accessor cx w n hd
    sampled := s.sampled_eq cx w n hd
    seeded := s.seeded_eq cx w hds
    shaped := s.map_fst_slots cx
    configured := s.call_factory cx w n hd hds }

end RecordScan

/-- **The entry points of a record agree.** Its expansion is a program, and if the record's names
are different then the functions of that program compute what they are meant to, whatever samples
and defaults there are. -/
theorem record_functions_agree (v : Deriver) (d : Declaration) (members : List Member)
    (hkind : d.kind = .record members) :
    let s := d.scan v.inherit members
    let cx := Context.ofDeclaration v d
    Distinct (s.fields.map (·.name) ++ s.fillers ++ (s.builderIn cx).marker.toList) →
      v.expand d = .ok (s.expansion cx) ∧ (s.program cx).Prints (s.expansion cx).tokens ∧
        ∀ (V : Type) (w : World V) (n : Nat), s.Computes cx w n := by
  intro s cx hdistinct
  refine ⟨?_, s.program_prints cx, fun V w n => s.computes cx w n hdistinct⟩
  rw [Deriver.expand, hkind]

/-- The members of `struct Cache<T> { key: T, r#type: u8, slot: OnceCell<T> }`, where `r#type` has a
default. -/
def cacheMembers : List Member :=
  [⟨[⟨"key", some (.named "T"), false⟩], .stored, none⟩,
   ⟨[⟨"r#type", some (.named "u8"), true⟩], .stored, none⟩,
   ⟨[⟨"slot", some (.named "OnceCell"), false⟩], .lazy, none⟩]

def cacheDeclaration : Declaration where
  name := ⟨"Cache", .nowhere⟩
  generics := ⟨[.type [] "T" [] false none], false, none⟩
  visibility := none
  enclosing := none
  options := ⟨none, none, false, none⟩
  kind := .record cacheMembers

/-- The constructor of `Cache` samples a missing `r#type`, and a factory that changes nothing gives
the sample. -/
theorem cache_functions_agree :
    let s := cacheDeclaration.scan true cacheMembers
    let cx := Context.ofDeclaration .standard cacheDeclaration
    cacheDeclaration.kind = .record cacheMembers ∧
      Distinct (s.fields.map (·.name) ++ s.fillers ++ (s.builderIn cx).marker.toList) ∧
      ∀ w : World Nat,
        (s.program cx).call w 2 "fixture_new" [.plain 7, .absent] =
          some (.struct [("key", 7), ("r#type", w.sample (.named "u8")),
            ("slot", w.default "slot")]) ∧
        (s.program cx).call w 2 "fixture_with"
            [Holding.closure (id : Holding Nat (s.slotNames cx) → Holding Nat (s.slotNames cx))] =
          (s.program cx).call w 2 "fixture" [] := by
  intro s cx
  have hd : Distinct (s.fields.map (·.name) ++ s.fillers ++ (s.builderIn cx).marker.toList) := by
    decide
  have h (w : World Nat) : s.Computes cx w 0 :=
    (record_functions_agree .standard cacheDeclaration cacheMembers rfl hd).2.2 Nat w 0
  refine ⟨rfl, hd, fun w => ⟨?_, ?_⟩⟩
  -- the key is passed and the type omitted, one argument of each kind
  · let key : Field := ⟨"key", .named "T", false, none⟩
    let kind : Field := ⟨"r#type", .named "u8", true, none⟩
    refine (h w).constructed rfl [⟨key, .plain 7, 7⟩, ⟨kind, .absent, w.sample kind.type⟩] ?_ ?_
    · rfl
    · simp only [List.forall_mem_cons, List.not_mem_nil, false_imp_iff, implies_true, and_true]
      exact ⟨.plain rfl, .omitted rfl⟩
  · rw [(h w).accessed]
    exact (h w).configured id

end Specimen
