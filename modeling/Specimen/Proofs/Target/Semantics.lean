import Specimen.Proofs.Target.Syntax

/-!
# What generated functions compute

An evaluator for the programs of `Target.Syntax`. What the code around a program provides is a
parameter, `World`: the sample of each type and the default of each field. Names are compared
without `r#`, as identifiers are. Evaluation has no result where the program would not compile: a
name that is not bound, a field that is set twice, an option where a plain value is needed.
-/

namespace Specimen.Target

variable {V : Type}

/-! ## Data -/

/-- What code computes with. `V` holds the values of fields, optional ones included. -/
inductive Datum (V : Type) where
  | plain (v : V)
  /-- No value for an optional parameter. -/
  | absent
  /-- A value for an optional parameter. -/
  | present (v : V)
  /-- A struct: its fields with their values. -/
  | struct (held : List (String × V))
  /-- A function that changes a struct in place. -/
  | closure (change : List (String × V) → Option (List (String × V)))

/-- What the code around generated functions provides. -/
structure World (V : Type) where
  /-- `<T as K::Sampleable>::sample()` -/
  sample : Ty → V
  /-- `Default::default()` where the value of a field is needed -/
  default : String → V
  /-- `PhantomData` -/
  phantom : V

/-- What a name is bound to; the last binding comes first. -/
def lookup {α : Type} (x : String) (bindings : List (String × α)) : Option α :=
  (bindings.find? fun b => bareName b.1 = bareName x).map (·.2)

/-- Names that are pairwise different identifiers. -/
def Distinct (names : List String) : Prop := (names.map bareName).Nodup

instance (names : List String) : Decidable (Distinct names) :=
  inferInstanceAs (Decidable (names.map bareName).Nodup)

/-! ## Expressions -/

/-- What the functions and types that an expression mentions mean. -/
structure Setting (V : Type) where
  program : Program
  world : World V
  /-- The functions of the record. -/
  own : String → List (Datum V) → Option (Datum V)
  /-- The default of the builder. -/
  seeded : Option (Datum V)

namespace Setting

/-- A function applied to arguments, where the value of the field `slot` is needed, if any. A path
that is not absolute has no meaning: the functions of records have none. -/
def apply (σ : Setting V) (slot : Option String) : Callee → List (Datum V) → Option (Datum V)
  | .own f, args => σ.own f args
  | .absolute names, args =>
    match args with
    | [] =>
      if names = ["core", "default", "Default", "default"] then
        slot.map fun f => .plain (σ.world.default f)
      else none
    | [.plain v] => if names = ["core", "option", "Option", "Some"] then some (.present v) else none
    | _ => none
  | .associated ty trait item, [] =>
    if item = "sample" ∧ trait.tokens = (σ.program.crate.join "Sampleable").tokens then
      some (.plain (σ.world.sample ty))
    else if item = "default" ∧ trait.tokens = defaultTrait.tokens ∧
        ty.tokens = σ.program.builder.tokens then
      σ.seeded
    else none
  | _, _ => none

def constant (σ : Setting V) : Callee → Option (Datum V)
  | .absolute names =>
    if names = ["core", "option", "Option", "None"] then some .absent
    else if names = ["core", "marker", "PhantomData"] then some (.plain σ.world.phantom)
    else none
  | _ => none

/-- A method with a function as its argument. -/
def method (σ : Setting V) (slot : Option String) (name : String) (arg : Callee) :
    Datum V → Option (Datum V)
  | .absent => if name = "unwrap_or_else" then σ.apply slot arg [] else none
  | .present v => if name = "unwrap_or_else" then some (.plain v) else none
  | _ => none

end Setting

mutual

def Expr.eval (σ : Setting V) (bound : List (String × Datum V)) (slot : Option String) :
    Expr → Option (Datum V)
  | .variable x => lookup x bound
  | .field x f =>
    match lookup x bound with
    | some (.struct held) => (lookup f held).map .plain
    | _ => none
  | .constant c => σ.constant c
  | .call c args => (Expr.evalEach σ bound args).bind (σ.apply slot c)
  | .method receiver name arg => (receiver.eval σ bound none).bind (σ.method slot name arg)

def Expr.evalEach (σ : Setting V) (bound : List (String × Datum V)) :
    List Expr → Option (List (Datum V))
  | [] => some []
  | e :: es => (e.eval σ bound none).bind fun v => (Expr.evalEach σ bound es).map (v :: ·)

end

/-! ## Functions -/

def Statement.run (σ : Setting V) (bound : List (String × Datum V)) :
    Statement → Option (List (String × Datum V))
  | letMut x e => (e.eval σ bound none).map fun v => (x, v) :: bound
  | lend f x =>
    match lookup f bound, lookup x bound with
    | some (.closure change), some (.struct held) =>
      (change held).map fun left => (x, .struct left) :: bound
    | _, _ => none

def runAll (σ : Setting V) (bound : List (String × Datum V)) :
    List Statement → Option (List (String × Datum V))
  | [] => some bound
  | s :: rest => (s.run σ bound).bind fun bound' => runAll σ bound' rest

/-- What the fields of a struct literal are set to. -/
def evalEntries (σ : Setting V) (bound : List (String × Datum V)) :
    List Entry → Option (List (String × V))
  | [] => some []
  | (f, e) :: rest =>
    match e.eval σ bound (some f) with
    | some (.plain v) => (evalEntries σ bound rest).map ((f, v) :: ·)
    | _ => none

/-- The value of the end of a body. A struct literal sets no field twice; literals of cases do not
occur in the functions of records. -/
def Tail.eval (σ : Setting V) (bound : List (String × Datum V)) : Tail → Option (Datum V)
  | expr e => e.eval σ bound none
  | literal entries _ =>
    if Distinct (entries.map (·.1)) then (evalEntries σ bound entries).map .struct else none
  | caseLiteral .. => none

def Parameter.admits : Parameter → Datum V → Bool
  | value p, .plain _ => !p.optional
  | value p, .absent => p.optional
  | value p, .present _ => p.optional
  | callback .., .closure _ => true
  | _, _ => false

def bindAll : List Parameter → List (Datum V) → Option (List (String × Datum V))
  | [], [] => some []
  | p :: ps, a :: as => if p.admits a then (bindAll ps as).map ((p.name, a) :: ·) else none
  | _, _ => none

def Function.run (σ : Setting V) (f : Function) (args : List (Datum V)) : Option (Datum V) :=
  if Distinct (f.params.map (·.name)) then
    (bindAll f.params args).bind fun bound =>
      (runAll σ bound f.body.statements).bind fun bound' => f.body.tail.eval σ bound'
  else none

/-! ## Programs -/

namespace Program

def seeded (p : Program) (w : World V) : Option (Datum V) :=
  p.seeding.run ⟨p, w, fun _ _ => none, none⟩ []

/-- What a function of the record gives for arguments, with at most `depth` calls inside each
other. -/
def call (p : Program) (w : World V) : (depth : Nat) → String → List (Datum V) → Option (Datum V)
  | 0, _, _ => none
  | depth + 1, f, args =>
    (p.members.find? (·.name = f)).bind fun g => g.run ⟨p, w, p.call w depth, p.seeded w⟩ args

/-- What names mean in the functions of the record, with at most `depth` calls from there. -/
def setting (p : Program) (w : World V) (depth : Nat) : Setting V :=
  ⟨p, w, p.call w depth, p.seeded w⟩

/-- What `Sampleable::sample` gives for the record. -/
def sampled (p : Program) (w : World V) (depth : Nat) : Option (Datum V) :=
  p.conformance.run (p.setting w depth) []

theorem call_succ (p : Program) (w : World V) (depth : Nat) (f : String) (args : List (Datum V)) :
    p.call w (depth + 1) f args =
      (p.members.find? (·.name = f)).bind fun g => g.run (p.setting w depth) args := rfl

end Program

/-! ## Laws -/

/-- Where names differ pairwise, each is bound to what its own binding says. -/
theorem lookup_eq_of_mem {α : Type} {bindings : List (String × α)} {x : String} {a : α}
    (hd : Distinct (bindings.map (·.1))) (hm : (x, a) ∈ bindings) : lookup x bindings = some a := by
  induction bindings with
  | nil => simp at hm
  | cons b rest ih =>
    simp only [Distinct, List.map_cons, List.nodup_cons] at hd
    rcases List.mem_cons.mp hm with rfl | hm'
    · simp [lookup]
    · -- the first binding has another name, or its name would stand twice
      have hne : bareName b.1 ≠ bareName x := by
        intro heq
        apply hd.1
        rw [heq]
        exact List.mem_map_of_mem (List.mem_map_of_mem (f := Prod.fst) hm')
      rw [← ih hd.2 hm', lookup, List.find?_cons_of_neg (by simpa using hne)]
      rfl

theorem lookup_cons_self {α : Type} (x : String) (a : α) (bindings : List (String × α)) :
    lookup x ((x, a) :: bindings) = some a := by
  simp [lookup]

/-- Arguments are evaluated one by one. -/
theorem evalEach_map {α : Type} {σ : Setting V} {bound : List (String × Datum V)} (xs : List α)
    (e : α → Expr) (v : α → Datum V) (h : ∀ x ∈ xs, (e x).eval σ bound none = some (v x)) :
    Expr.evalEach σ bound (xs.map e) = some (xs.map v) := by
  induction xs with
  | nil => simp [Expr.evalEach]
  | cons x xs ih =>
    have hx := h x List.mem_cons_self
    have hxs := ih fun y hy => h y (List.mem_cons_of_mem x hy)
    simp [Expr.evalEach, hx, hxs]

/-- The fields of a literal are set one by one, each where a value for it is needed. -/
theorem evalEntries_map {α : Type} {σ : Setting V} {bound : List (String × Datum V)} (xs : List α)
    (entry : α → Entry) (v : α → V)
    (h : ∀ x ∈ xs, (entry x).2.eval σ bound (some (entry x).1) = some (.plain (v x))) :
    evalEntries σ bound (xs.map entry) = some (xs.map fun x => ((entry x).1, v x)) := by
  induction xs with
  | nil => simp [evalEntries]
  | cons x xs ih =>
    have hx := h x List.mem_cons_self
    have hxs := ih fun y hy => h y (List.mem_cons_of_mem x hy)
    simp [evalEntries, hx, hxs]

/-- Two runs of fields are set one after the other. -/
theorem evalEntries_append {σ : Setting V} {bound : List (String × Datum V)} {es fs : List Entry}
    {hs ks : List (String × V)} (he : evalEntries σ bound es = some hs)
    (hf : evalEntries σ bound fs = some ks) :
    evalEntries σ bound (es ++ fs) = some (hs ++ ks) := by
  induction es generalizing hs with
  | nil =>
    simp only [evalEntries, Option.some.injEq] at he
    simpa [← he] using hf
  | cons e es ih =>
    obtain ⟨f, e⟩ := e
    simp only [evalEntries, List.cons_append] at he ⊢
    split at he
    · -- the first field has a value, so the rest of the first run was evaluated too
      next v hv =>
      obtain ⟨tail, htail, rfl⟩ := Option.map_eq_some_iff.mp he
      rw [ih htail]
      rfl
    · simp at he

/-- Parameters take the arguments that they admit. -/
theorem bindAll_map {α : Type} (xs : List α) (param : α → Parameter) (arg : α → Datum V)
    (h : ∀ x ∈ xs, (param x).admits (arg x) = true) :
    bindAll (xs.map param) (xs.map arg) = some (xs.map fun x => ((param x).name, arg x)) := by
  induction xs with
  | nil => rfl
  | cons x xs ih =>
    have hx := h x List.mem_cons_self
    have hxs := ih fun y hy => h y (List.mem_cons_of_mem x hy)
    simp [bindAll, hx, hxs]

end Specimen.Target
