import Specimen.Proofs.Target.Syntax

/-!
# Templates

A template is code with holes for the path of the crate with `Sampleable` and for the name of the
builder. Code is `Templated` if it is one template filled in, whatever the path and the name are,
and if all that the template fixes are words of the generator and identifiers that the declaration
itself brings. This is kept by everything that code is put together with, so a piece of generated
code has it if its parts have.
-/

namespace Specimen

open Token

/-- There is a separator in front of the last piece, unless it is the only one. -/
theorem separated_concat (sep : List Token) (xs : List (List Token)) (x : List Token) :
    separated sep (xs ++ [x]) = separated sep xs ++ (if xs.isEmpty then [] else sep) ++ x := by
  induction xs with
  | nil => simp [separated]
  | cons y ys ih =>
    cases ys with
    | nil => simp [separated]
    | cons z zs =>
      rw [List.cons_append, List.cons_append, separated_cons_cons, separated_cons_cons,
        ← List.cons_append, ih]
      simp

/-- A name behind a path that is not empty. -/
theorem Path.join_tokens {p : Path} (h : p.segments ≠ []) (name : String) :
    (p.join name).tokens = p.tokens ++ sym "::" ++ [ident name] := by
  have hlast : Segment.tokensEach (p.segments ++ [.plain name]) =
      Segment.tokensEach p.segments ++ [[ident name]] := by
    rw [Segment.tokensEach_eq_map, Segment.tokensEach_eq_map, List.map_append]
    simp [Segment.tokens]
  -- the separator is written only behind a path that has segments
  have hempty : (Segment.tokensEach p.segments).isEmpty = false := by
    rw [Segment.tokensEach_eq_map, List.isEmpty_map, List.isEmpty_eq_false_iff]
    exact h
  rw [tokens, tokens, join]
  show root p.rooted ++ separated _ (Segment.tokensEach (p.segments ++ _)) = _
  rw [hlast, separated_concat, hempty]
  simp

/-! ## Names that can be chosen -/

def Declaration.withNames (d : Declaration) (crate : Option Path) (builder : Option Ident) :
    Declaration :=
  { d with options := { d.options with crate, builder } }

def Context.withNames (cx : Context) (path : Path) (crate : Option Path) (builder : Option Ident) :
    Context :=
  { cx with crate := path, declaration := cx.declaration.withNames crate builder }

namespace Target

/-! ## Filling templates -/

inductive Slot where
  | token (t : Token)
  /-- The hole for a crate path, with the trait of that crate behind it. -/
  | sampleable
  /-- The hole for the name of a builder. -/
  | builder

abbrev Template := List Slot

/-- What stands in the place of a piece. -/
def Slot.fill (path : Path) (builder : String) : Slot → List Token
  | token t => [t]
  | Slot.sampleable => (path.join "Sampleable").tokens
  | Slot.builder => [ident builder]

namespace Template

def fill (t : Template) (path : Path) (builder : String) : List Token :=
  t.flatMap (Slot.fill path builder)

/-- Templates are filled piece by piece. -/
theorem fill_append (s t : Template) (path : Path) (builder : String) :
    fill (s ++ t) path builder = s.fill path builder ++ t.fill path builder :=
  List.flatMap_append

/-- Without holes there is nothing to fill. -/
theorem fill_tokens (ts : List Token) (path : Path) (builder : String) :
    fill (ts.map .token) path builder = ts := by
  rw [fill, List.flatMap_map]
  exact List.flatMap_singleton' ts

end Template

/-! ## What templates fix -/

/-- The words of generated code. -/
def vocabulary : List String :=
  ["Default", "FnOnce", "None", "Option", "PhantomData", "Self", "Some", "allow", "as",
   "automatically_derived", "builder", "cfg", "clippy", "configure", "core", "debug_assertions",
   "default", "doc", "fixture", "fixture_new", "fixture_with", "fn", "for", "impl", "let",
   "marker", "mut", "new", "non_snake_case", "ops", "option", "sample", "struct",
   "too_many_arguments", "unwrap_or_else", "where"]

/-- Code in which every identifier is a word of generated code. -/
inductive Spelled : List Token → Prop
  | nil : Spelled []
  | word {x : String} {ts : List Token} : x ∈ vocabulary → Spelled ts → Spelled (ident x :: ts)
  | lifetime {n : String} {ts : List Token} : Spelled ts → Spelled (.lifetime n :: ts)
  | punct {c : Char} {joint : Bool} {ts : List Token} :
    Spelled ts → Spelled (.punct c joint :: ts)
  | literal {text : String} {ts : List Token} : Spelled ts → Spelled (.literal text :: ts)
  | opening {d : Delimiter} {ts : List Token} : Spelled ts → Spelled (.opening d :: ts)
  | closing {d : Delimiter} {ts : List Token} : Spelled ts → Spelled (.closing d :: ts)

/-- Identifiers of spelled code are words of generated code, wherever they stand. -/
theorem Spelled.mem {ts : List Token} (h : Spelled ts) {x : String} (hx : ident x ∈ ts) :
    x ∈ vocabulary := by
  induction h with
  | nil => cases hx
  | word hword _ ih =>
    cases hx with
    | head => exact hword
    | tail _ hx => exact ih hx
  | lifetime _ ih | punct _ ih | literal _ ih | opening _ ih | closing _ ih =>
    cases hx with
    | tail _ hx => exact ih hx

/-- All identifiers that a template fixes are words of generated code or among `own`. -/
def Template.Fixes (t : Template) (own : List Token) : Prop :=
  ∀ x, .token (.ident x) ∈ t → x ∈ vocabulary ∨ .ident x ∈ own

/-- Two templates together fix what each of them does. -/
theorem Template.fixes_append {s t : Template} {own : List Token} (hs : s.Fixes own)
    (ht : t.Fixes own) : Template.Fixes (s ++ t) own := by
  intro x hx
  rcases List.mem_append.mp hx with hx | hx
  · exact hs x hx
  · exact ht x hx

/-- Code without holes fixes all of its identifiers. -/
theorem Template.fixes_tokens {ts own : List Token}
    (h : ∀ x, .ident x ∈ ts → x ∈ vocabulary ∨ .ident x ∈ own) :
    Template.Fixes (ts.map .token) own := by
  intro x hx
  obtain ⟨t, ht, heq⟩ := List.mem_map.mp hx
  rw [Slot.token.inj heq] at ht
  exact h x ht

/-- Pieces that each fix nothing else are separated by words in one template. -/
theorem Template.exists_separated {sep own : List Token} (hsep : Spelled sep)
    {ts : List Template} (h : ∀ t ∈ ts, t.Fixes own) :
    ∃ s : Template, s.Fixes own ∧ ∀ path builder,
      separated sep (ts.map (·.fill path builder)) = s.fill path builder := by
  have hfixes : Template.Fixes (sep.map .token) own := fixes_tokens fun _ hx => .inl (hsep.mem hx)
  -- on the templates, as `separated` goes through its pieces
  induction ts with
  | nil => exact ⟨[], fun _ hx => (List.not_mem_nil hx).elim, fun _ _ => rfl⟩
  | cons t ts ih =>
    cases ts with
    | nil => exact ⟨t, h t List.mem_cons_self, fun _ _ => rfl⟩
    | cons u us =>
      obtain ⟨s, hs, hfill⟩ := ih fun t' ht' => h t' (List.mem_cons_of_mem t ht')
      refine ⟨t ++ sep.map .token ++ s,
        fixes_append (fixes_append (h t List.mem_cons_self) hfixes) hs, fun path builder => ?_⟩
      rw [fill_append, fill_append, fill_tokens, ← hfill]
      rfl

/-! ## Code that fills a template -/

/-- Code is one template filled in, for all names that can be chosen for a declaration. -/
def Templated (own : List Token) (base : Context) (code : Context → List Token) : Prop :=
  ∃ t : Template, t.Fixes own ∧ ∀ path crate builder, code (base.withNames path crate builder) =
    t.fill path (base.declaration.withNames crate builder).builder

/-- Each of some pieces of code is a template filled in. -/
def TemplatedEach (own : List Token) (base : Context) (pieces : Context → List (List Token)) :
    Prop :=
  ∃ ts : List Template, (∀ t ∈ ts, t.Fixes own) ∧ ∀ path crate builder,
    pieces (base.withNames path crate builder) =
      ts.map (·.fill path (base.declaration.withNames crate builder).builder)

variable {own : List Token} {base : Context}

namespace Templated

variable {code code' : Context → List Token}

/-- Only contexts with the names of the base count. -/
theorem congr (h : Templated own base code)
    (heq : ∀ path crate builder, code' (base.withNames path crate builder) =
      code (base.withNames path crate builder)) : Templated own base code' := by
  obtain ⟨t, hfixes, hfill⟩ := h
  exact ⟨t, hfixes, fun path crate builder => (heq _ _ _).trans (hfill path crate builder)⟩

/-- Two templates for the same names are one template. -/
theorem append (h : Templated own base code) (h' : Templated own base code') :
    Templated own base fun cx => code cx ++ code' cx := by
  obtain ⟨t, hfixes, hfill⟩ := h
  obtain ⟨t', hfixes', hfill'⟩ := h'
  refine ⟨t ++ t', Template.fixes_append hfixes hfixes', fun path crate builder => ?_⟩
  rw [Template.fill_append, ← hfill, ← hfill']

theorem cons {x : Context → Token} (h : Templated own base fun cx => [x cx])
    (h' : Templated own base code) : Templated own base fun cx => x cx :: code cx :=
  h.append h'

/-- Code without a name that can be chosen, but with identifiers of either origin. -/
theorem known {ts : List Token} (h : ∀ x, .ident x ∈ ts → x ∈ vocabulary ∨ .ident x ∈ own) :
    Templated own base fun _ => ts :=
  ⟨ts.map .token, Template.fixes_tokens h, fun _ _ _ => (Template.fill_tokens ts _ _).symm⟩

/-- Code that is all words of the generator. -/
theorem words {ts : List Token} (h : Spelled ts) : Templated own base fun _ => ts :=
  known fun _ hx => .inl (h.mem hx)

/-- Code that the declaration brings. -/
theorem given {ts : List Token} (h : ts ⊆ own) : Templated own base fun _ => ts :=
  known fun _ hx => .inr (h hx)

/-- A single identifier of the declaration. -/
theorem name {x : String} (h : ident x ∈ own) : Templated own base fun _ => [ident x] :=
  given (List.cons_subset.mpr ⟨h, List.nil_subset _⟩)

/-- The name of the builder fills a hole. -/
theorem builder : Templated own base fun cx => [ident cx.declaration.builder] := by
  refine ⟨[.builder], ?_, fun _ _ _ => rfl⟩
  intro x hx
  cases List.mem_singleton.mp hx

/-- The crate path fills a hole wherever it leads to the trait. -/
theorem sampleable : Templated own base fun cx => (cx.crate.join "Sampleable").tokens := by
  refine ⟨[.sampleable], ?_, fun _ _ _ => (List.flatMap_singleton _ _).symm⟩
  intro x hx
  cases List.mem_singleton.mp hx

/-- Brackets bring no identifiers. -/
theorem group (d : Delimiter) (h : Templated own base code) :
    Templated own base fun cx => Token.group d (code cx) :=
  (cons (words (.opening .nil)) h).append (words (.closing .nil))

theorem parens (h : Templated own base code) :
    Templated own base fun cx => Token.parens (code cx) :=
  h.group .paren

theorem braces (h : Templated own base code) :
    Templated own base fun cx => Token.braces (code cx) :=
  h.group .brace

/-- A function is its name, its parameters and its body, with words around them. -/
theorem fnTokens {name : String} (hname : name ∈ vocabulary) (h : Templated own base code)
    (h' : Templated own base code') :
    Templated own base fun cx => fnTokens name (code cx) (code' cx) := by
  have hfn : Spelled (Token.words ["fn", name]) :=
    .word (by repeat constructor) (.word hname .nil)
  refine ((((words hfn).append h.parens).append (words ?_)).append (words ?_)).append h'.braces
  all_goals repeat constructor

end Templated

namespace TemplatedEach

variable {pieces pieces' : Context → List (List Token)}

theorem append (h : TemplatedEach own base pieces) (h' : TemplatedEach own base pieces') :
    TemplatedEach own base fun cx => pieces cx ++ pieces' cx := by
  obtain ⟨ts, hfixes, hfill⟩ := h
  obtain ⟨ts', hfixes', hfill'⟩ := h'
  refine ⟨ts ++ ts', ?_, fun path crate builder => ?_⟩
  · intro t ht
    exact (List.mem_append.mp ht).elim (hfixes t) (hfixes' t)
  · rw [List.map_append, ← hfill, ← hfill']

/-- One template for each element, since the elements do not depend on the names. -/
theorem map {α : Type} {xs : List α} {write : α → Context → List Token}
    (h : ∀ x ∈ xs, Templated own base (write x)) :
    TemplatedEach own base fun cx => xs.map (write · cx) := by
  induction xs with
  | nil => exact ⟨[], List.forall_mem_nil _, fun _ _ _ => rfl⟩
  | cons x xs ih =>
    obtain ⟨t, hfixes, hfill⟩ := h x List.mem_cons_self
    obtain ⟨ts, hfixes', hfill'⟩ := ih fun y hy => h y (List.mem_cons_of_mem x hy)
    refine ⟨t :: ts, List.forall_mem_cons.mpr ⟨hfixes, hfixes'⟩, fun path crate builder => ?_⟩
    exact congrArg₂ List.cons (hfill path crate builder) (hfill' path crate builder)

/-- Pieces with a separator of words are one template. -/
theorem separated {sep : List Token} (hsep : Spelled sep) (h : TemplatedEach own base pieces) :
    Templated own base fun cx => Token.separated sep (pieces cx) := by
  obtain ⟨ts, hfixes, hfill⟩ := h
  obtain ⟨s, hs, hseparated⟩ := Template.exists_separated hsep hfixes
  refine ⟨s, hs, fun path crate builder => ?_⟩
  exact (congrArg (Token.separated sep) (hfill path crate builder)).trans (hseparated path _)

/-- Whether there are any pieces does not depend on the names. -/
theorem orNothing {code : Context → List Token} (h : TemplatedEach own base pieces)
    (hcode : Templated own base code) :
    Templated own base fun cx => if (pieces cx).isEmpty then [] else code cx := by
  obtain ⟨ts, -, hfill⟩ := h
  have hempty (path crate builder) :
      (pieces (base.withNames path crate builder)).isEmpty = ts.isEmpty := by
    rw [hfill, List.isEmpty_map]
  cases hts : ts.isEmpty with
  | true =>
    refine Templated.congr (.words .nil) fun path crate builder => ?_
    rw [hempty, hts]
    rfl
  | false =>
    refine hcode.congr fun path crate builder => ?_
    rw [hempty, hts]
    rfl

/-- So are pieces that end in a separator, as long as there are any. -/
theorem punctuated {sep : List Token} (hsep : Spelled sep) (h : TemplatedEach own base pieces)
    (trailing : Bool) : Templated own base fun cx => Token.punctuated sep (pieces cx) trailing := by
  refine (h.separated hsep).append ?_
  cases trailing with
  | false => exact .words .nil
  | true =>
    refine (h.orNothing (.words hsep)).congr fun path crate builder => ?_
    cases (pieces (base.withNames path crate builder)).isEmpty <;> rfl

theorem commaSeparated (h : TemplatedEach own base pieces) :
    Templated own base fun cx => Token.commaSeparated (pieces cx) :=
  h.separated (by repeat constructor)

theorem commaTerminated (h : TemplatedEach own base pieces) :
    Templated own base fun cx => Token.commaTerminated (pieces cx) := by
  simp only [commaTerminated_eq_punctuated]
  exact h.punctuated (by repeat constructor) true

end TemplatedEach

end Target
end Specimen
