import Mathlib.Data.List.Forall2
import Specimen.Sample

/-!
# Which types have samples

Samples are looked up by the written form of a type: names and arguments are read first, and what
they come to has a sample or not. `Samples` is the table of rules that this implements, one for each
kind of type; in it a type is related to its sample without anything being read. `sample?_iff` says
that the two agree on every type that is built from the known ones and from types without a sample.
-/

namespace Specimen

open SampleType (ofTy ofTys ofSegments ofSegment ofName ofGeneric ofArgs samples?)

/-! ## Rules -/

def Ty.generic (name : String) (args : List Ty) : Ty :=
  .path false [.angled name false (args.map .type) false]

/-- The length of an array in decimal digits. -/
def Piece.ofLength (n : Nat) : List Piece := Piece.ofTokens [.literal (toString n)]

/-- The types without parameters, and their samples. -/
def leafSamples : List (String × SampleValue) :=
  ["i8", "i16", "i32", "i64", "i128", "isize",
    "u8", "u16", "u32", "u64", "u128", "usize"].map (·, .zero) ++
  ["f32", "f64"].map (·, .zeroPoint) ++
  [("bool", .no), ("char", .letter), ("String", .emptyText), ("Duration", .noTime)]

/-- The containers, how many arguments they take, and the empty one of each. -/
def emptyContainers : List (String × Nat × SampleValue) :=
  [("Option", 1, .none), ("Vec", 1, .emptyList), ("VecDeque", 1, .emptyList),
    ("BTreeSet", 1, .emptySet), ("HashSet", 1, .emptySet),
    ("BTreeMap", 2, .emptySet), ("HashMap", 2, .emptySet)]

def wrappers : List String := ["Box", "Rc", "Arc"]

/-- The names that stand for a type with a sample, at least for some arguments. -/
def implementedNames : List String :=
  leafSamples.map (·.1) ++ emptyContainers.map (·.1) ++ wrappers ++ ["PhantomData", "BinaryHeap"]

/-- A value is the sample of a type. Containers and markers need nothing of their arguments;
wrappers, arrays and tuples need samples of all their parts. -/
inductive Samples : Ty → SampleValue → Prop where
  | leaf {name : String} {v : SampleValue} (h : (name, v) ∈ leafSamples) : Samples (.named name) v
  | unit (trailing : Bool) : Samples (.tuple [] trailing) .unit
  | text : Samples (.reference none false (.named "str")) .emptyText
  | container {name : String} {args : List Ty} {v : SampleValue}
      (h : (name, args.length, v) ∈ emptyContainers) : Samples (.generic name args) v
  | marker (ty : Ty) :
      Samples (.generic "PhantomData" [ty]) (.marker (SampleType.displayName ty.tokens))
  | wrapper {name : String} {content : Ty} {v : SampleValue} (h : name ∈ wrappers)
      (hcontent : Samples content v) : Samples (.generic name [content]) v
  | array {element : Ty} {v : SampleValue} (n : Nat) (h : Samples element v) :
      Samples (.array element (Piece.ofLength n)) (.array (List.replicate n v))
  | tuple {elements : List Ty} {vs : List SampleValue} (trailing : Bool)
      (hcount : 1 ≤ elements.length ∧ elements.length ≤ 12) (hlength : elements.length = vs.length)
      (h : ∀ e v, (e, v) ∈ elements.zip vs → Samples e v) :
      Samples (.tuple elements trailing) (.tuple vs)
  | paren {inner : Ty} {v : SampleValue} (h : Samples inner v) : Samples (.paren inner) v

/-- A type that has no sample whatever it is made of. A path that ends with none of the known names
counts as a type of somebody else without one. -/
inductive Unimplemented : Ty → Prop where
  | path {rooted : Bool} {segments : List Segment} {last : Segment}
      (hlast : segments.getLast? = some last) (hname : last.name ∉ implementedNames) :
      Unimplemented (.path rooted segments)
  | reference {region : Option String} {mutable : Bool} {target : Ty}
      (h : mutable = true ∨ ∀ rooted, target ≠ .path rooted [.plain "str"]) :
      Unimplemented (.reference region mutable target)
  | pointer (mutable : Bool) (target : Ty) : Unimplemented (.pointer mutable target)
  | slice (element : Ty) : Unimplemented (.slice element)
  | function (binder : List Piece) (qualifiers : List Token) (params : List FnParam)
      (trailing : Bool) (variadic : List Piece) (output : Option Ty) :
      Unimplemented (.function binder qualifiers params trailing variadic output)
  | bounds (keyword : BoundsKeyword) (list : List Bound) (trailing : Bool) :
      Unimplemented (.bounds keyword list trailing)
  | never : Unimplemented .never

/-- A type built from the known ones and from types without a sample, to any depth. -/
inductive Standard : Ty → Prop where
  | leaf {name : String} {v : SampleValue} (h : (name, v) ∈ leafSamples) : Standard (.named name)
  | text : Standard (.reference none false (.named "str"))
  | container {name : String} {args : List Ty} {v : SampleValue}
      (h : (name, args.length, v) ∈ emptyContainers) : Standard (.generic name args)
  | marker (ty : Ty) : Standard (.generic "PhantomData" [ty])
  | wrapper {name : String} {content : Ty} (h : name ∈ wrappers) (hcontent : Standard content) :
      Standard (.generic name [content])
  | array {element : Ty} (n : Nat) (h : Standard element) :
      Standard (.array element (Piece.ofLength n))
  | tuple {elements : List Ty} (trailing : Bool) (h : ∀ e ∈ elements, Standard e) :
      Standard (.tuple elements trailing)
  | paren {inner : Ty} (h : Standard inner) : Standard (.paren inner)
  | unimplemented {ty : Ty} (h : Unimplemented ty) : Standard ty

/-! ## Lengths -/

namespace Literal

/-- A decimal digit has the value that its code point says, and is none of the gaps between
digits. -/
theorem hexValue?_of_isDigit {c : Char} (h : c.isDigit = true) :
    hexValue? c = some (c.toNat - '0'.toNat) ∧ c.toNat - '0'.toNat < 10 ∧ c ≠ '_' := by
  have hrange : '0' ≤ c ∧ c ≤ '9' := by
    simpa [Char.isDigit, Char.le_def] using h
  have hupper : c.toNat ≤ '9'.toNat := hrange.2
  refine ⟨by rw [hexValue?, if_pos hrange], ?_, ?_⟩
  · have hnine : '9'.toNat - '0'.toNat = 9 := rfl
    omega
  · rintro rfl
    simp [Char.isDigit] at h

/-- Digits have the value that they have for the standard library. -/
theorem digitsValue_of_isDigit {cs : List Char} (h : ∀ c ∈ cs, c.isDigit = true) (value : Nat) :
    digitsValue 10 value cs = Nat.ofDigitChars 10 cs value := by
  induction cs generalizing value with
  | nil => rfl
  | cons c cs ih =>
    rw [List.forall_mem_cons] at h
    obtain ⟨hvalue, hlt, hgap⟩ := hexValue?_of_isDigit h.1
    rw [Nat.ofDigitChars_cons, ← ih h.2, digitsValue]
    · simp only [hvalue, hlt, if_true]
    · exact hgap

/-- Digits alone are read in base ten. -/
theorem wholeValue_of_isDigit {cs : List Char} (h : ∀ c ∈ cs, c.isDigit = true) :
    wholeValue cs = Nat.ofDigitChars 10 cs 0 := by
  rw [← digitsValue_of_isDigit h, wholeValue]
  -- the prefixes of the other bases hold a letter
  · rintro cs rfl
    simp [Char.isDigit] at h
  · rintro cs rfl
    simp [Char.isDigit] at h
  · rintro cs rfl
    simp [Char.isDigit] at h

end Literal

namespace SampleType

/-- A length in decimal digits is read back as the number that was written. -/
theorem length?_ofLength (n : Nat) : length? (Piece.ofLength n) = some n := by
  have hdigits : ∀ c ∈ (toString n).toList, c.isDigit = true := by
    rw [Nat.toString_eq_ofList_toDigits, String.toList_ofList]
    exact fun c hc => Nat.isDigit_of_mem_toDigits (by decide) (by decide) hc
  have hvalue : Literal.wholeValue (toString n).toList = n := by
    rw [Literal.wholeValue_of_isDigit hdigits, Nat.toString_eq_ofList_toDigits,
      String.toList_ofList, Nat.ofDigitChars_ten_toDigits]
  -- zero has a digit too, so there is one to start with
  have hhead : (toString n).toList.head?.any Char.isDigit = true := by
    cases hcs : (toString n).toList with
    | nil =>
      rw [Nat.toString_eq_ofList_toDigits, String.toList_ofList] at hcs
      exact absurd hcs Nat.toDigits_ne_nil
    | cons c cs => exact hdigits c (hcs ▸ List.mem_cons_self)
  show (if (toString n).toList.head?.any Char.isDigit = true then _ else _) = _
  rw [if_pos hhead, hvalue]

/-! ## Reading -/

theorem ofTys_eq_map (ts : List Ty) : ofTys ts = ts.map ofTy := by
  induction ts with
  | nil => rw [ofTys, List.map_nil]
  | cons t ts ih => rw [ofTys, ih, List.map_cons]

theorem ofArgs_types (ts : List Ty) : ofArgs (ts.map .type) = ts.map ofTy := by
  induction ts with
  | nil => rw [List.map_nil, ofArgs, List.map_nil]
  | cons t ts ih => rw [List.map_cons, ofArgs, ih, List.map_cons]

/-- A single name is looked up as it is. -/
theorem ofTy_named (name : String) : ofTy (.named name) = ofName name := by
  rw [Ty.named, ofTy, ofSegments, ofSegment]

/-- A container is looked up by its name, with its arguments read already. -/
theorem ofTy_generic {name : String} (h : name ≠ "PhantomData") (args : List Ty) :
    ofTy (.generic name args) = ofGeneric name (args.map ofTy) := by
  rw [Ty.generic, ofTy, ofSegments, ofSegment, ofArgs_types]
  intro a hname
  exact absurd hname h

/-- A marker keeps the text of its argument, which is not looked up at all. -/
theorem ofTy_marker (ty : Ty) :
    ofTy (.generic "PhantomData" [ty]) = .marker (displayName ty.tokens) := by
  rw [Ty.generic, ofTy, ofSegments, List.map_cons, List.map_nil, ofSegment, Arg.tokens]

theorem ofTy_array (element : Ty) (n : Nat) :
    ofTy (.array element (Piece.ofLength n)) = array (ofTy element) n := by
  rw [ofTy, length?_ofLength]

/-- The empty tuple has an equation of its own. -/
theorem ofTy_tuple {elements : List Ty} (h : elements ≠ []) (trailing : Bool) :
    ofTy (.tuple elements trailing) = tuple (elements.map ofTy) := by
  rw [ofTy, ofTys_eq_map]
  exact h

/-- What a path stands for is decided by its last segment: `std::vec::Vec` and `Vec` are one. -/
theorem ofSegments_eq_ofSegment {segments : List Segment} {last : Segment}
    (h : segments.getLast? = some last) : ofSegments segments = ofSegment last := by
  induction segments with
  | nil => simp at h
  | cons s ss ih =>
    -- the recursion looks one segment ahead, so the tail is split once more
    cases ss with
    | nil =>
      rw [List.getLast?_singleton, Option.some.injEq] at h
      rw [ofSegments, h]
    | cons s' ss =>
      rw [List.getLast?_cons_cons] at h
      rw [ofSegments, ih h]

/-- The samples of some types are those of each of them, in their order. -/
theorem samples?_eq_some {ts : List SampleType} {vs : List SampleValue} :
    samples? ts = some vs ↔ List.Forall₂ (fun t v => t.sample? = some v) ts vs := by
  induction ts generalizing vs with
  | nil =>
    rw [samples?, List.forall₂_nil_left_iff, Option.some.injEq]
    exact eq_comm
  | cons t ts ih =>
    -- a list succeeds when its head does and its tail does
    rw [samples?, List.forall₂_cons_left_iff]
    simp only [← ih, Option.bind_eq_bind, Option.bind_eq_some_iff, Option.pure_def,
      Option.some.injEq]
    constructor
    · rintro ⟨v, hv, vs', hvs, rfl⟩
      exact ⟨v, vs', hv, hvs, rfl⟩
    · rintro ⟨v, vs', hv, hvs, rfl⟩
      exact ⟨v, hv, vs', hvs, rfl⟩

/-! ## What the names stand for -/

/-- Each row of the table of names is what the lookup gives. -/
theorem sample?_ofName {name : String} {v : SampleValue} (h : (name, v) ∈ leafSamples) :
    (ofName name).sample? = some v := by
  have hall : ∀ p ∈ leafSamples, (ofName p.1).sample? = some p.2 := by
    simp [leafSamples, ofName, sample?]
  exact hall (name, v) h

/-- Each row of the table of containers is what the lookup gives, whatever the arguments are. -/
theorem sample?_ofGeneric {name : String} {args : List SampleType} {v : SampleValue}
    (h : (name, args.length, v) ∈ emptyContainers) :
    (ofGeneric name args).sample? = some v := by
  -- the table has rows for one and for two arguments
  match args, h with
  | [], h => simp [emptyContainers] at h
  | [e], h =>
    simp [emptyContainers] at h
    obtain ⟨rfl, rfl⟩ | ⟨rfl, rfl⟩ | ⟨rfl, rfl⟩ | ⟨rfl, rfl⟩ | ⟨rfl, rfl⟩ := h <;> rfl
  | [k, v], h =>
    simp [emptyContainers] at h
    obtain ⟨rfl, rfl⟩ | ⟨rfl, rfl⟩ := h <;> rfl
  | _ :: _ :: _ :: _, h => simp [emptyContainers] at h

/-- The three pointers are read alike: only their content matters. -/
theorem ofTy_wrapper {name : String} (h : name ∈ wrappers) (content : Ty) :
    ofTy (.generic name [content]) = wrapper (ofTy content) := by
  simp only [wrappers, List.mem_cons, List.not_mem_nil, or_false] at h
  obtain rfl | rfl | rfl := h <;> rw [ofTy_generic (by decide)] <;> rfl

theorem ofName_eq_other {name : String} (h : name ∉ implementedNames) :
    ofName name = other := by
  simp [implementedNames, leafSamples, emptyContainers, wrappers] at h
  simp [ofName, h]

theorem ofGeneric_eq_other {name : String} (h : name ∉ implementedNames)
    (args : List SampleType) : ofGeneric name args = other := by
  rw [ofGeneric]
  -- each of the other equations is about a name of the table
  all_goals
    intros
    subst name
    exact absurd (by decide) h

/-- Another name stands for a type without a sample, with arguments or without. -/
theorem ofSegment_eq_other {last : Segment} (h : last.name ∉ implementedNames) :
    ofSegment last = other := by
  -- parenthesised arguments are never a known container, whatever the name
  cases last with
  | plain name =>
    rw [Segment.name] at h
    rw [ofSegment, ofName_eq_other h]
  | angled name turbofish args trailing =>
    rw [Segment.name] at h
    rw [ofSegment, ofGeneric_eq_other h]
    rintro a rfl
    exact absurd (by decide) h
  | called name inputs trailing output => rw [ofSegment]

/-- A type of somebody else is read as one that nothing is known of. -/
theorem ofTy_eq_other {ty : Ty} (h : Unimplemented ty) : ofTy ty = other := by
  cases h with
  | path hlast hname => rw [ofTy, ofSegments_eq_ofSegment hlast, ofSegment_eq_other hname]
  | reference h =>
    rw [ofTy] <;> grind
  | _ => rw [ofTy] <;> nofun

end SampleType

/-! ## Samples by the rules -/

theorem Unimplemented.sample?_eq_none {ty : Ty} (h : Unimplemented ty) :
    (ofTy ty).sample? = none := by
  rw [SampleType.ofTy_eq_other h, SampleType.sample?]

/-- A sample by the rules is the one that is found. -/
theorem Samples.sample?_eq {ty : Ty} {v : SampleValue} (h : Samples ty v) :
    (ofTy ty).sample? = some v := by
  induction h with
  | leaf h => rw [SampleType.ofTy_named, SampleType.sample?_ofName h]
  | unit trailing => rw [ofTy, SampleType.sample?]
  | text => rw [Ty.named, ofTy, SampleType.sample?]
  | @container name args v h =>
    -- markers are read before the containers, whose arguments do not go by their text
    have hname : name ≠ "PhantomData" := by
      rintro rfl
      simp [emptyContainers] at h
    rw [SampleType.ofTy_generic hname, SampleType.sample?_ofGeneric]
    rwa [List.length_map]
  | marker ty => rw [SampleType.ofTy_marker, SampleType.sample?]
  | wrapper h _ ih => rw [SampleType.ofTy_wrapper h, SampleType.sample?, ih]
  | array n _ ih => rw [SampleType.ofTy_array, SampleType.sample?, ih, Option.map_some]
  | @tuple elements vs trailing hcount hlength _ ih =>
    have hne : elements ≠ [] := List.ne_nil_of_length_pos hcount.1
    have hparts : SampleType.samples? (elements.map ofTy) = some vs := by
      rw [SampleType.samples?_eq_some, List.forall₂_map_left_iff, List.forall₂_iff_zip]
      exact ⟨hlength, fun hmem => ih _ _ hmem⟩
    rw [SampleType.ofTy_tuple hne, SampleType.sample?, List.length_map, SampleType.maxTuple,
      if_pos hcount, hparts, Option.map_some]
  | paren _ ih => rwa [ofTy]

/-- A type has at most one sample. -/
theorem Samples.of_sample? {ty : Ty} {u v : SampleValue} (h : Samples ty u)
    (hv : (ofTy ty).sample? = some v) : Samples ty v := by
  have hsame : u = v := Option.some.inj (h.sample?_eq.symm.trans hv)
  exact hsame ▸ h

/-- What is found for a type built from the known ones is a sample by the rules. -/
theorem Standard.samples {ty : Ty} (h : Standard ty) {v : SampleValue}
    (hv : (ofTy ty).sample? = some v) : Samples ty v := by
  induction h generalizing v with
  | leaf h => exact (Samples.leaf h).of_sample? hv
  | text => exact Samples.text.of_sample? hv
  | container h => exact (Samples.container h).of_sample? hv
  | marker ty => exact (Samples.marker ty).of_sample? hv
  | wrapper h _ ih =>
    rw [SampleType.ofTy_wrapper h, SampleType.sample?] at hv
    exact .wrapper h (ih hv)
  | array n _ ih =>
    rw [SampleType.ofTy_array, SampleType.sample?, Option.map_eq_some_iff] at hv
    obtain ⟨u, hu, rfl⟩ := hv
    exact .array n (ih hu)
  | @tuple elements trailing _ ih =>
    -- no elements at all are the unit, which is not in reach of the bounds on tuples
    by_cases hne : elements = []
    · subst hne
      exact (Samples.unit trailing).of_sample? hv
    rw [SampleType.ofTy_tuple hne, SampleType.sample?, Option.ite_none_right_eq_some,
      Option.map_eq_some_iff, List.length_map] at hv
    obtain ⟨hcount, vs, hparts, rfl⟩ := hv
    rw [SampleType.samples?_eq_some, List.forall₂_map_left_iff, List.forall₂_iff_zip] at hparts
    obtain ⟨hlength, hparts⟩ := hparts
    exact .tuple trailing hcount hlength fun e v hmem =>
      ih e (List.of_mem_zip hmem).1 (hparts hmem)
  | paren _ ih =>
    rw [ofTy] at hv
    exact .paren (ih hv)
  | unimplemented h =>
    rw [h.sample?_eq_none] at hv
    exact absurd hv nofun

/-- **Built-in samples.** For a type that is built from known ones and from types without a sample,
to any depth, the sample that is found is the one of the rules. Where they give none, none is
found. -/
theorem sample?_iff {ty : Ty} (h : Standard ty) (v : SampleValue) :
    (ofTy ty).sample? = some v ↔ Samples ty v :=
  ⟨h.samples, Samples.sample?_eq⟩

/-- `([Box<u8>; 2], Vec<Cell<u8>>)`: the boxes are filled, and the list needs no cell. -/
theorem boxes_beside_cells :
    let byte : Ty := .named "u8"
    let ty : Ty := .tuple [.array (.generic "Box" [byte]) (Piece.ofLength 2),
      .generic "Vec" [.generic "Cell" [byte]]] false
    Standard ty ∧
      (ofTy ty).sample? = some (.tuple [.array [.zero, .zero], .emptyList]) := by
  intro byte ty
  have hbyte : ("u8", .zero) ∈ leafSamples := by simp [leafSamples]
  have hvec : ("Vec", 1, .emptyList) ∈ emptyContainers := by simp [emptyContainers]
  -- the type is built up by the rules, from the leaves outwards
  have hstandard : Standard ty := by
    refine .tuple false fun e he => ?_
    rw [List.mem_pair] at he
    obtain rfl | rfl := he
    · exact .array 2 (.wrapper (by decide) (.leaf hbyte))
    · exact .container hvec
  refine ⟨hstandard, (sample?_iff hstandard _).mpr (.tuple false ⟨by decide, by decide⟩ rfl ?_)⟩
  -- each element's sample is again an instance of the rules
  intro e v hmem
  simp only [List.zip_cons_cons, List.zip_nil_right, List.mem_cons, Prod.mk.injEq, List.not_mem_nil,
    or_false] at hmem
  obtain ⟨rfl, rfl⟩ | ⟨rfl, rfl⟩ := hmem
  · exact .array 2 (.wrapper (by decide) (.leaf hbyte))
  · exact .container hvec

/-- `[Cell<u8>; 0]` has no sample, though none of its elements would be needed. -/
example : (ofTy (.array (.generic "Cell" [.named "u8"]) (Piece.ofLength 0))).sample? = none := by
  rfl

end Specimen
