import Specimen.Proofs.Lowering

/-!
# What readers give

Whatever a reader is run on, its results have the properties that its parts see to. `Gives` is that
kind of property, with one lemma for each way to build readers out of others. So nothing but the
modifiers that `Modifier.Readable` describes comes from source, neither in an item
(`Grammar.gives_item`) nor in its options (`readOptions_enclosing`), and no type or const parameter
is called `Self` (`Grammar.gives_paramList`).
-/

namespace Specimen

namespace Reader

variable {α β : Type}

/-- One reader after another gives a result if the first gives one and the second does behind it. -/
theorem bind_eq_ok {p : Reader α} {f : α → Reader β} {c : Cursor} {r : β × Cursor} :
    (p >>= f) c = .ok r ↔ ∃ a c', p c = .ok (a, c') ∧ f a c' = .ok r := by
  -- the state of a reader is threaded by hand: a cursor goes in and comes out
  show p c >>= (fun found => f found.1 found.2) = .ok r ↔ _
  cases p c with
  | error fault => simp [Bind.bind, Except.bind]
  | ok found =>
    constructor
    · intro h
      exact ⟨found.1, found.2, rfl, h⟩
    · rintro ⟨a, c', hfound, h⟩
      rw [Except.ok.inj hfound]
      exact h

/-- A reader that is known to succeed is taken as run. -/
theorem bind_run {p : Reader α} {f : α → Reader β} {c c' : Cursor} {a : α}
    (h : p c = .ok (a, c')) : (p >>= f) c = f a c' := by
  show p c >>= (fun found => f found.1 found.2) = _
  rw [h]
  rfl

/-- To give a value is to read nothing. -/
theorem pure_eq_ok {a b : α} {c c' : Cursor} :
    (Pure.pure a : Reader α) c = .ok (b, c') ↔ a = b ∧ c = c' := by
  show Except.ok (a, c) = .ok (b, c') ↔ _
  simp

theorem sees_run (test : List Tree → Bool) (c : Cursor) : sees test c = .ok (test c.rest, c) := rfl

/-- An item of a list with separators, and whether a separator follows. -/
def element? (separator : String) (stop : List Tree → Bool) (item : Reader α) :
    Reader (Option (α × Bool)) := do
  if ← sees stop then return none
  let a ← item
  return some (a, ← sym? separator)

/-- A list with separators as a loop over its items. The last one says whether it ends in one. -/
theorem separatedBy_eq (separator : String) (stop : List Tree → Bool) (item : Reader α) :
    separatedBy separator stop item = do
      let found ← separatedBy.collect (element? separator stop item) ((← ahead).length + 1)
      return (found.map (·.1), found.getLast?.any (·.2)) := rfl

/-- All results of a reader have a property. -/
def Gives (p : Reader α) (P : α → Prop) : Prop := ∀ c a c', p c = .ok (a, c') → P a

namespace Gives

variable {p : Reader α} {f : α → Reader β} {P : α → Prop} {Q : β → Prop}

theorem pure {a : α} (h : P a) : Gives (Pure.pure a) P := by
  intro c b c' hrun
  obtain ⟨rfl, -⟩ := pure_eq_ok.mp hrun
  exact h

/-- What the first reader gives is known to the second. -/
theorem bind (hp : Gives p P) (hf : ∀ a, P a → Gives (f a) Q) : Gives (p >>= f) Q := by
  intro c b c'' hrun
  obtain ⟨a, c', ha, hb⟩ := bind_eq_ok.mp hrun
  exact hf a (hp c a c' ha) c' b c'' hb

-- what is read first may be anything
theorem after (hf : ∀ a, Gives (f a) Q) : Gives (p >>= f) Q := by
  intro c b c'' hrun
  obtain ⟨a, c', -, hb⟩ := bind_eq_ok.mp hrun
  exact hf a c' b c'' hb

/-- A weaker property is given as well. -/
theorem mono {P' : α → Prop} (hp : Gives p P) (h : ∀ a, P a → P' a) : Gives p P' :=
  fun c a c' hrun => h a (hp c a c' hrun)

/-- A reader that only complains gives results of any kind. -/
theorem failWith (cause : FaultCause) : Gives (Reader.failWith cause) P := by
  intro c a c' hrun
  unfold Reader.failWith at hrun
  split at hrun <;> simp at hrun

theorem map {g : α → β} (hp : Gives p fun a => Q (g a)) : Gives (g <$> p) Q := by
  intro c b c' hrun
  rw [map_eq_pure_bind] at hrun
  exact hp.bind (fun a ha => Gives.pure ha) c b c' hrun

theorem inGroup (hp : Gives p P) (d : Delimiter) : Gives (Reader.inGroup d p) P := by
  intro c a c' hrun
  -- a success comes out of the group's own trees; every other branch fails
  unfold Reader.inGroup at hrun
  split at hrun
  · split at hrun
    · split at hrun
      · simp at hrun
      · next found inner heq =>
        obtain ⟨rfl, -⟩ := Prod.mk.inj (Except.ok.inj hrun)
        exact hp _ _ _ heq
    · exact failWith _ c a c' hrun
  · exact failWith _ c a c' hrun

/-- Where something stands does not change what it is. -/
theorem located (hp : Gives p P) : Gives (Reader.located p) fun r => P r.1 := by
  refine bind (P := fun r => P r.1) ?_ fun r hr => Gives.pure hr
  exact after fun _ => hp.bind fun a ha => after fun _ => Gives.pure ha

/-! ### Repetition -/

/-- An item is read only where the list goes on, which may be needed to know what it is. -/
theorem element? {stop : List Tree → Bool}
    (hp : ∀ c a c', stop c.rest = false → p c = .ok (a, c') → P a) (separator : String) :
    Gives (Reader.element? separator stop p) fun found? => ∀ x ∈ found?, P x.1 := by
  intro c found? c' hrun
  -- the stop test looks and takes nothing, so what it saw holds where `p` starts
  rw [Reader.element?, bind_run (sees_run stop c)] at hrun
  split at hrun
  · obtain ⟨rfl, -⟩ := pure_eq_ok.mp hrun
    simp
  · next hgoes =>
    obtain ⟨a, c₂, ha, hrun⟩ := bind_eq_ok.mp hrun
    obtain ⟨more, c₃, -, hrun⟩ := bind_eq_ok.mp hrun
    obtain ⟨rfl, -⟩ := pure_eq_ok.mp hrun
    intro x hx
    obtain rfl := Option.some.inj hx
    exact hp c a c₂ (Bool.eq_false_iff.mpr hgoes) ha

/-- All items of a list were read where it goes on. -/
theorem collect {stop : List Tree → Bool}
    (hp : ∀ c a c', stop c.rest = false → p c = .ok (a, c') → P a) (separator : String)
    (fuel : Nat) :
    Gives (separatedBy.collect (Reader.element? separator stop p) fuel) fun found =>
      ∀ x ∈ found, P x.1 := by
  -- on the fuel, of which each item uses up one
  induction fuel with
  | zero => exact Gives.pure (by simp)
  | succ fuel ih =>
    refine (Gives.element? hp separator).bind fun found? hfound => ?_
    -- the list ends, or goes on after a separator, or ends with an item without one
    match found? with
    | none => exact Gives.pure (by simp)
    | some (a, true) =>
      refine ih.bind fun rest hrest => Gives.pure ?_
      exact List.forall_mem_cons.mpr ⟨hfound _ rfl, hrest⟩
    | some (a, false) =>
      refine Gives.pure ?_
      exact List.forall_mem_cons.mpr ⟨hfound _ rfl, by simp⟩

/-- An item of a list is only read where the list does not stop. -/
theorem separatedBy {stop : List Tree → Bool}
    (hp : ∀ c a c', stop c.rest = false → p c = .ok (a, c') → P a) (separator : String) :
    Gives (Reader.separatedBy separator stop p) fun r => ∀ a ∈ r.1, P a := by
  refine after fun trees => (collect hp separator _).bind fun found hfound => Gives.pure ?_
  intro a ha
  obtain ⟨x, hx, rfl⟩ := List.mem_map.mp ha
  exact hfound x hx

/-- The list fills its brackets, or else there is a complaint and no result. -/
theorem commaList (hp : Gives p P) : Gives (Reader.commaList p) fun r => ∀ a ∈ r.1, P a := by
  refine (separatedBy (fun c a c' _ => hp c a c') ",").bind fun r hr => after fun done => ?_
  split
  · exact Gives.pure hr
  · intro c a c' hrun
    simp [expectedSym] at hrun

end Gives

/-- Whatever is read from a text was read by the rule for it. -/
theorem readWith_gives {rule : Rules → Reader α} {P : α → Prop} (hrule : ∀ g, Gives (rule g) P)
    {source : String} {a : α} (h : readWith rule source = some a) : P a := by
  unfold readWith at h
  -- the text has to be split into tokens, read by the rule, and used up
  split at h
  · simp at h
  · next trees _ =>
    unfold runAll at h
    split at h
    · simp [Except.toOption] at h
    · next found c hrun =>
      split at h
      · simp [Except.toOption] at h
      · obtain rfl : found = a := by simpa [Except.toOption] using h
        exact hrule _ _ _ _ hrun

end Reader

/-! ## Modifiers -/

/-- Whether a word may stand in the path of a modifier. -/
def pathWord (name : String) : Bool :=
  !Reader.reserved.contains name || ["super", "self", "Self", "crate"].contains name

/-- A modifier that can be read: without `in` there is one keyword in the parentheses, and with `in`
a path of words. -/
def Modifier.Readable : Modifier → Prop
  | inherited => True
  | pub => True
  | restricted false rooted names => rooted = false ∧ ∃ w ∈ ["crate", "self", "super"], names = [w]
  | restricted true _ names => names ≠ [] ∧ ∀ n ∈ names, pathWord n = true

/-- The names of a path are those that it was made of. -/
theorem Path.map_name_ofNames (rooted : Bool) (names : List String) :
    (Path.ofNames rooted names).segments.map Segment.name = names := by
  simp [Path.ofNames, Function.comp_def, Segment.name]

namespace Grammar

open Reader

/-- Any word will do, be it a keyword or not; anything else is complained about. -/
theorem anyWord_run (c : Cursor) :
    anyWord c =
      match c.rest with
      | .leaf (.ident name) _ :: rest => .ok (name, { c with rest })
      | _ => expected "identifier" c := by
  obtain ⟨trees, stop, leftover⟩ := c
  cases trees with
  | nil => rfl
  | cons t rest =>
    -- only a leaf that is a word is taken; the three other shapes fail alike
    cases t with
    | group => rfl
    | leaf token span => cases token <;> rfl

theorem anyWord_eq_ok {c c' : Cursor} {name : String} (h : anyWord c = .ok (name, c')) :
    ∃ span rest, c.rest = .leaf (.ident name) span :: rest := by
  rw [anyWord_run] at h
  split at h
  · next heq =>
    obtain ⟨rfl, -⟩ := Prod.mk.inj (Except.ok.inj h)
    exact ⟨_, _, heq⟩
  · exact (Gives.failWith (P := fun _ => False) _ _ _ _ h).elim

/-- A path of words has at least one word, and only those that may stand in one. -/
theorem gives_namePath : Gives namePath fun p =>
    ∃ rooted names, p = .ofNames rooted names ∧ names ≠ [] ∧ ∀ n ∈ names, pathWord n = true := by
  refine Gives.after fun rooted => Gives.bind (P := fun r => ∀ n ∈ r.1, pathWord n = true)
    (Gives.separatedBy (fun c name c' hgoes hword => ?_) "::") fun (names, trailing) hwords => ?_
  · obtain ⟨span, rest, hrest⟩ := anyWord_eq_ok hword
    rw [hrest] at hgoes
    simpa [identAt, wordIn, wordAt, pathWord, Decidable.imp_iff_not_or] using hgoes
  · show Gives (if names.isEmpty then _ else if trailing then _ else _) _
    split
    · exact Gives.failWith _
    · next hsome =>
      split
      · exact Gives.failWith _
      · exact Gives.pure ⟨rooted, names, rfl, by simpa using hsome, hwords⟩

/-- What stands behind `in` is a path of words, and can be read. -/
theorem gives_explicitPath : Gives restriction?.explicitPath Modifier.Readable := by
  refine Gives.after fun _ => gives_namePath.bind fun p hp => Gives.pure ?_
  obtain ⟨rooted, names, rfl, hne, hwords⟩ := hp
  rw [Path.map_name_ofNames]
  exact ⟨hne, hwords⟩

/-- **Modifiers are readable** wherever they are read. -/
theorem gives_modifier : Gives modifier Modifier.Readable := by
  -- what stands in the parentheses is a keyword or an explicit path, and both are readable
  have hrestriction : Gives restriction? fun m? => ∀ m ∈ m?, m.Readable := by
    have hin : Gives (some <$> inGroup .paren restriction?.explicitPath) fun m? =>
        ∀ m ∈ m?, m.Readable :=
      (Gives.map (by simpa using gives_explicitPath.inGroup .paren))
    have hnone : Gives (Pure.pure (none : Option Modifier)) fun m? => ∀ m ∈ m?, m.Readable :=
      Gives.pure (by simp)
    refine Gives.after fun trees => ?_
    split
    · split
      · next w _ _ _ _ hkeyword =>
        refine Gives.after fun _ => Gives.pure ?_
        simp only [Option.mem_some_iff, forall_eq']
        exact ⟨rfl, w, by simpa using hkeyword, rfl⟩
      · split
        · exact hin
        · exact hnone
    · exact hin
    · exact hnone
  refine Gives.after fun isPub => ?_
  split
  · refine hrestriction.bind fun m? hm => Gives.pure ?_
    cases m? with
    | none => trivial
    | some m => exact hm m rfl
  · exact Gives.pure trivial

end Grammar

/-! ## Generic parameters -/

/-- A parameter that can be read is not called `Self`, unless it is a lifetime. -/
def GenericParam.Readable (p : GenericParam) : Prop := p.isLifetime = true ∨ p.name ≠ "Self"

/-- To put lifetimes first is to change the order only. -/
theorem Generics.readable_ofParams {written : List GenericParam} (h : ∀ p ∈ written, p.Readable)
    (trailing : Bool) (clause : Option WhereClause) :
    ∀ p ∈ (ofParams written trailing clause).params, p.Readable :=
  fun p hp => h p ((mem_lifetimesFirst _ _ trailing p).mp hp)

namespace Grammar

open Reader

/-- An identifier is no keyword. -/
theorem gives_ident : Gives Reader.ident fun n => reserved.contains n = false := by
  intro c n c' h
  obtain ⟨trees, stop, leftover⟩ := c
  -- every other first tree ends in the same failure
  have hnever {what : String} :
      (expected what : Reader String) ⟨trees, stop, leftover⟩ ≠ .ok (n, c') :=
    fun hfail => Gives.failWith (P := fun _ => False) _ _ _ _ hfail
  cases trees with
  | nil => exact absurd h hnever
  | cons t rest =>
    cases t with
    | group => exact absurd h hnever
    | leaf token span =>
      cases token with
      | ident m =>
        change (if reserved.contains m = true then _ else anyWord) _ = _ at h
        split at h
        · exact absurd h hnever
        · next hword =>
          rw [anyWord_run] at h
          obtain ⟨rfl, -⟩ := Prod.mk.inj (Except.ok.inj h)
          exact Bool.eq_false_iff.mpr hword
      | _ => exact absurd h hnever

/-- **Parameters are readable**: a parameter other than a lifetime is named by an identifier or an
underscore, and so not by a keyword. -/
theorem gives_genericParam (g : Rules) (bound : Reader Bound) :
    Gives (genericParam g bound) GenericParam.Readable := by
  refine Gives.after fun attributes => Gives.after fun isLifetime => ?_
  have hident : Gives Reader.ident fun n => n ≠ "Self" :=
    gives_ident.mono fun n hn heq => by rw [heq] at hn; exact absurd hn (by decide)
  split
  · refine Gives.after fun name => Gives.after fun bounded => ?_
    split
    · exact Gives.after fun list => Gives.pure (.inl rfl)
    · exact Gives.pure (.inl rfl)
  -- past the lifetimes there are types, constants and an underscore
  · refine Gives.after fun isType => ?_
    split
    · refine hident.bind fun name hname => Gives.after fun hasBounds => ?_
      dsimp only
      split <;> refine Gives.after fun (list, trailing) => Gives.after fun hasDefault => ?_
      all_goals
        dsimp only
        split <;> exact Gives.after fun default => Gives.pure (.inr hname)
    · refine Gives.after fun isConst => ?_
      split
      · refine hident.bind fun name hname => Gives.after fun colon => Gives.after fun ty =>
          Gives.after fun hasDefault => ?_
        dsimp only
        split <;> exact Gives.after fun default => Gives.pure (.inr hname)
      · refine Gives.after fun isBlank => ?_
        split
        · refine Gives.pure (.inr ?_)
          show "_" ≠ "Self"
          decide
        · exact Gives.failWith _

/-- All parameters of a list are readable; without brackets there are none. -/
theorem gives_paramList (g : Rules) :
    Gives (paramList g) fun r => ∀ p ∈ r.1, p.Readable := by
  refine Gives.after fun isThere => ?_
  split
  · refine Gives.after fun bracket => Gives.bind (Gives.separatedBy
      (fun c p c' _ => gives_genericParam g (paramBound g) c p c') ",") fun found hfound => ?_
    exact Gives.after fun bracket => Gives.pure hfound
  · exact Gives.pure (by simp)

/-! ## Items -/

/-- A field has the modifier that is read in front of its name. -/
theorem gives_namedField (g : Rules) :
    Gives (namedField g) fun f => f.modifier.Readable := by
  refine Gives.bind (P := fun r => r.1.modifier.Readable) ?_ fun (field, span) h => Gives.pure h
  refine Gives.located (P := fun f : NamedField => f.modifier.Readable) ?_
  refine Gives.after fun attributes => gives_modifier.bind fun m hm => ?_
  refine Gives.after fun underscore => Gives.after fun name => Gives.after fun colon => ?_
  exact Gives.after fun ty => Gives.pure hm

theorem gives_namedFields (g : Rules) :
    Gives (namedFields g) fun fs => ∀ f ∈ fs, f.modifier.Readable :=
  ((gives_namedField g).commaList.inGroup .brace).bind fun _ h => Gives.pure h

/-- Of the three bodies of a struct only the one in braces has named fields. -/
theorem gives_recordBody (g : Rules) :
    Gives (recordBody g) fun r =>
      ∀ f ∈ (ItemBody.record r.2).namedFields, f.modifier.Readable := by
  refine Gives.after fun before => Gives.after fun isTuple => ?_
  split
  · refine Gives.after fun fields => Gives.after fun clause => Gives.after fun _ => Gives.pure ?_
    simp [ItemBody.namedFields]
  · refine Gives.after fun isBraced => ?_
    split
    · exact (gives_namedFields g).bind fun fields hfields => Gives.pure hfields
    · exact Gives.after fun _ => Gives.pure (by simp [ItemBody.namedFields])

/-- **Items from source** have readable modifiers, on the type and on its named fields, and readable
parameters. -/
theorem gives_item_parts (g : Rules) :
    Gives (item g) fun i =>
      (i.modifier.Readable ∧ ∀ f ∈ i.body.namedFields, f.modifier.Readable) ∧
        ∀ p ∈ i.generics.params, p.Readable := by
  refine Gives.after fun attributes => gives_modifier.bind fun m hm => ?_
  refine Gives.after fun isStruct => ?_
  split
  · refine Gives.after fun name => (gives_paramList g).bind fun params hparams => ?_
    exact (gives_recordBody g).bind fun body hbody =>
      Gives.pure ⟨⟨hm, hbody⟩, Generics.readable_ofParams hparams _ _⟩
  -- neither an enumeration nor a union has named fields, so only the modifier is left
  · refine Gives.after fun isEnum => ?_
    split
    · refine Gives.after fun name => (gives_paramList g).bind fun params hparams => ?_
      refine Gives.after fun clause => Gives.after fun variants => ?_
      exact Gives.pure
        ⟨⟨hm, by simp [ItemBody.namedFields]⟩, Generics.readable_ofParams hparams _ _⟩
    · refine Gives.after fun isUnion => ?_
      split
      · refine Gives.after fun name => (gives_paramList g).bind fun params hparams => ?_
        refine Gives.after fun clause => Gives.after fun fields => ?_
        exact Gives.pure
          ⟨⟨hm, by simp [ItemBody.namedFields]⟩, Generics.readable_ofParams hparams _ _⟩
      · exact Gives.failWith _

theorem gives_item (g : Rules) :
    Gives (item g) fun i =>
      i.modifier.Readable ∧ ∀ f ∈ i.body.namedFields, f.modifier.Readable :=
  (gives_item_parts g).mono fun _ h => h.1

end Grammar

/-! ## Options -/

/-- A text comes from a literal, or from a path where a path is allowed. -/
theorem readText_eq_ok {α : Type} {parse : String → Bool → Option α} {ofPath : Path → Option α}
    {item : MetaItem} {a : α} {span : Span} (h : readText parse ofPath item = .ok (a, span)) :
    (∃ value suffixed, parse value suffixed = some a) ∨ ∃ p, ofPath p = some a := by
  unfold readText at h
  split at h
  · split at h
    · simp at h
    · simp at h
    · next value suffixed _ =>
      split at h
      · next found hfound =>
        obtain ⟨rfl, -⟩ := Prod.mk.inj (Except.ok.inj h)
        exact .inl ⟨value, suffixed, hfound⟩
      · simp at h
  · split at h
    · next found hfound =>
      obtain ⟨rfl, -⟩ := Prod.mk.inj (Except.ok.inj h)
      exact .inr ⟨_, hfound⟩
    · simp at h
  · unfold unexpectedForm at h
    split at h
    · simp at h
    · simp at h
    · split at h <;> simp at h
    · simp at h

/-- An enclosing visibility is a modifier from source, though that source is a literal. -/
theorem readEnclosing_readable {item : MetaItem} {m : Modifier} (h : readEnclosing item = .ok m) :
    m.Readable := by
  rw [readEnclosing, map_eq_ok] at h
  obtain ⟨⟨_, span⟩, hread, rfl⟩ := h
  rcases readText_eq_ok hread with ⟨value, _, hvalue⟩ | ⟨p, hp⟩
  · exact Reader.readWith_gives (fun _ => Grammar.gives_modifier) hvalue
  · simp at hp

namespace Reading

variable {σ : Type} {ks : KeySet σ} {P : σ → Prop}

/-- A key that is set once changes the options as its setting says, and else not at all. -/
theorem keyed_keeps (hset : ∀ key item o o', P o → ks.set key item o = .ok o' → P o')
    {r : Reading σ} (hr : P r.value) (key : String) (i : MetaItem) :
    P (r.keyed ks key i).value := by
  unfold keyed
  split
  · unfold assign
    -- a key seen before leaves the options as they were, and so does a refused value
    split
    · exact hr
    · split
      · next value hvalue => exact hset key i _ _ hr hvalue
      · exact hr
  · exact hr

theorem item_keeps (hset : ∀ key item o o', P o → ks.set key item o = .ok o' → P o')
    {r : Reading σ} (hr : P r.value) (i : MetaItem) : P (r.item ks i).value := by
  unfold item
  split
  · exact hr
  · exact keyed_keeps hset hr _ i
  · exact keyed_keeps hset hr _ i
  · exact keyed_keeps hset hr _ i

/-- The items of an attribute are read one by one, even after a wrong one. -/
theorem readAttribute_keeps (hset : ∀ key item o o', P o → ks.set key item o = .ok o' → P o')
    {r : Reading σ} (hr : P r.value) (a : Attribute) : P (r.readAttribute ks a).value := by
  unfold readAttribute
  split
  · exact hr
  · exact hr
  · split
    · exact hr
    · next items _ =>
      exact List.foldlRecOn (motive := fun r => P r.value) items (Reading.item ks) hr
        fun r hr i _ => item_keeps hset hr i

end Reading

/-- **Reading options** keeps what the empty options have and every setting of a key keeps. -/
theorem readOptions_keeps {σ : Type} [EmptyCollection σ] {ks : KeySet σ} {P : σ → Prop}
    (hempty : P ∅) (hset : ∀ key item o o', P o → ks.set key item o = .ok o' → P o')
    {attributes : List Attribute} {o : σ} (h : readOptions ks attributes = .ok o) : P o := by
  -- the invariant along the attributes, starting from the empty options
  have hall : P ((optionAttributes attributes).foldl (Reading.readAttribute ks)
      ⟨∅, [], []⟩).value :=
    List.foldlRecOn (motive := fun r : Reading σ => P r.value) (optionAttributes attributes) _
      hempty fun r hr a _ => Reading.readAttribute_keeps hset hr a
  unfold readOptions Reading.result at h
  split at h
  · rw [← Except.ok.inj h]
    exact hall
  · simp at h

/-- **Options from source** have a readable enclosing visibility, if they have one. -/
theorem readOptions_enclosing {attributes : List Attribute} {o : TypeOptions}
    (h : readOptions TypeOptions.keySet attributes = .ok o) : ∀ m ∈ o.enclosing, m.Readable := by
  refine readOptions_keeps (P := fun o : TypeOptions => ∀ m ∈ o.enclosing, m.Readable)
    (fun m hm => by simp at hm) (fun key item o o' ho hset => ?_) h
  unfold TypeOptions.keySet at hset
  dsimp only at hset
  -- only the last of the four keys sets the enclosing visibility
  split at hset
  · obtain ⟨v, _, rfl⟩ := map_eq_ok.mp hset
    exact ho
  · obtain ⟨v, _, rfl⟩ := map_eq_ok.mp hset
    exact ho
  · obtain ⟨v, _, rfl⟩ := map_eq_ok.mp hset
    exact ho
  · obtain ⟨v, hv, rfl⟩ := map_eq_ok.mp hset
    intro m hm
    obtain rfl : v = m := Option.some.inj hm
    exact readEnclosing_readable hv
  · obtain rfl := Except.ok.inj hset
    exact ho

end Specimen
