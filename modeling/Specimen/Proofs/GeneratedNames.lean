import Mathlib.Data.List.TakeWhile
import Specimen.Grammar.Reader
import Specimen.Proofs.SourceOrder
import Specimen.Proofs.StoredFields
import Specimen.Proofs.Target.RecordFunctions
import Specimen.Token.Lexer

/-!
# Names of parameters and builders

A parameter is called after its field and a builder after its type, without `r#`. That is enough for
a plain identifier, whatever keyword a raw name spells, and keeps different identifiers apart:
`generated_names_injective` says so, and that the constructor sets each field from the parameter
called after it.
-/

namespace Specimen

open Text Target

/-! ## Identifiers -/

/-- Characters that make up a name. -/
def NameChars (cs : List Char) : Prop :=
  ∃ c rest, cs = c :: rest ∧ isIdentStart c = true ∧ ∀ x ∈ rest, isIdentContinue x = true

namespace NameChars

variable {cs ds : List Char}

/-- What can open a name can also stand inside of one. -/
theorem forall_isIdentContinue (h : NameChars cs) : ∀ x ∈ cs, isIdentContinue x = true := by
  obtain ⟨c, rest, rfl, hc, hrest⟩ := h
  intro x hx
  rcases List.mem_cons.mp hx with rfl | hx
  · exact isIdentContinue_of_isIdentStart hc
  · exact hrest x hx

/-- A name stays one with more characters behind it. -/
theorem append (h : NameChars cs) (hds : ∀ x ∈ ds, isIdentContinue x = true) :
    NameChars (cs ++ ds) := by
  obtain ⟨c, rest, rfl, hc, hrest⟩ := h
  refine ⟨c, rest ++ ds, rfl, hc, fun x hx => ?_⟩
  rcases List.mem_append.mp hx with hx | hx
  · exact hrest x hx
  · exact hds x hx

/-- A name is read as a whole. -/
theorem name?_eq (h : NameChars cs) : Lexer.name? cs = some (String.ofList cs, []) := by
  obtain ⟨c, rest, rfl, hc, hrest⟩ := h
  have hall : rest.dropWhile isIdentContinue = [] := List.dropWhile_eq_nil_iff.mpr hrest
  simp [Lexer.name?, Literal.afterName?, hc, hall]

/-- What is read as a whole is a name. -/
theorem of_name? {name : String} (h : Lexer.name? cs = some (name, [])) : NameChars cs := by
  obtain ⟨rest, hrest, heq⟩ := Option.map_eq_some_iff.mp h
  obtain ⟨-, rfl⟩ := Prod.mk.inj heq
  -- the reader takes one opening character and all that go on; nothing is left over
  cases cs with
  | nil => cases hrest
  | cons c rest =>
    rw [Literal.afterName?] at hrest
    split at hrest
    · next hc =>
      exact ⟨c, rest, rfl, hc, List.dropWhile_eq_nil_iff.mp (Option.some.inj hrest)⟩
    · cases hrest

end NameChars

/-- A text is an identifier, plain or raw: all of it is read as one. -/
def IsIdentifier (name : String) : Prop := Lexer.anyIdent? name.toList = some (name, [])

instance (name : String) : Decidable (IsIdentifier name) :=
  inferInstanceAs (Decidable (Lexer.anyIdent? name.toList = some (name, [])))

/-- A text is an identifier that is written without `r#`. -/
structure IsPlainIdentifier (name : String) : Prop where
  read : Lexer.name? name.toList = some (name, [])
  notRaw : bareName name = name
  notReserved : name ∉ Reader.reserved

/-- Without `r#`, any identifier is a name. -/
theorem IsIdentifier.nameChars {name : String} (h : IsIdentifier name) :
    NameChars (bareName name).toList := by
  -- a raw name is one behind its `r#`; the words that cannot be raw are turned down there
  by_cases hraw : ∃ cs, name.toList = 'r' :: '#' :: cs
  · obtain ⟨cs, hcs⟩ := hraw
    rw [IsIdentifier, hcs] at h
    obtain ⟨⟨bare, rest⟩, hread, hkept⟩ := Option.bind_eq_some_iff.mp h
    dsimp only at hkept
    split at hkept
    · cases hkept
    · obtain ⟨-, rfl⟩ := Prod.mk.inj (Option.some.inj hkept)
      rw [bareName_raw hcs, String.toList_ofList]
      exact NameChars.of_name? hread
  · have hplain : ∀ cs, name.toList ≠ 'r' :: '#' :: cs := fun cs hcs => hraw ⟨cs, hcs⟩
    have hread : Lexer.name? name.toList = some (name, []) := by
      rw [← h, Lexer.anyIdent?]
      exact hplain
    rw [bareName_plain hplain]
    exact NameChars.of_name? hread

/-- What is made of characters of a name and is no keyword is a plain identifier. -/
theorem NameChars.isPlainIdentifier {name : String} (h : NameChars name.toList)
    (hfree : name ∉ Reader.reserved) : IsPlainIdentifier name where
  read := by
    rw [h.name?_eq, String.ofList_toList]
  notRaw := by
    have hmark : '#' ∉ name.toList := by
      intro hmem
      have hcontinue := h.forall_isIdentContinue '#' hmem
      revert hcontinue
      decide
    refine bareName_plain fun cs hraw => hmark ?_
    rw [hraw]
    exact List.mem_cons_of_mem _ List.mem_cons_self
  notReserved := hfree

/-! ## Parameters -/

/-- The text in front of a parameter opens a name, so none of the field's characters has to. -/
theorem nameChars_fixture : NameChars "fixture".toList :=
  ⟨'f', "ixture".toList, rfl, by decide, List.all_eq_true.mp (by decide)⟩

/-- A parameter of a field is a plain identifier. -/
theorem IsIdentifier.isPlain_parameterName {field : String} (h : IsIdentifier field) :
    IsPlainIdentifier (parameterName field) := by
  have hchars : (parameterName field).toList =
      "fixture".toList ++ (bareName field).toList := by
    rw [parameterName, String.toList_append]
  refine NameChars.isPlainIdentifier ?_ ?_
  · rw [hchars]
    exact nameChars_fixture.append h.nameChars.forall_isIdentContinue
  · intro hreserved
    -- no keyword opens like a parameter
    have hnone : ∀ word ∈ Reader.reserved, ¬"fixture".toList <+: word.toList := by decide
    refine hnone _ hreserved ?_
    rw [hchars]
    exact List.prefix_append _ _

/-! ## Builders -/

/-- A builder of a type is a plain identifier. -/
theorem IsIdentifier.isPlain_builderName {type : String} (h : IsIdentifier type) :
    IsPlainIdentifier (builderName type) := by
  have hchars : (builderName type).toList =
      (bareName type).toList ++ "FixtureBuilder".toList := by
    rw [builderName, String.toList_append]
  refine NameChars.isPlainIdentifier ?_ ?_
  · rw [hchars]
    exact h.nameChars.append (List.all_eq_true.mp (by decide))
  · intro hreserved
    -- no keyword ends like a builder
    have hnone : ∀ word ∈ Reader.reserved, ¬"FixtureBuilder".toList <:+ word.toList := by decide
    refine hnone _ hreserved ?_
    rw [hchars]
    exact List.suffix_append _ _

/-- A builder is called otherwise than its type: its name is longer. -/
theorem IsIdentifier.bareName_builderName_ne {type : String} (h : IsIdentifier type) :
    bareName (builderName type) ≠ bareName type := by
  rw [h.isPlain_builderName.notRaw, builderName]
  intro heq
  have hlength := congrArg (fun name => name.toList.length) heq
  have hsuffix : "FixtureBuilder".toList.length = 14 := by decide
  rw [String.toList_append, List.length_append, hsuffix] at hlength
  omega

/-! ## Where parameters are used -/

mutual

def Target.Expr.variables : Target.Expr → List String
  | .variable x => [x]
  | .field x _ => [x]
  | .constant _ => []
  | .call _ args => Target.Expr.variablesEach args
  | .method receiver _ _ => receiver.variables

def Target.Expr.variablesEach : List Target.Expr → List String
  | [] => []
  | e :: es => e.variables ++ Target.Expr.variablesEach es

end

namespace Target.Function

def paramNames (f : Function) : List String := f.params.map (·.name)

/-- The fields that the struct literal at the end of a function sets, each with the variables that
it is set from. -/
def uses (f : Function) : List (String × List String) :=
  match f.body.tail with
  | .literal entries _ => entries.map fun entry => (entry.1, entry.2.variables)
  | _ => []

end Target.Function

/-- A field is set from its own parameter, whether it has a default or not. -/
theorem Field.init_variables (f : Field) (crate : Path) :
    (f.init.entry crate).2.variables = [f.parameter] := by
  cases h : f.hasDefault <;>
    simp [Field.init, Init.entry, Value.expr, h, Target.Expr.variables]

/-- There is a parameter for each constructible field, and none for the others. -/
theorem RecordScan.constructor_paramNames (s : RecordScan) (crate : Path) :
    (s.constructor.function crate).paramNames = s.fields.map (·.parameter) := by
  simp [Target.Function.paramNames, Constructor.function, RecordScan.constructor, Parameter.name,
    Field.param, Function.comp_def]

/-- Fields that are filled in are set as well, but from no variable. -/
theorem RecordScan.constructor_uses (s : RecordScan) (crate : Path) :
    (s.constructor.function crate).uses =
      s.fields.map (fun f => (f.name, [f.parameter])) ++ s.fillers.map (·, []) := by
  have hfields (f : Field) : ((f.init.entry crate).1, (f.init.entry crate).2.variables) =
      (f.name, [f.parameter]) := by
    rw [f.init_variables]
    rfl
  -- a filler's value mentions no parameter
  have hfillers (f : String) : ((Init.entry crate ⟨f, .default⟩).1,
      (Init.entry crate ⟨f, .default⟩).2.variables) = (f, []) := by
    simp [Init.entry, Value.expr, Target.Expr.variables, Target.Expr.variablesEach]
  show (((s.fields.map (·.init)) ++ s.fillerInits).map (Init.entry crate)).map _ = _
  simp only [fillerInits, List.map_append, List.map_map, Function.comp_def, hfields, hfillers]

/-! ## The names in an expansion -/

def Target.Block.structName? : Block → Option String
  | .impl .. => none
  | .struct name _ _ _ _ => some name

namespace RecordScan

variable (s : RecordScan) (cx : Context)

/-- The only struct of a record's expansion has the name of the builder. -/
theorem expansion_structNames :
    (s.expansion cx).items.filterMap (·.item.structName?) = [cx.declaration.builder] := by
  have hnew : ((s.builderIn cx).newImpl? cx).toList.filterMap (·.item.structName?) = [] := by
    rw [Builder.newImpl?]
    split <;> rfl
  rw [expansion_items, List.filterMap_append, List.filterMap_append, hnew]
  rfl

/-- The constructor's parameters, and where it uses them. -/
theorem expansion_names :
    ((s.expansion cx).function? "fixture_new").map (fun f => (f.paramNames, f.uses)) =
      if s.fields.isEmpty then none
      else some (s.fields.map (·.parameter),
        s.fields.map (fun f => (f.name, [f.parameter])) ++ s.fillers.map (·, [])) := by
  rw [(s.function?_expansion cx).1, hasConstructor]
  cases s.fields.isEmpty with
  | true => rfl
  | false =>
    show some (_, _) = some _
    rw [s.constructor_paramNames, s.constructor_uses]

end RecordScan

/-- The name of a builder that is given none. -/
theorem Declaration.builder_eq {d : Declaration} (h : d.options.builder = none) :
    d.builder = builderName d.name.text := by
  rw [builder, h]
  rfl

/-- The names in the code of a record come from those of its constructible fields and its own. -/
theorem Deriver.expand_names (v : Deriver) {d : Declaration} {members : List Member}
    (hkind : d.kind = .record members) :
    let x := extract v.inherit members
    ∃ e, v.expand d = .ok e ∧ e.tokens = e.items.flatMap itemTokens ∧
      ((e.function? "fixture_new").map fun f => (f.paramNames, f.uses)) =
        (if x.fields.isEmpty then none
        else some (x.fields.map (·.parameter),
          x.fields.map (fun f => (f.name, [f.parameter])) ++ x.fillers.map (·, []))) ∧
      e.items.filterMap (·.item.structName?) = [d.builder] := by
  intro x
  let s := d.scan v.inherit members
  let cx := Context.ofDeclaration v d
  have hempty : s.fields.isEmpty = x.fields.isEmpty := by
    simp [s, x, Declaration.scan, Declaration.spelledFields]
  -- spelling types out leaves the names of the fields alone, and what is made of them
  have hfields {α : Type} (g : String → α) :
      s.fields.map (fun f => g f.name) = x.fields.map (fun f => g f.name) := by
    have hscan := congrArg (List.map g) (d.scan_field_names v.inherit members)
    simpa only [List.map_map, Function.comp_def] using hscan
  have hparams : s.fields.map (·.parameter) = x.fields.map (·.parameter) :=
    hfields parameterName
  have huses : s.fields.map (fun f => (f.name, [f.parameter])) =
      x.fields.map (fun f => (f.name, [f.parameter])) :=
    hfields fun name => (name, [parameterName name])
  have hnames := s.expansion_names cx
  rw [hempty, hparams, huses] at hnames
  exact ⟨_, v.expand_record hkind, (Expansion.items_tokens _).symm, hnames,
    s.expansion_structNames cx⟩

/-- **Generated names.** The constructor of a record takes a parameter for each constructible field
and sets that field, and no other, from it. Parameters are plain identifiers, and two of them are
the same exactly if their fields are; so are the names of builders that are given none, and those
are never the names of their types. -/
theorem generated_names_injective :
    (∀ (v : Deriver) (d : Declaration) (members : List Member), d.kind = .record members →
      let x := extract v.inherit members
      (∃ e, v.expand d = .ok e ∧ e.tokens = e.items.flatMap itemTokens ∧
        ((e.function? "fixture_new").map fun f => (f.paramNames, f.uses)) =
          (if x.fields.isEmpty then none
          else some (x.fields.map (·.parameter),
            x.fields.map (fun f => (f.name, [f.parameter])) ++ x.fillers.map (·, []))) ∧
        e.items.filterMap (·.item.structName?) = [d.builder]) ∧
      (Distinct (x.fields.map (·.parameter)) ↔ Distinct (x.fields.map (·.name)))) ∧
      (∀ f g : Field, f.parameter = g.parameter ↔ bareName f.name = bareName g.name) ∧
      (∀ f : Field, IsIdentifier f.name → IsPlainIdentifier f.parameter) ∧
      (∀ d d' : Declaration, d.options.builder = none → d'.options.builder = none →
        (d.builder = d'.builder ↔ bareName d.name.text = bareName d'.name.text)) ∧
      ∀ d : Declaration, d.options.builder = none → IsIdentifier d.name.text →
        IsPlainIdentifier d.builder ∧ bareName d.builder ≠ bareName d.name.text := by
  refine ⟨?_, fun f g => parameterName_inj, fun f h => h.isPlain_parameterName, ?_, ?_⟩
  · intro v d members hkind
    exact ⟨v.expand_names hkind, distinct_parameters_iff _⟩
  · intro d d' h h'
    rw [Declaration.builder_eq h, Declaration.builder_eq h', builderName_inj]
  · intro d h hname
    rw [Declaration.builder_eq h]
    exact ⟨hname.isPlain_builderName, hname.bareName_builderName_ne⟩

/-- The members of `struct r#struct { r#type: u8, kind: u8, slot: OnceCell<u8> }`, where `kind` has
a default. -/
def keywordMembers : List Member :=
  [⟨[⟨"r#type", some (.named "u8"), false⟩], .stored, none⟩,
   ⟨[⟨"kind", some (.named "u8"), true⟩], .stored, none⟩,
   ⟨[⟨"slot", some (.named "OnceCell"), false⟩], .lazy, none⟩]

def keywordDeclaration : Declaration where
  name := ⟨"r#struct", .nowhere⟩
  generics := .empty
  visibility := none
  enclosing := none
  options := ⟨none, none, false, none⟩
  kind := .record keywordMembers

/-- Keywords need no `r#` in the names that are made of them. -/
theorem keyword_names :
    keywordDeclaration.kind = .record keywordMembers ∧ keywordDeclaration.options.builder = none ∧
      IsIdentifier keywordDeclaration.name.text ∧
      (∀ f ∈ (extract true keywordMembers).fields, IsIdentifier f.name) ∧
      (∃ e, Deriver.standard.expand keywordDeclaration = .ok e ∧
        ((e.function? "fixture_new").map fun f => (f.paramNames, f.uses)) =
          some (["fixturetype", "fixturekind"],
            [("r#type", ["fixturetype"]), ("kind", ["fixturekind"]), ("slot", [])]) ∧
        e.items.filterMap (·.item.structName?) = ["structFixtureBuilder"]) ∧
      (∀ f ∈ (extract true keywordMembers).fields, IsPlainIdentifier f.parameter) ∧
      IsPlainIdentifier keywordDeclaration.builder := by
  have htype : IsIdentifier keywordDeclaration.name.text := by decide
  have hfields : ∀ f ∈ (extract true keywordMembers).fields, IsIdentifier f.name := by decide
  obtain ⟨hrecord, -, hparameters, -, hbuilders⟩ := generated_names_injective
  obtain ⟨⟨e, hexpand, -, hnames, hstructs⟩, -⟩ :=
    hrecord .standard keywordDeclaration keywordMembers rfl
  exact ⟨rfl, rfl, htype, hfields, ⟨e, hexpand, hnames, hstructs⟩,
    fun f hf => hparameters f (hfields f hf), (hbuilders keywordDeclaration rfl htype).1⟩

end Specimen
