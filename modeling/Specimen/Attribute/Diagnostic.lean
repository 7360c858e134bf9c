import Specimen.Text.Quoted
import Specimen.Text.Similarity
import Specimen.Grammar.Reader

/-!
# Complaints about a declaration

A declaration is rejected for causes that each have a place in its source. Complaints about one node
of the source are collected; a collection of one is that complaint, and collections may be nested.
-/

namespace Specimen

/-- Why generation fails for a declaration that was read. -/
inductive Unsupported where
  | tupleStruct
  | untaggedUnion
deriving DecidableEq, Repr

def Unsupported.name : Unsupported → String
  | tupleStruct => "tuple struct"
  | untaggedUnion => "union"

/-- Why nothing can be generated for a declaration. -/
inductive SynthesisCause where
  | noCases
  | unsupported (kind : Unsupported)
deriving DecidableEq, Repr

def SynthesisCause.message : SynthesisCause → String
  | noCases => "`Fixture` needs at least one enum variant to build a sample from"
  | unsupported _ =>
    "`Fixture` can only be derived for structs with named fields, unit structs and enums"

def SynthesisCause.code : SynthesisCause → String
  | noCases => "fixture::no_cases"
  | unsupported _ => "fixture::unsupported_declaration"

/-- A synthesis error at the name of the declaration. -/
structure SynthesisError where
  cause : SynthesisCause
  span : Span
deriving DecidableEq, Repr

/-- Why a declaration is rejected. -/
inductive Cause where
  /-- `#[fixture = value]` -/
  | assignedAttribute
  /-- The inside of an attribute cannot be read. -/
  | malformed (fault : Fault)
  /-- An item of a form that its key does not take: `word`, `list` or `literal`. -/
  | unexpectedFormat (format : String)
  /-- A value of a kind that its key does not take. -/
  | unexpectedType (kind : String)
  /-- A value of the right kind that means nothing to its key. -/
  | unknownValue (value : String)
  /-- A key that is not known, with the keys that are. -/
  | unknownKey (key : String) (known : List String)
  | duplicateKey (key : String)
  | conflictingStorage
  | meaninglessDefault
  | builderOnEnum
  | optionsOnVariant
  | synthesis (cause : SynthesisCause)
deriving DecidableEq, Repr

def ticked (s : String) : String := s!"`{s}`"

/-- The wording of a cause. An unknown key that is much like a known one is taken for a misspelling
of it; otherwise the known keys are listed. -/
def Cause.message : Cause → String
  | assignedAttribute => "Name-value arguments are not supported. Use #[fixture(...)]"
  | malformed fault => fault.message
  | unexpectedFormat format => "Unexpected meta-item format " ++ ticked format
  | unexpectedType kind => "Unexpected type " ++ ticked kind
  | unknownValue value => "Unknown value: " ++ ticked value
  | unknownKey key known =>
    "Unknown field: " ++ ticked key ++
      match Text.nearest? key known with
      | some near => ". Did you mean " ++ ticked near ++ "?"
      | none => ". Available values: " ++ ", ".intercalate (known.map ticked)
  | duplicateKey key => "Duplicate field " ++ ticked key
  | conflictingStorage => "at most one of `lazy`, `computed` and `observed` may be set"
  | meaninglessDefault =>
    "`default` has no effect on a field that is left out of construction"
  | builderOnEnum => "`builder` only applies to structs"
  | optionsOnVariant => "`#[fixture(...)]` has no effect on enum variants or their fields"
  | synthesis cause => cause.message

/-- A complaint: its cause, its place, and the key whose value it is about. -/
structure Diagnostic where
  cause : Cause
  span : Span
  key : Option String
deriving DecidableEq, Repr

def Diagnostic.message (d : Diagnostic) : String :=
  d.cause.message ++ match d.key with
    | some key => " at " ++ key
    | none => ""

/-- One complaint, or several about one node. -/
inductive Report where
  | single (diagnostic : Diagnostic)
  | several (reports : List Report)
deriving Inhabited

namespace Report

def ofList : List Report → Report
  | [r] => r
  | rs => several rs

def about (cause : Cause) (span : Span) : Report := single ⟨cause, span, none⟩

mutual

def message : Report → String
  | single d => d.message
  | several rs => "Multiple errors: (" ++ ", ".intercalate (messages rs) ++ ")"

def messages : List Report → List String
  | [] => []
  | r :: rs => r.message :: messages rs

end

mutual

def diagnostics : Report → List Diagnostic
  | single d => [d]
  | several rs => diagnosticsOf rs

def diagnosticsOf : List Report → List Diagnostic
  | [] => []
  | r :: rs => r.diagnostics ++ diagnosticsOf rs

end

/-- Reports of reports are read one after the other. -/
theorem diagnosticsOf_eq_flatMap (rs : List Report) :
    diagnosticsOf rs = rs.flatMap diagnostics := by
  induction rs with
  | nil => simp [diagnosticsOf]
  | cons r rs ih => simp [diagnosticsOf, ih]

/-- Collecting reports neither loses nor repeats a complaint. -/
theorem diagnostics_ofList (rs : List Report) :
    (ofList rs).diagnostics = rs.flatMap diagnostics := by
  match rs with
  | [] => simp [ofList, diagnostics, diagnosticsOf]
  | [r] => simp [ofList]
  | r :: s :: rest => simp [ofList, diagnostics, diagnosticsOf_eq_flatMap]

end Report

def collect {α : Type} (results : List (Except Report α)) : Except Report (List α) :=
  -- every failure is reported, not just the first
  let failures := results.filterMap fun
    | .error r => some r
    | .ok _ => none
  if failures.isEmpty then
    .ok (results.filterMap fun
      | .error _ => none
      | .ok a => some a)
  else .error (.ofList failures)

/-! ## As code -/

/-- Code that makes compilation fail with a message. -/
def compileErrorTokens (message : String) : List Token :=
  Token.sym "::" ++ [.ident "core"] ++ Token.sym "::" ++ [.ident "compile_error"] ++
    Token.sym "!" ++ Token.braces [.literal (Text.quote message)]

/-- The code for a report: each complaint without the key that it is about, since its place shows
it. -/
def Report.compileErrors (r : Report) : List Token :=
  r.diagnostics.flatMap fun d => compileErrorTokens d.cause.message

def SynthesisError.compileError (e : SynthesisError) : List Token :=
  compileErrorTokens e.cause.message

def SynthesisError.report (e : SynthesisError) : Report := .about (.synthesis e.cause) e.span

end Specimen
