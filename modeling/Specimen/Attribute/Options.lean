import Specimen.Attribute.Diagnostic
import Specimen.Attribute.MetaItem

/-!
# Options

`#[fixture(...)]` stands on a type, where it sets options of the whole expansion, and on a field,
where it says how the field takes part in construction. All attributes of one node are read
together: a key may be given once, and everything that is wrong is reported.
-/

namespace Specimen

structure TypeOptions where
  /-- The path of the crate with `Sampleable`. -/
  crate : Option Path
  /-- The name of the builder type. -/
  builder : Option Ident
  /-- Whether everything is generated for debug builds only. -/
  debugOnly : Bool
  /-- The visibility to assume if the type is written without a modifier. -/
  enclosing : Option Modifier

structure FieldOptions where
  hasDefault : Bool
  lazy : Bool
  computed : Bool
  observed : Bool
deriving DecidableEq, Repr

instance : EmptyCollection TypeOptions := ⟨⟨none, none, false, none⟩⟩

instance : EmptyCollection FieldOptions := ⟨⟨false, false, false, false⟩⟩

/-! ## Values -/

/-- The value of a literal, as far as options take it. -/
inductive LiteralValue where
  | bool (value : Bool)
  /-- A string, and whether a suffix follows it. -/
  | string (value : String) (suffixed : Bool)
  | other (kind : String)

def Literal.Kind.name : Literal.Kind → String
  | string => "string"
  | byteString => "byte string"
  | cString => "unknown"
  | byte => "byte"
  | char => "char"
  | int => "int"
  | float => "float"

/-- The value that the tokens of a literal spell. -/
def LiteralValue.ofTokens (tokens : List Token) : LiteralValue :=
  -- a sign may stand before the literal
  match tokens.getLast? with
  | some (.ident word) => .bool (word = "true")
  | some (.literal text) =>
    match Literal.kind? text, Literal.stringValue? text with
    | some .string, some value => .string value (Literal.hasStringSuffix text)
    | some kind, _ => .other kind.name
    | none, _ => .other "verbatim"
  | _ => .other "verbatim"

/-- What the value of an option turns out to be: a problem is reported at the given place. -/
abbrev Outcome (α : Type) := Except (Cause × Span) α

/-- A key without a value, or with a list, where a value is needed. A list that cannot be read is
reported as such. -/
def unexpectedForm {α : Type} (item : MetaItem) : Outcome α :=
  match item.form with
  | .literal => .error (.unexpectedFormat "literal", item.span)
  | .word _ => .error (.unexpectedFormat "word", item.span)
  | .list _ body =>
    -- the list is read only to see what is wrong with it
    match MetaItem.readList body with
    | .error fault => .error (.malformed fault, fault.span)
    | .ok _ => .error (.unexpectedFormat "list", item.span)
  | .assign _ value span => .error (.unexpectedType value.shape.name, span)

/-- A truth value: the key alone, `true`, `false`, or one of the two in a string. -/
def readBool (item : MetaItem) : Outcome Bool :=
  match item.form with
  -- the key alone says yes
  | .word _ => .ok true
  | .assign _ ⟨.literal tokens, _⟩ span =>
    match LiteralValue.ofTokens tokens with
    | .bool value => .ok value
    | .string "true" _ => .ok true
    | .string "false" _ => .ok false
    | .string value _ => .error (.unknownValue value, span)
    | .other kind => .error (.unexpectedType kind, span)
  | _ => unexpectedForm item

/-- A value that is written in a string, suffixed or not, and read by `parse`, or is a path that
`ofPath` takes. -/
def readText {α : Type} (parse : String → Bool → Option α) (ofPath : Path → Option α)
    (item : MetaItem) : Outcome (α × Span) :=
  match item.form with
  | .assign _ ⟨.literal tokens, _⟩ span =>
    match LiteralValue.ofTokens tokens with
    | .bool _ => .error (.unexpectedType "bool", span)
    | .other kind => .error (.unexpectedType kind, span)
    | .string value suffixed =>
      match parse value suffixed with
      | some a => .ok (a, span)
      | none => .error (.unknownValue value, span)
  | .assign _ ⟨.path p, _⟩ span =>
    match ofPath p with
    | some a => .ok (a, span)
    | none => .error (.unexpectedType "path", span)
  | _ => unexpectedForm item

/-- Reads code in a string by `parse`; a suffix is no part of the code, so there may be none. -/
def inString {α : Type} (parse : String → Option α) (value : String) (suffixed : Bool) : Option α :=
  if suffixed then none else parse value

/-- The path of a crate: a path, or one in a string. -/
def readCrate (item : MetaItem) : Outcome Path :=
  Prod.fst <$> readText (inString Path.read?) some item

/-- The name of a builder: an identifier, or one in a string. -/
def readBuilder (item : MetaItem) : Outcome Ident :=
  (fun (text, span) => ⟨text, span⟩) <$>
    readText (inString fun s => (Ident.read? s).map (·.text)) Path.ident? item

/-- A modifier in a string. -/
def readEnclosing (item : MetaItem) : Outcome Modifier :=
  -- a modifier is no path, so only a string will do
  Prod.fst <$> readText (fun value _ => Modifier.read? value) (fun _ => none) item

/-! ## Keys -/

/-- The keys of a node's options and what each of them sets. -/
structure KeySet (σ : Type) where
  keys : List String
  set : String → MetaItem → σ → Outcome σ

def TypeOptions.keySet : KeySet TypeOptions where
  keys := ["builder", "crate", "debug_only", "enclosing_vis"]
  set key item o :=
    match key with
    | "builder" => (fun v => { o with builder := some v }) <$> readBuilder item
    | "crate" => (fun v => { o with crate := some v }) <$> readCrate item
    | "debug_only" => (fun v => { o with debugOnly := v }) <$> readBool item
    | "enclosing_vis" => (fun v => { o with enclosing := some v }) <$> readEnclosing item
    | _ => .ok o

def FieldOptions.keySet : KeySet FieldOptions where
  keys := ["computed", "default", "lazy", "observed"]
  set key item o :=
    match key with
    | "computed" => (fun v => { o with computed := v }) <$> readBool item
    | "default" => (fun v => { o with hasDefault := v }) <$> readBool item
    | "lazy" => (fun v => { o with lazy := v }) <$> readBool item
    | "observed" => (fun v => { o with observed := v }) <$> readBool item
    | _ => .ok o

/-! ## Reading the attributes of a node -/

/-- What has been read of a node's options: their values, the keys given so far, and what is
wrong. -/
structure Reading (σ : Type) where
  value : σ
  seen : List String
  problems : List Diagnostic

namespace Reading

variable {σ : Type}

def complain (r : Reading σ) (cause : Cause) (span : Span) : Reading σ :=
  { r with problems := r.problems ++ [⟨cause, span, none⟩] }

/-- Reads the value of a known key. A key counts as given even if its value is bad. -/
def assign (ks : KeySet σ) (r : Reading σ) (key : String) (item : MetaItem) : Reading σ :=
  -- the first value of a key counts
  if r.seen.contains key then r.complain (.duplicateKey key) item.span
  else
    match ks.set key item r.value with
    | .ok value => { r with value, seen := key :: r.seen }
    | .error (cause, span) =>
      { r with seen := key :: r.seen, problems := r.problems ++ [⟨cause, span, some key⟩] }

def keyed (ks : KeySet σ) (r : Reading σ) (key : String) (item : MetaItem) : Reading σ :=
  if ks.keys.contains key then r.assign ks key item
  else r.complain (.unknownKey key ks.keys) item.span

def item (ks : KeySet σ) (r : Reading σ) (item : MetaItem) : Reading σ :=
  match item.form with
  | .literal => r.complain (.unexpectedFormat "literal") item.span
  | .word key => r.keyed ks key item
  | .list key _ => r.keyed ks key item
  | .assign key _ _ => r.keyed ks key item

/-- Reads an options attribute. If its inside cannot be read, none of its items count. -/
def readAttribute (ks : KeySet σ) (r : Reading σ) (a : Attribute) : Reading σ :=
  match a.form with
  | .word => r
  | .nameValue => r.complain .assignedAttribute a.contentSpan
  | .list body =>
    match MetaItem.readList body with
    | .error fault => r.complain (.malformed fault) fault.span
    | .ok items => items.foldl (Reading.item ks) r

def result (r : Reading σ) : Except Report σ :=
  if r.problems.isEmpty then .ok r.value else .error (.ofList (r.problems.map .single))

end Reading

def optionsAttribute : String := "fixture"

def optionAttributes (attributes : List Attribute) : List Attribute :=
  attributes.filter (·.isNamed optionsAttribute)

/-- The options that the attributes of a node set. -/
def readOptions {σ : Type} [EmptyCollection σ] (ks : KeySet σ) (attributes : List Attribute) :
    Except Report σ :=
  ((optionAttributes attributes).foldl (Reading.readAttribute ks) ⟨∅, [], []⟩).result

end Specimen
