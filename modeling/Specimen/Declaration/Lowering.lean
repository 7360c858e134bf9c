import Specimen.Declaration.Basic

/-!
# From source to declarations

The options of the type are read first; if they are wrong, nothing else is looked at. The fields of
a struct and the variants of an enum are then checked one by one, and everything that is wrong with
them is reported. Tuple structs and unions are not looked into.
-/

namespace Specimen

/-! ## Members -/

def lazyTypes : List String := ["OnceCell", "OnceLock", "LazyCell", "LazyLock"]

/-- The type without data. -/
def markerType : String := "PhantomData"

/-- The storage that a field's type suggests. -/
def suggestedStorage (ty : Ty) : Storage :=
  if lazyTypes.any ty.isNamed then .lazy
  -- a marker has no data to pass
  else if ty.isNamed markerType then .computed
  else .stored

namespace FieldOptions

def storages (o : FieldOptions) : List Storage :=
  [(o.lazy, Storage.lazy), (o.computed, .computed), (o.observed, .observed)].filterMap
    fun (set, storage) => if set then some storage else none

/-- The storage of a field: the one that its options name, or else what its type suggests. -/
def storage? (o : FieldOptions) (ty : Ty) : Option Storage :=
  match o.storages with
  | [] => some (suggestedStorage ty)
  | [storage] => some storage
  | _ => none

end FieldOptions

def Member.ofField (f : NamedField) : Except Report Member := do
  let options ← readOptions FieldOptions.keySet f.attributes
  match options.storage? f.type with
  | none => .error (.about .conflictingStorage f.span)
  | some storage =>
    -- a default is for constructor arguments
    if options.hasDefault ∧ storage ≠ .stored then .error (.about .meaninglessDefault f.span)
    else
      .ok ⟨[⟨f.name.text, some f.type, options.hasDefault⟩], storage,
        some (.ofModifier f.modifier)⟩

/-! ## Cases -/

def Payload.ofFields : Fields → Payload
  | .unit => .unit
  | .unnamed list => .unlabeled (list.map (·.type))
  | .named list => .labeled (list.map fun f => (f.name.text, f.type))

/-- The options attributes on a variant and on its fields, where they mean nothing. -/
def Variant.misplaced (v : Variant) : List Attribute :=
  optionAttributes (v.attributes ++ v.fields.attributes)

def Case.ofVariant (v : Variant) : Except Report Case :=
  if v.misplaced.isEmpty then .ok ⟨v.name.text, .ofFields v.fields⟩
  else .error (.ofList (v.misplaced.map fun a => .about .optionsOnVariant a.span))

/-! ## Declarations -/

/-- The cases of an enum; a builder option is wrong for it. -/
def casesOf (options : TypeOptions) (variants : List Variant) : Except Report (List Case) :=
  -- before the variants, as the options stand before them
  let builder : List (Except Report Case) := match options.builder with
    | some name => [.error (.about .builderOnEnum name.span)]
    | none => []
  collect (builder ++ variants.map Case.ofVariant)

def DeclarationKind.ofBody (options : TypeOptions) : ItemBody → Except Report DeclarationKind
  | .record (.named fields) => .record <$> collect (fields.map Member.ofField)
  | .record .unit => .ok (.record [])
  | .record (.unnamed _) => .ok (.unsupported .tupleStruct)
  | .enumeration variants => .taggedUnion <$> casesOf options variants
  | .union => .ok (.unsupported .untaggedUnion)

def Declaration.ofItem (item : Item) : Except Report Declaration := do
  -- nothing else is looked at if these are wrong
  let options ← readOptions TypeOptions.keySet item.attributes
  let kind ← DeclarationKind.ofBody options item.body
  return {
    name := item.name
    generics := item.generics
    visibility := some (.ofModifier item.modifier)
    enclosing := options.enclosing.map .ofModifier
    options
    kind }

end Specimen
