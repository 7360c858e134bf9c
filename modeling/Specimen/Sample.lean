import Specimen.Code.Type
import Specimen.Token.Literal

/-!
# Built-in samples

The types that have a sample of their own, and what it is. Containers are empty whatever they hold,
so their elements need no sample; wrappers, arrays and tuples are made of the samples of their
parts.
-/

namespace Specimen

/-- A type, as far as samples are concerned. -/
inductive SampleType where
  | int
  | float
  | bool
  | char
  | unit
  | string
  | duration
  | option (element : SampleType)
  /-- A growable sequence. -/
  | list (element : SampleType)
  /-- A priority queue, whose elements have to be ordered. -/
  | heap (element : SampleType)
  | set (element : SampleType)
  | map (key value : SampleType)
  /-- The marker of a type, by that type's name. -/
  | marker (name : String)
  /-- A pointer that owns its content. -/
  | wrapper (content : SampleType)
  | array (element : SampleType) (length : Nat)
  | tuple (elements : List SampleType)
  /-- A type without a sample. -/
  | other
deriving Inhabited

inductive SampleValue where
  | zero
  | zeroPoint
  | no
  | letter
  | unit
  | emptyText
  | noTime
  | none
  | emptyList
  | emptySet
  | marker (name : String)
  | array (elements : List SampleValue)
  | tuple (elements : List SampleValue)
deriving Inhabited

namespace SampleType

/-! ## Samples -/

def maxTuple : Nat := 12

/-- Whether the values of a type are ordered. -/
def isOrdered : SampleType → Bool
  | int | bool | char | unit | string | duration | marker _ => true
  | option e | list e | wrapper e | array e _ => e.isOrdered
  | set e => e.isOrdered
  | map k v => k.isOrdered && v.isOrdered
  | tuple es => allOrdered es
  -- floats have no total order, and heaps are not compared at all
  | float | heap _ | other => false
where
  /-- Whether the values of each of some types are ordered. -/
  allOrdered : List SampleType → Bool
    | [] => true
    | e :: es => e.isOrdered && allOrdered es

mutual

def sample? : SampleType → Option SampleValue
  | int => some .zero
  | float => some .zeroPoint
  | bool => some .no
  | char => some .letter
  | unit => some .unit
  | string => some .emptyText
  | duration => some .noTime
  | option _ => some .none
  | list _ => some .emptyList
  -- only elements in an order make a heap, empty or not
  | heap e => if e.isOrdered then some .emptyList else none
  | set _ => some .emptySet
  | map _ _ => some .emptySet
  | marker name => some (.marker name)
  | wrapper content => content.sample?
  | array element length => element.sample?.map fun v => .array (List.replicate length v)
  | tuple elements =>
    -- the empty tuple is `unit`
    if 1 ≤ elements.length ∧ elements.length ≤ maxTuple then (samples? elements).map .tuple
    else none
  | other => none

/-- The samples of some types, if all of them have one. -/
def samples? : List SampleType → Option (List SampleValue)
  | [] => some []
  | t :: ts => do return (← t.sample?) :: (← samples? ts)

end

/-! ## Reading types -/

/-- The types without parameters, by name. -/
def ofName (name : String) : SampleType :=
  if ["i8", "i16", "i32", "i64", "i128", "isize",
      "u8", "u16", "u32", "u64", "u128", "usize"].contains name then int
  else if ["f32", "f64"].contains name then float
  else
    match name with
    | "bool" => bool
    | "char" => char
    | "String" => string
    | "Duration" => duration
    | _ => other

/-- The types with parameters, by name. -/
def ofGeneric (name : String) (args : List SampleType) : SampleType :=
  match name, args with
  | "Option", [e] => option e
  | "Vec", [e] => list e
  | "VecDeque", [e] => list e
  | "BinaryHeap", [e] => heap e
  | "BTreeSet", [e] => set e
  | "HashSet", [e] => set e
  | "BTreeMap", [k, v] => map k v
  | "HashMap", [k, v] => map k v
  | "Box", [e] => wrapper e
  | "Rc", [e] => wrapper e
  | "Arc", [e] => wrapper e
  | _, _ => other

def displayName : List Token → String
  | [] => ""
  | [t] => t.spelling
  | t :: u :: rest => t.spelling ++ gap t u ++ displayName (u :: rest)
where
  /-- What stands between two tokens of a name. -/
  gap : Token → Token → String
    | .punct _ _, .closing _ => ""
    | .punct ',' _, _ => " "
    | .punct ';' _, _ => " "
    | .ident _, .ident _ => " "
    | _, _ => ""

/-- The length that a literal gives an array. -/
def length? : List Piece → Option Nat
  | [.token (.literal text)] =>
    if text.toList.head?.any Char.isDigit then some (Literal.wholeValue text.toList) else none
  | _ => none

mutual

/-- A type as far as samples are concerned. -/
def ofTy : Ty → SampleType
  | .path _ segments => ofSegments segments
  -- the only reference with a sample is the empty text
  | .reference _ false (.path _ [.plain "str"]) => string
  | .array element length =>
    match length? length with
    | some n => array (ofTy element) n
    | none => other
  | .tuple [] _ => unit
  | .tuple elements _ => tuple (ofTys elements)
  -- parentheses make no other type
  | .paren inner => ofTy inner
  | _ => other

def ofTys : List Ty → List SampleType
  | [] => []
  | t :: ts => ofTy t :: ofTys ts

/-- A path type is known by its last segment. -/
def ofSegments : List Segment → SampleType
  | [] => other
  | [s] => ofSegment s
  | _ :: s :: ss => ofSegments (s :: ss)

def ofSegment : Segment → SampleType
  | .plain name => ofName name
  -- a marker goes by the text of its argument, which may be any type
  | .angled "PhantomData" _ [a] _ => marker (displayName a.tokens)
  | .angled name _ args _ => ofGeneric name (ofArgs args)
  | .called .. => other

def ofArgs : List Arg → List SampleType
  | [] => []
  | .type ty :: as => ofTy ty :: ofArgs as
  -- a lifetime or constant counts as an argument, so that the number of them is right
  | _ :: as => other :: ofArgs as

end

end SampleType

/-! ## Text -/

namespace SampleValue

mutual

def text : SampleValue → String
  | zero => "0"
  | zeroPoint => "0.0"
  | no => "false"
  | letter => "'a'"
  | unit => "()"
  | emptyText => "\"\""
  | noTime => "0ns"
  | none => "None"
  | emptyList => "[]"
  | emptySet => "\x7b\x7d"
  | marker name => "PhantomData<" ++ name ++ ">"
  | array elements => "[" ++ ", ".intercalate (texts elements) ++ "]"
  -- a tuple of one has a comma
  | tuple [e] => "(" ++ e.text ++ ",)"
  | tuple elements => "(" ++ ", ".intercalate (texts elements) ++ ")"

def texts : List SampleValue → List String
  | [] => []
  | v :: vs => v.text :: texts vs

end

end SampleValue

end Specimen
