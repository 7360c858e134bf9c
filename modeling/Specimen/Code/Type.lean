import Specimen.Token.Basic

/-!
# Types

The written form of Rust types: every type keeps what its author wrote, down to trailing commas and
parentheses. Array lengths and constant arguments are runs of tokens in which types may occur.

Lifetime arguments stand before all others in an argument list; the reader puts them there.
-/

namespace Specimen

/-- The keyword of a type that is given by bounds; older code leaves out `dyn`. -/
inductive BoundsKeyword where
  | dynamic
  | impl
  | bare
deriving DecidableEq, Repr, Inhabited

mutual

/-- A type as written. -/
inductive Ty where
  /-- A path such as `Vec<T>` or `::a::B`. -/
  | path (rooted : Bool) (segments : List Segment)
  /-- A path into a type, `<T as a::Trait>::Item`; without a trait if `trait` is empty. -/
  | qualified (self : Ty) (rooted : Bool) (trait : List Segment) (rest : List Segment)
  /-- `&'a mut T` -/
  | reference (lifetime : Option String) (mutable : Bool) (target : Ty)
  /-- `*const T` or `*mut T` -/
  | pointer (mutable : Bool) (target : Ty)
  /-- `[T]` -/
  | slice (element : Ty)
  /-- `[T; N]` -/
  | array (element : Ty) (length : List Piece)
  /-- `(A, B)`, with a comma at the end if `trailing` -/
  | tuple (elements : List Ty) (trailing : Bool)
  /-- `(T)` -/
  | paren (inner : Ty)
  /-- `for<'a> unsafe extern "C" fn(x: A, ...) -> B`; the binder holds its `for` -/
  | function (binder : List Piece) (qualifiers : List Token) (params : List FnParam)
      (trailing : Bool) (variadic : List Piece) (output : Option Ty)
  /-- `dyn A + 'a`, `impl A`, `A + B` -/
  | bounds (keyword : BoundsKeyword) (list : List Bound) (trailing : Bool)
  /-- `!` -/
  | never
  /-- `_` -/
  | inferred
  /-- A macro call or another form that is kept token by token. -/
  | verbatim (tokens : List Token)

/-- A segment of a path, with its arguments. -/
inductive Segment where
  | plain (name : String)
  /-- `Name<A, B>`, or `Name::<A, B>` if `turbofish` -/
  | angled (name : String) (turbofish : Bool) (args : List Arg) (trailing : Bool)
  /-- `Fn(A, B) -> C` -/
  | called (name : String) (inputs : List Ty) (trailing : Bool) (output : Option Ty)

/-- An argument between angle brackets. -/
inductive Arg where
  | lifetime (name : String)
  | type (ty : Ty)
  | const (value : List Piece)
  /-- `Item = T` -/
  | assocType (item : Segment) (ty : Ty)
  /-- `LEN = 3` -/
  | assocConst (item : Segment) (value : List Piece)
  /-- `Item: A + B` -/
  | constraint (item : Segment) (list : List Bound) (trailing : Bool)

/-- A bound of a type. -/
inductive Bound where
  | lifetime (name : String)
  /-- `(?for<'a> a::Trait)`; the binder holds its `for` -/
  | trait (parenthesized : Bool) (maybe : Bool) (binder : List Piece) (rooted : Bool)
      (segments : List Segment)
  /-- A bound that is kept token by token. -/
  | verbatim (tokens : List Token)

/-- A parameter of a function pointer; its name is documentation. -/
inductive FnParam where
  | mk (attributes : List Piece) (name : Option String) (ty : Ty)

/-- A piece of code in which types are told apart from all other tokens. -/
inductive Piece where
  | token (t : Token)
  | type (ty : Ty)

end

instance : Inhabited Ty := ⟨.never⟩

instance : Inhabited Segment := ⟨.plain ""⟩

namespace Segment

def name : Segment → String
  | plain n => n
  | angled n _ _ _ => n
  | called n _ _ _ => n

def isPlain : Segment → Bool
  | plain _ => true
  | _ => false

/-- Whether the arguments of a segment say nothing, so that others may take their place. -/
def hasNoArguments : Segment → Bool
  | plain _ => true
  | angled _ _ args _ => args.isEmpty
  | called .. => false

end Segment

/-! ## Written form -/

namespace Token

def root (rooted : Bool) : List Token := if rooted then sym "::" else []

def optionalLifetime : Option String → List Token
  | some n => [lifetime n]
  | none => []

end Token

def BoundsKeyword.tokens : BoundsKeyword → List Token
  | dynamic => [.ident "dyn"]
  | impl => [.ident "impl"]
  | bare => []

open Token in
mutual

def Ty.tokens : Ty → List Token
  | .path rooted segments => root rooted ++ separated (sym "::") (Segment.tokensEach segments)
  | .qualified self rooted trait rest =>
    sym "<" ++ self.tokens ++
      (if trait.isEmpty then []
       else .ident "as" :: root rooted ++ separated (sym "::") (Segment.tokensEach trait)) ++
      sym ">" ++ sym "::" ++ separated (sym "::") (Segment.tokensEach rest)
  | .reference region mutable target =>
    sym "&" ++ optionalLifetime region ++ (if mutable then [.ident "mut"] else []) ++
      target.tokens
  | .pointer mutable target =>
    sym "*" ++ [.ident (if mutable then "mut" else "const")] ++ target.tokens
  | .slice element => brackets element.tokens
  | .array element length =>
    brackets (element.tokens ++ sym ";" ++ Piece.tokensOf length)
  | .tuple elements trailing => parens (punctuated (sym ",") (Ty.tokensEach elements) trailing)
  | .paren inner => parens inner.tokens
  | .function binder qualifiers params trailing variadic output =>
    Piece.tokensOf binder ++ qualifiers ++ [.ident "fn"] ++
      parens (punctuated (sym ",") (FnParam.tokensEach params) trailing ++
        Piece.tokensOf variadic) ++
      Ty.tokensOfOutput output
  | .bounds keyword list trailing =>
    keyword.tokens ++ punctuated (sym "+") (Bound.tokensEach list) trailing
  | .never => sym "!"
  | .inferred => [.ident "_"]
  | .verbatim tokens => tokens

def Ty.tokensEach : List Ty → List (List Token)
  | [] => []
  | t :: ts => t.tokens :: Ty.tokensEach ts

def Ty.tokensOfOutput : Option Ty → List Token
  | none => []
  | some t => sym "->" ++ t.tokens

def Segment.tokens : Segment → List Token
  | .plain name => [.ident name]
  | .angled name turbofish args trailing =>
    .ident name :: root turbofish ++ sym "<" ++
      punctuated (sym ",") (Arg.tokensEach args) trailing ++ sym ">"
  | .called name inputs trailing output =>
    .ident name :: parens (punctuated (sym ",") (Ty.tokensEach inputs) trailing) ++
      Ty.tokensOfOutput output

def Segment.tokensEach : List Segment → List (List Token)
  | [] => []
  | s :: ss => s.tokens :: Segment.tokensEach ss

def Arg.tokens : Arg → List Token
  | .lifetime name => [.lifetime name]
  | .type ty => ty.tokens
  | .const value => Piece.tokensOf value
  | .assocType item ty => item.tokens ++ sym "=" ++ ty.tokens
  | .assocConst item value => item.tokens ++ sym "=" ++ Piece.tokensOf value
  | .constraint item list trailing =>
    item.tokens ++ sym ":" ++ punctuated (sym "+") (Bound.tokensEach list) trailing

def Arg.tokensEach : List Arg → List (List Token)
  | [] => []
  | a :: as => a.tokens :: Arg.tokensEach as

def Bound.tokens : Bound → List Token
  | .lifetime name => [.lifetime name]
  | .trait parenthesized maybe binder rooted segments =>
    let inner := (if maybe then sym "?" else []) ++ Piece.tokensOf binder ++ root rooted ++
      separated (sym "::") (Segment.tokensEach segments)
    if parenthesized then parens inner else inner
  | .verbatim tokens => tokens

def Bound.tokensEach : List Bound → List (List Token)
  | [] => []
  | b :: bs => b.tokens :: Bound.tokensEach bs

def FnParam.tokens : FnParam → List Token
  | .mk attributes name ty =>
    Piece.tokensOf attributes ++
      (match name with
       | some n => .ident n :: sym ":"
       | none => []) ++ ty.tokens

def FnParam.tokensEach : List FnParam → List (List Token)
  | [] => []
  | p :: ps => p.tokens :: FnParam.tokensEach ps

def Piece.tokens : Piece → List Token
  | .token t => [t]
  | .type ty => ty.tokens

def Piece.tokensOf : List Piece → List Token
  | [] => []
  | p :: ps => p.tokens ++ Piece.tokensOf ps

end

theorem Segment.tokensEach_eq_map (ss : List Segment) :
    Segment.tokensEach ss = ss.map Segment.tokens := by
  induction ss with
  | nil => simp [Segment.tokensEach]
  | cons s ss ih => simp [Segment.tokensEach, ih]

theorem Arg.tokensEach_eq_map (as : List Arg) : Arg.tokensEach as = as.map Arg.tokens := by
  induction as with
  | nil => simp [Arg.tokensEach]
  | cons a as ih => simp [Arg.tokensEach, ih]

/-! ## Pieces of code -/

def Piece.ofTokens (ts : List Token) : List Piece := ts.map .token

/-- Pieces with a separator between neighbours, and at the end if `trailing`. -/
def Piece.punctuated (separator : String) : List (List Piece) → Bool → List Piece
  | [], _ => []
  | [p], trailing => p ++ if trailing then ofTokens (Token.sym separator) else []
  | p :: q :: ps, trailing =>
    p ++ ofTokens (Token.sym separator) ++ punctuated separator (q :: ps) trailing

/-- The pieces of an argument of a path expression: a type in it is told apart. -/
def Arg.pieces : Arg → List Piece
  | .type ty => [.type ty]
  | .const value => value
  | .assocType item ty => Piece.ofTokens (item.tokens ++ Token.sym "=") ++ [.type ty]
  | other => Piece.ofTokens other.tokens

def Segment.argPieces : Segment → List Piece
  | .angled _ turbofish args trailing =>
    Piece.ofTokens (Token.root turbofish ++ Token.sym "<") ++
      Piece.punctuated "," (args.map Arg.pieces) trailing ++ Piece.ofTokens (Token.sym ">")
  | _ => []

def Segment.pieces : Segment → List Piece
  | .called name inputs trailing output =>
    Piece.ofTokens (Segment.called name inputs trailing output).tokens
  | s => .token (.ident s.name) :: s.argPieces

/-- The pieces of a path expression: its arguments hold types, but the path itself is none. -/
def Segment.pathPieces (rooted : Bool) (segments : List Segment) : List Piece :=
  Piece.ofTokens (Token.root rooted) ++
    Piece.punctuated "::" (segments.map Segment.pieces) false

def Segment.qualifiedPieces (self : Ty) (rooted : Bool) (trait rest : List Segment) : List Piece :=
  Piece.ofTokens (Token.sym "<") ++ [.type self] ++
    (if trait.isEmpty then [] else .token (.ident "as") :: pathPieces rooted trait) ++
    Piece.ofTokens (Token.sym ">" ++ Token.sym "::") ++
    Piece.punctuated "::" (rest.map Segment.pieces) false

/-! ## Paths -/

/-- A path on its own, such as that of a crate. -/
structure Path where
  rooted : Bool
  segments : List Segment

namespace Path

instance : Inhabited Path := ⟨⟨false, []⟩⟩

def ofNames (rooted : Bool) (names : List String) : Path := ⟨rooted, names.map .plain⟩

def tokens (p : Path) : List Token :=
  Token.root p.rooted ++ Token.separated (Token.sym "::") (Segment.tokensEach p.segments)

def join (p : Path) (name : String) : Path := ⟨p.rooted, p.segments ++ [.plain name]⟩

/-- The single bare name that a path consists of. -/
def ident? (p : Path) : Option String :=
  match p with
  | ⟨false, [.plain n]⟩ => some n
  | _ => none

end Path

namespace Ty

def named (name : String) : Ty := .path false [.plain name]

/-- Whether the last segment of a path type is called `name`, whatever its arguments. -/
def isNamed (ty : Ty) (name : String) : Bool :=
  match ty with
  | .path _ segments => segments.getLast?.any (·.name = name)
  | .qualified _ _ _ rest => rest.getLast?.any (·.name = name)
  | _ => false

end Ty

end Specimen
