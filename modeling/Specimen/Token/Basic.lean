/-!
# Tokens and their text

Code is a list of tokens. Brackets are tokens like any other and always come in pairs; a group is
written by `parens`, `brackets` or `braces`. The text of a token list puts one blank between
neighbours, except inside round and square brackets and after a punctuation mark that is joined to
the next one.
-/

namespace Specimen

/-- The three kinds of brackets. -/
inductive Delimiter where
  | paren
  | bracket
  | brace
deriving DecidableEq, Repr, Inhabited

namespace Delimiter

def opener : Delimiter → Char
  | paren => '('
  | bracket => '['
  | brace => '\x7b'

def closer : Delimiter → Char
  | paren => ')'
  | bracket => ']'
  | brace => '\x7d'

def ofOpener? (c : Char) : Option Delimiter :=
  [paren, bracket, brace].find? (·.opener = c)

def ofCloser? (c : Char) : Option Delimiter :=
  [paren, bracket, brace].find? (·.closer = c)

end Delimiter

/-- A token of code. Identifiers and literals keep their spelling, with `r#` and suffixes; a
lifetime is named without its apostrophe; a punctuation mark knows whether it is joined to the
mark after it. -/
inductive Token where
  | ident (name : String)
  | lifetime (name : String)
  | punct (char : Char) (joint : Bool)
  | literal (text : String)
  | opening (delimiter : Delimiter)
  | closing (delimiter : Delimiter)
deriving DecidableEq, Repr, Inhabited

namespace Token

/-! ## Writing code -/

/-- The marks of a symbol of one or more characters, each joined to the next. -/
def marks : List Char → List Token
  | [] => []
  | [c] => [punct c false]
  | c :: cs => punct c true :: marks cs

/-- A symbol such as `::` or `->`. -/
def sym (s : String) : List Token := marks s.toList

def words (names : List String) : List Token := names.map ident

def group (d : Delimiter) (body : List Token) : List Token := opening d :: body ++ [closing d]

def parens (body : List Token) : List Token := group .paren body

def brackets (body : List Token) : List Token := group .bracket body

def braces (body : List Token) : List Token := group .brace body

/-- Pieces of code with a separator between neighbours. -/
def separated (sep : List Token) : List (List Token) → List Token
  | [] => []
  | [x] => x
  | x :: xs => x ++ sep ++ separated sep xs

def commaSeparated (xs : List (List Token)) : List Token := separated (sym ",") xs

/-- Pieces of code with a comma after each. -/
def commaTerminated (xs : List (List Token)) : List Token := xs.flatMap (· ++ sym ",")

/-- Pieces of code with a separator between neighbours, and after the last one if `trailing`. -/
def punctuated (sep : List Token) (xs : List (List Token)) (trailing : Bool) : List Token :=
  separated sep xs ++ if trailing && !xs.isEmpty then sep else []

def hashAttribute (content : List Token) : List Token := sym "#" ++ brackets content

/-- Two pieces have a separator between them, whatever comes later. -/
theorem separated_cons_cons (sep x y : List Token) (xs : List (List Token)) :
    separated sep (x :: y :: xs) = x ++ sep ++ separated sep (y :: xs) := rfl

/-- A comma after each piece is a comma between neighbours and one at the end. -/
theorem commaTerminated_eq_punctuated (xs : List (List Token)) :
    commaTerminated xs = punctuated (sym ",") xs true := by
  induction xs with
  | nil => rfl
  | cons x xs ih =>
    cases xs with
    | nil => simp [commaTerminated, punctuated, separated]
    | cons y ys =>
      simp only [commaTerminated, List.flatMap_cons] at ih ⊢
      rw [ih]
      simp [punctuated, separated_cons_cons]

/-! ## Text -/

def spelling : Token → String
  | ident name => name
  | lifetime name => "'" ++ name
  | punct c _ => c.toString
  | literal text => text
  | opening d => d.opener.toString
  | closing d => d.closer.toString

/-- Whether a token is followed by the next one without a blank. -/
def abuts : Token → Token → Bool
  -- braces have blanks on both sides
  | opening .paren, _ => true
  | opening .bracket, _ => true
  | _, closing .paren => true
  | _, closing .bracket => true
  | punct _ joint, _ => joint
  | _, _ => false

def text : List Token → String
  | [] => ""
  | [t] => t.spelling
  | t :: u :: rest => t.spelling ++ (if t.abuts u then "" else " ") ++ text (u :: rest)

end Token

end Specimen
