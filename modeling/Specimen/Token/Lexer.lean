import Specimen.Token.Literal
import Specimen.Token.Tree
import Specimen.Text.Quoted

/-!
# From source text to token trees

Blanks and comments separate tokens and leave no trace, except documentation comments, which stand
for the attribute `doc` with their text. The tokens found are then folded into trees; brackets that
do not match, and characters that open no token, make the text unreadable.
-/

namespace Specimen.Lexer

open Text Literal

/-! ## Blanks and comments -/

/-- What is left after a block comment that is `depth` levels deep here. Comments nest. -/
def afterBlockComment? : Nat → List Char → Option (List Char)
  | _, [] => none
  | depth, '/' :: '*' :: cs => afterBlockComment? (depth + 1) cs
  | depth, '*' :: '/' :: cs => if depth ≤ 1 then some cs else afterBlockComment? (depth - 1) cs
  | depth, _ :: cs => afterBlockComment? depth cs

/-- A comment takes its two closing characters at least. -/
theorem afterBlockComment?_length {depth : Nat} {cs rest : List Char}
    (h : afterBlockComment? depth cs = some rest) : rest.length < cs.length := by
  fun_induction afterBlockComment? depth cs with
  | case1 => simp at h
  | case2 depth cs ih => have := ih h; simp only [List.length_cons]; omega
  | case3 depth cs _ =>
    simp only [Option.some.injEq] at h
    subst h
    simp only [List.length_cons]
    omega
  | case4 depth cs _ ih => have := ih h; simp only [List.length_cons]; omega
  | case5 => rename_i ih; have := ih h; simp only [List.length_cons]; omega

/-- The text of a line comment, and what is left; the line break is not part of the text. -/
def restOfLine : List Char → List Char × List Char
  | [] => ([], [])
  | '\n' :: cs => ([], '\n' :: cs)
  | '\r' :: '\n' :: cs => ([], '\n' :: cs)
  | c :: cs => let (line, rest) := restOfLine cs; (c :: line, rest)

/-- The rest of a line may be empty. -/
theorem restOfLine_length (cs : List Char) : (restOfLine cs).2.length ≤ cs.length := by
  fun_induction restOfLine cs with
  | case1 => simp
  | case2 => simp
  | case3 => simp
  | case4 c cs _ _ line rest heq ih => simp only [heq] at ih ⊢; simp only [List.length_cons]; omega

/-- Whether a line comment opens here, one that documents nothing. -/
def opensPlainLine : List Char → Bool
  -- four slashes document nothing, three do
  | '/' :: '/' :: '/' :: '/' :: _ => true
  | '/' :: '/' :: '/' :: _ => false
  | '/' :: '/' :: '!' :: _ => false
  | '/' :: '/' :: _ => true
  | _ => false

/-- Whether a block comment opens here, one that documents nothing. -/
def opensPlainBlock : List Char → Bool
  -- `/**/` is empty, and three stars document nothing
  | '/' :: '*' :: '*' :: '/' :: _ => true
  | '/' :: '*' :: '*' :: '*' :: _ => true
  | '/' :: '*' :: '*' :: _ => false
  | '/' :: '*' :: '!' :: _ => false
  | '/' :: '*' :: _ => true
  | _ => false

/-- What is left after blanks and comments; nothing if a comment is not closed. -/
def afterBlanks? (cs : List Char) : Option (List Char) :=
  match cs with
  | [] => some []
  | c :: rest =>
    if opensPlainLine cs then afterBlanks? (restOfLine rest).2
    else if opensPlainBlock cs then
      match _h : afterBlockComment? 1 (rest.drop 1) with
      | none => none
      | some after => afterBlanks? after
    else if isBlank c then afterBlanks? rest
    else some cs
termination_by cs.length
decreasing_by
  · have := restOfLine_length rest; simp only [List.length_cons]; omega
  · have := afterBlockComment?_length _h
    simp only [List.length_drop, List.length_cons] at this ⊢
    omega
  · simp

/-! ## Tokens -/

/-- A lexeme: a token, or the text of a documentation comment. -/
inductive Lexeme where
  | token (t : Token)
  | doc (text : List Char) (inner : Bool)

/-- Whether every carriage return is followed by a line feed. -/
def breaksLines : List Char → Bool
  | '\r' :: '\n' :: cs => breaksLines cs
  | '\r' :: _ => false
  | _ :: cs => breaksLines cs
  | [] => true

/-- The text of a block comment, read after its three opening characters, and what is left. -/
def blockText? (cs : List Char) : Option (List Char × List Char) :=
  (afterBlockComment? 1 cs).map fun rest => (cs.take (cs.length - rest.length - 2), rest)

/-- A documentation comment, and what is left after it. -/
def docComment? (cs : List Char) : Option (Lexeme × List Char) :=
  let found : Option ((List Char × List Char) × Bool) :=
    match cs with
    | '/' :: '/' :: '!' :: rest => some (restOfLine rest, true)
    | '/' :: '*' :: '!' :: rest => (blockText? rest).map (·, true)
    | '/' :: '/' :: '/' :: rest =>
      if rest.head? = some '/' then none else some (restOfLine rest, false)
    | '/' :: '*' :: '*' :: rest =>
      if rest.head? = some '*' then none else (blockText? rest).map (·, false)
    | _ => none
  found.bind fun ((text, rest), inner) =>
    if breaksLines text then some (.doc text inner, rest) else none

def isMark (c : Char) : Bool := "~!@#$%^&*-=+|;:,<.>/?'".toList.contains c

/-- Whether a punctuation mark stands here, and not the opening of a comment. -/
def atMark : List Char → Bool
  | '/' :: '/' :: _ => false
  | '/' :: '*' :: _ => false
  | c :: _ => isMark c
  | [] => false

/-- The openings of quoted forms, which are no identifiers when the quoted form is malformed. -/
def quoteOpenings : List String :=
  ["r\"", "r#\"", "r##", "b\"", "b'", "br\"", "br#", "c\"", "cr\"", "cr#"]

def name? (cs : List Char) : Option (String × List Char) :=
  (afterName? cs).map fun rest => (String.ofList (cs.take (cs.length - rest.length)), rest)

/-- The words that have no raw form. -/
def neverRaw : List String := ["_", "super", "self", "Self", "crate"]

def anyIdent? : List Char → Option (String × List Char)
  | 'r' :: '#' :: cs => (name? cs).bind fun (n, rest) =>
      if neverRaw.contains n then none else some ("r#" ++ n, rest)
  | cs => name? cs

def ident? (cs : List Char) : Option (Lexeme × List Char) :=
  if quoteOpenings.any fun s => s.toList.isPrefixOf cs then none
  else (anyIdent? cs).map fun (n, rest) => (.token (.ident n), rest)

/-- A lifetime, read after its apostrophe, and what is left after it. -/
def lifetime? (cs : List Char) : Option (Lexeme × List Char) :=
  (anyIdent? cs).bind fun (n, rest) =>
    match rest with
    -- a character literal that is not closed as one
    | '\'' :: _ => none
    -- `'a#` is no prefix of anything, but `'r#a#` has its mark already
    | '#' :: _ => if "r#".toList.isPrefixOf cs then some (.token (.lifetime n), rest) else none
    | _ => some (.token (.lifetime n), rest)

/-- The lexeme that stands here, and what is left after it. Literals come before identifiers, since
`b"x"` and `r"x"` open like one. -/
def lexeme? (cs : List Char) : Option (Lexeme × List Char) :=
  match docComment? cs with
  | some found => some found
  | none =>
    match cs with
    | [] => none
    | c :: rest =>
      match Delimiter.ofOpener? c, Delimiter.ofCloser? c with
      | some d, _ => some (.token (.opening d), rest)
      | _, some d => some (.token (.closing d), rest)
      | none, none =>
        match Literal.scan? cs with
        | some (_, after) =>
          some (.token (.literal (String.ofList (cs.take (cs.length - after.length)))), after)
        | none =>
          -- an apostrophe that opens no character literal opens a lifetime
          if atMark cs then
            if c = '\'' then lifetime? rest else some (.token (.punct c (atMark rest)), rest)
          else ident? cs

/-- The tokens of a lexeme; a documentation comment is written as the attribute it stands for. -/
def Lexeme.tokens : Lexeme → List Token
  | .token t => [t]
  | .doc text inner =>
    Token.sym "#" ++ (if inner then Token.sym "!" else []) ++
      Token.brackets (.ident "doc" :: Token.sym "=" ++ [.literal (quote (String.ofList text))])

/-- The tokens of a text that starts at `pos`, with their places. -/
def tokens? (pos : Position) (cs : List Char) : Option (List (Token × Span)) :=
  match afterBlanks? cs with
  | none => none
  | some [] => some []
  | some here =>
    match lexeme? here with
    | none => none
    | some (lexeme, rest) =>
      -- every lexeme takes a character, so nothing is lost here
      if _h : rest.length < cs.length then
        let start := pos.advance (cs.take (cs.length - here.length))
        let stop := start.advance (here.take (here.length - rest.length))
        (tokens? stop rest).map (lexeme.tokens.map (·, ⟨start, stop⟩) ++ ·)
      else none
termination_by cs.length

/-! ## Trees -/

/-- A group that is not closed yet: its bracket, and the trees before it, the latest first. -/
structure OpenGroup where
  delimiter : Delimiter
  span : Span
  before : List Tree

/-- Folds tokens into trees. `done` holds the trees of the innermost open group, the latest
first. -/
def trees? : List OpenGroup → List Tree → List (Token × Span) → Option (List Tree)
  | [], done, [] => some done.reverse
  -- a bracket is not closed
  | _ :: _, _, [] => none
  | stack, done, (.opening d, s) :: rest => trees? (⟨d, s, done⟩ :: stack) [] rest
  -- a bracket was never opened
  | [], _, (.closing _, _) :: _ => none
  | g :: stack, done, (.closing d, s) :: rest =>
    if g.delimiter = d then trees? stack (.group d done.reverse g.span s :: g.before) rest
    else none
  | stack, done, (t, s) :: rest => trees? stack (.leaf t s :: done) rest

/-- The trees of a source text. A leading byte order mark is dropped. -/
def read? (source : String) : Option (List Tree) :=
  let cs := match source.toList with
    | '\ufeff' :: rest => rest
    | cs => cs
  (tokens? .origin cs).bind (trees? [] [])

end Specimen.Lexer
