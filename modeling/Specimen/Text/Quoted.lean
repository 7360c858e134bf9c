import Specimen.Text.VisibleChar

/-!
# Quoted text

The written form of a string literal: double quotes around the text, a backslash before what a
quoted text cannot hold, and a braced code point for a character without a visible form.
-/

namespace Specimen.Text

def hexDigits (n : Nat) : List Char := Nat.toDigits 16 n

/-- A character given by its code point, as in `\u{200b}`. -/
def codePointEscape (c : Char) : List Char :=
  ['\\', 'u', '\x7b'] ++ hexDigits c.toNat ++ ['\x7d']

/-- How one character is written, given the text after it: a zero character is written longer
before an octal digit, which would otherwise seem to belong to it. -/
def quoteChar (c : Char) (after : List Char) : List Char :=
  if c = '\x00' then
    match after with
    | d :: _ => if '0' ≤ d ∧ d ≤ '7' then ['\\', 'x', '0', '0'] else ['\\', '0']
    | [] => ['\\', '0']
  else if c = '\t' then ['\\', 't']
  else if c = '\r' then ['\\', 'r']
  else if c = '\n' then ['\\', 'n']
  else if c = '"' then ['\\', '"']
  else if c = '\\' then ['\\', '\\']
  else if isVisible c then [c]
  else codePointEscape c

/-- The inside of the quoted form of a text. -/
def quoteChars : List Char → List Char
  | [] => []
  | c :: cs => quoteChar c cs ++ quoteChars cs

def quote (s : String) : String :=
  String.ofList ('"' :: quoteChars s.toList ++ ['"'])

end Specimen.Text
