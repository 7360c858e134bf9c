import Specimen.Text.Blank
import Specimen.Text.IdentifierChar

/-!
# Literals

The spellings of string, byte, character and number literals. Each scanner takes the characters
from where a literal may start and gives what is left after it; string literals are read at the
same time. A literal may carry a suffix, which is any identifier.
-/

namespace Specimen.Literal

open Text

/-- The kinds of literals that a spelling tells apart. -/
inductive Kind where
  | string
  | byteString
  | cString
  | byte
  | char
  | int
  | float
deriving DecidableEq, Repr, Inhabited

/-! ## Suffixes -/

def afterName? : List Char → Option (List Char)
  | c :: cs => if isIdentStart c then some (cs.dropWhile isIdentContinue) else none
  | [] => none

def afterSuffix (cs : List Char) : List Char := (afterName? cs).getD cs

/-- What is left after the suffix of a number, if the number ends there. -/
def afterNumberSuffix? (cs : List Char) : Option (List Char) :=
  let rest := afterSuffix cs
  match rest with
  | c :: _ => if isIdentContinue c then none else some rest
  | [] => some rest

/-! ## Escapes -/

def hexValue? (c : Char) : Option Nat :=
  if '0' ≤ c ∧ c ≤ '9' then some (c.toNat - '0'.toNat)
  else if 'a' ≤ c ∧ c ≤ 'f' then some (c.toNat - 'a'.toNat + 10)
  else if 'A' ≤ c ∧ c ≤ 'F' then some (c.toNat - 'A'.toNat + 10)
  else none

/-- The code point given by up to six digits and a closing brace, and what is left. -/
def braced? (count value : Nat) : List Char → Option (Char × List Char)
  | [] => none
  -- underscores may stand between digits, not before the first
  | '_' :: cs => if count = 0 then none else braced? count value cs
  | '\x7d' :: cs =>
    if count ≠ 0 ∧ value.isValidChar then some (Char.ofNat value, cs) else none
  | c :: cs =>
    match hexValue? c with
    | none => none
    | some d => if count = 6 then none else braced? (count + 1) (16 * value + d) cs

/-- The texts in which escapes may stand. -/
inductive Flavour where
  | text
  | bytes
  | cText
deriving DecidableEq, Repr

/-- Whether a text may hold a character that an escape stands for. -/
def Flavour.admits : Flavour → Char → Bool
  | .cText, c => c ≠ '\x00'
  | _, _ => true

/-- The character that an escape stands for, read after its backslash, and what is left. -/
def escape? (flavour : Flavour) : List Char → Option (Char × List Char)
  | 'n' :: cs => some ('\n', cs)
  | 'r' :: cs => some ('\r', cs)
  | 't' :: cs => some ('\t', cs)
  | '\\' :: cs => some ('\\', cs)
  | '\'' :: cs => some ('\'', cs)
  | '"' :: cs => some ('"', cs)
  -- a text that ends in a zero cannot hold one
  | '0' :: cs => if flavour = .cText then none else some ('\x00', cs)
  | 'x' :: h :: l :: cs =>
    match hexValue? h, hexValue? l with
    | some hi, some lo =>
      let value := Char.ofNat (16 * hi + lo)
      -- a code point above 0x7f has to be written with `u`
      if (flavour = .text ∧ 8 ≤ hi) ∨ !flavour.admits value then none else some (value, cs)
    | _, _ => none
  | 'u' :: '\x7b' :: cs =>
    if flavour = .bytes then none
    else (braced? 0 0 cs).filter fun p => flavour.admits p.1
  | _ => none

/-- The closing brace is taken in any case. -/
theorem braced?_length {count value : Nat} {cs rest : List Char} {c : Char}
    (h : braced? count value cs = some (c, rest)) : rest.length < cs.length := by
  fun_induction braced? count value cs with
  | case1 => simp at h
  | case2 => simp at h
  | case3 count value cs _ ih => have := ih h; simp only [List.length_cons]; omega
  | case4 => simp at h; simp [h.2]
  | case5 => simp at h
  | case6 => simp at h
  | case7 => simp at h
  | case8 count value c cs _ _ _ _ _ ih => have := ih h; simp only [List.length_cons]; omega

/-- An escape takes at least one character. -/
theorem escape?_length {flavour : Flavour} {cs rest : List Char} {c : Char}
    (h : escape? flavour cs = some (c, rest)) : rest.length < cs.length := by
  unfold escape? at h
  split at h
  all_goals first
    | (simp only [Option.some.injEq, Prod.mk.injEq] at h; simp [← h.2])
    | skip
  · split at h
    · simp at h
    · simp only [Option.some.injEq, Prod.mk.injEq] at h; simp [← h.2]
  · split at h
    · dsimp only at h
      split at h
      · simp at h
      · simp only [Option.some.injEq, Prod.mk.injEq] at h; simp [← h.2]; omega
    · simp at h
  · split at h
    · simp at h
    · simp only [Option.filter_eq_some_iff] at h
      have := braced?_length h.1
      simp; omega
  · simp at h

/-! ## Strings -/

/-- The content of a string up to its closing quote, and what is left after the quote. A backslash
at the end of a line joins the lines: the white space that follows is no part of the content. It is
being left out as long as `skipping` holds. -/
def cooked? (flavour : Flavour) (skipping : Bool) (cs : List Char) :
    Option (List Char × List Char) :=
  match cs with
  | [] => none
  | '"' :: rest => some ([], rest)
  | '\r' :: '\n' :: rest =>
    (cooked? flavour skipping rest).map fun (v, r) => (if skipping then v else '\n' :: v, r)
  -- a carriage return may only stand before a line feed
  | '\r' :: _ => none
  -- the line goes on after the white space at the start of the next one
  | '\\' :: '\n' :: rest => cooked? flavour true rest
  | '\\' :: '\r' :: '\n' :: rest => cooked? flavour true rest
  | '\\' :: rest =>
    match _h : escape? flavour rest with
    | none => none
    | some (c, rest') => (cooked? flavour false rest').map fun (v, r) => (c :: v, r)
  | c :: rest =>
    if (flavour = .bytes ∧ 0x80 ≤ c.toNat) ∨ !flavour.admits c then none
    else
      let left := skipping && isWhite c
      (cooked? flavour left rest).map fun (v, r) => (if left then v else c :: v, r)
termination_by cs.length
decreasing_by
  all_goals simp only [List.length_cons]
  all_goals try omega
  have := escape?_length _h
  omega

/-- The content of a raw string up to its closing quote and `hashes` hash signs, and what is
left. -/
def raw? (flavour : Flavour) (hashes : Nat) : List Char → Option (List Char × List Char)
  | [] => none
  | c :: cs =>
    -- a quote without as many hash signs is part of the content
    if c = '"' ∧ (List.replicate hashes '#').isPrefixOf cs then some ([], cs.drop hashes)
    else if c = '\r' ∧ cs.head? ≠ some '\n' then none
    else if (flavour = .bytes ∧ 0x80 ≤ c.toNat) ∨ !flavour.admits c then none
    else (raw? flavour hashes cs).map fun (v, r) => (c :: v, r)

/-- The content of a raw string, read after its `r`. -/
def rawString? (flavour : Flavour) (cs : List Char) : Option (List Char × List Char) :=
  let hashes := (cs.takeWhile (· = '#')).length
  match cs.drop hashes with
  -- no more hash signs than fit in a byte
  | '"' :: rest => if 255 < hashes then none else raw? flavour hashes rest
  | _ => none

/-- The content of a string of a flavour, plain or raw, read where its quote or `r` stands. -/
def stringBody? (flavour : Flavour) : List Char → Option (List Char × List Char)
  | '"' :: cs => cooked? flavour false cs
  | 'r' :: cs => rawString? flavour cs
  | _ => none

/-- What is left after the character of a byte or character literal and its closing apostrophe. -/
def afterQuoted? (flavour : Flavour) : List Char → Option (List Char)
  | '\\' :: cs =>
    match escape? flavour cs with
    | some (_, '\'' :: rest) => some rest
    | _ => none
  | c :: '\'' :: rest => if flavour = .bytes ∧ 0x80 ≤ c.toNat then none else some rest
  | _ => none

/-! ## Numbers -/

def isDigitOrGap (c : Char) : Bool := c.isDigit || c = '_'

/-- What is left after the value of an exponent, read after its `e`. -/
def afterExponent? (cs : List Char) : Option (List Char) :=
  -- underscores may stand on either side of the sign
  let unsigned := match cs.dropWhile (· = '_') with
    | c :: rest => if c = '+' ∨ c = '-' then rest.dropWhile (· = '_') else c :: rest
    | [] => []
  match unsigned with
  | c :: rest => if c.isDigit then some (rest.dropWhile isDigitOrGap) else none
  | [] => none

/-- What is left after the digits of a number with a point or an exponent. -/
def afterFloatDigits? : List Char → Option (List Char)
  | [] => none
  | c :: cs =>
    if !c.isDigit then none
    else
      match cs.dropWhile isDigitOrGap with
      | '.' :: fraction =>
        -- `1..2` is a range and `1.foo` an access
        if fraction.head?.any fun d => d = '.' || isIdentStart d then none
        else
          let rest := fraction.dropWhile isDigitOrGap
          match rest with
          | e :: exponent =>
            -- an `e` without an exponent opens a suffix
            if e = 'e' ∨ e = 'E' then afterExponent? exponent <|> some rest else some rest
          | [] => some rest
      | e :: exponent => if e = 'e' ∨ e = 'E' then afterExponent? exponent else none
      | [] => none

/-- What is left after the digits of a whole number in a base; there has to be one. -/
def afterDigits? (base : Nat) (seen : Bool) : List Char → Option (List Char)
  | [] => if seen then some [] else none
  | '_' :: cs => if !seen && base = 10 then none else afterDigits? base seen cs
  | c :: cs =>
    match hexValue? c with
    | some d =>
      if d < base then afterDigits? base true cs
      -- `0b12` is no number, while `0b1f` has a suffix
      else if c.isDigit then none
      else if seen then some (c :: cs) else none
    | none => if seen then some (c :: cs) else none

/-- What is left after a whole number, its base given by its first two characters. -/
def afterWhole? : List Char → Option (List Char)
  | '0' :: 'x' :: cs => afterDigits? 16 false cs
  | '0' :: 'o' :: cs => afterDigits? 8 false cs
  | '0' :: 'b' :: cs => afterDigits? 2 false cs
  | cs => afterDigits? 10 false cs

/-- The number that digits in a base spell after `value`, up to what is no digit. Underscores do not
count. -/
def digitsValue (base value : Nat) : List Char → Nat
  | [] => value
  | '_' :: cs => digitsValue base value cs
  | c :: cs =>
    match hexValue? c with
    | some d => if d < base then digitsValue base (base * value + d) cs else value
    | none => value

/-- The value of a whole number, its base given by its first two characters. -/
def wholeValue : List Char → Nat
  | '0' :: 'x' :: cs => digitsValue 16 0 cs
  | '0' :: 'o' :: cs => digitsValue 8 0 cs
  | '0' :: 'b' :: cs => digitsValue 2 0 cs
  | cs => digitsValue 10 0 cs

/-! ## All literals -/

/-- What is left after a string literal of a flavour. -/
def afterString? (flavour : Flavour) (cs : List Char) : Option (List Char) :=
  (stringBody? flavour cs).map fun (_, rest) => afterSuffix rest

def scan? (cs : List Char) : Option (Kind × List Char) :=
  let quoted : Option (Kind × List Char) :=
    match cs with
    | 'b' :: '\'' :: rest => (afterQuoted? .bytes rest).map fun r => (.byte, afterSuffix r)
    | 'b' :: rest => (afterString? .bytes rest).map (.byteString, ·)
    | 'c' :: rest => (afterString? .cText rest).map (.cString, ·)
    | '\'' :: rest => (afterQuoted? .text rest).map fun r => (.char, afterSuffix r)
    | _ => (afterString? .text cs).map (.string, ·)
  -- numbers with a point come first, since a whole number is what they open with
  quoted
    <|> ((afterFloatDigits? cs).bind afterNumberSuffix?).map (.float, ·)
    <|> ((afterWhole? cs).bind afterNumberSuffix?).map (.int, ·)

def kind? (text : String) : Option Kind := (scan? text.toList).map (·.1)

def stringValue? (text : String) : Option String :=
  (stringBody? .text text.toList).map fun (v, _) => String.ofList v

/-- Whether a suffix follows the closing quote of a string literal that is spelled `text`. -/
def hasStringSuffix (text : String) : Bool :=
  (stringBody? .text text.toList).any fun (_, rest) => !rest.isEmpty

end Specimen.Literal
