/-!
# Positions in source text

A position counts lines from one and columns from zero, in characters. A span is the
half-open stretch between two positions.
-/

namespace Specimen

/-- A place in a source text: lines count from one, columns from zero. -/
structure Position where
  line : Nat
  column : Nat
deriving DecidableEq, Repr, Inhabited

namespace Position

def origin : Position := ⟨1, 0⟩

/-- The place after `c`: a line feed opens a new line, any other character is one column. -/
def next (p : Position) (c : Char) : Position :=
  if c = '\n' then ⟨p.line + 1, 0⟩ else ⟨p.line, p.column + 1⟩

def advance (p : Position) (cs : List Char) : Position := cs.foldl next p

end Position

/-- A stretch of source text, its end excluded. -/
structure Span where
  start : Position
  stop : Position
deriving DecidableEq, Repr, Inhabited

namespace Span

/-- The empty span at the origin, reported where a text ends and nothing can be pointed at. -/
def nowhere : Span := ⟨.origin, .origin⟩

def through (a b : Span) : Span := ⟨a.start, b.stop⟩

def firstColumn (s : Span) : Span := ⟨s.start, ⟨s.start.line, s.start.column + 1⟩⟩

end Span

end Specimen
