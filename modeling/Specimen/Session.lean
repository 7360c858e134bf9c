import Specimen.Synthesis.Deriver

/-!
# Editing sessions

A declaration and a deriver that are changed step by step. A change that makes no sense for the
current kind of declaration is refused and changes nothing.
-/

namespace Specimen

/-- A declaration under a deriver. -/
structure Session where
  declaration : Declaration
  deriver : Deriver

/-- Something that a declaration consists of. -/
inductive Entry where
  | member (m : Member)
  | case (c : Case)

inductive Edit where
  | replace (d : Declaration)
  | enclose (v : Visibility)
  | setVisibility (v : Option Visibility)
  | rename (name : Ident)
  | setGenerics (g : Generics)
  | setCrate (p : Option Path)
  | setDefaultCrate (p : Path)
  | setBuilder (name : Option Ident)
  | setDebugOnly (on : Bool)
  | setOptions (guarded inherit : Bool)
  | setKind (k : DeclarationKind)
  | push (e : Entry)
  | remove (index : Nat)

/-- Why a change is refused. -/
inductive Refusal where
  /-- There is no member or case at this place. -/
  | index
  /-- The declaration has no such parts. -/
  | unsupportedKind
deriving DecidableEq, Repr

namespace DeclarationKind

def length? : DeclarationKind → Option Nat
  | record members => some members.length
  | taggedUnion cases => some cases.length
  | unsupported _ => none

def push (k : DeclarationKind) (e : Entry) : Except Refusal DeclarationKind :=
  match k, e with
  | record members, .member m => .ok (record (members ++ [m]))
  | taggedUnion cases, .case c => .ok (taggedUnion (cases ++ [c]))
  -- a record has no cases, a union of cases no members
  | _, _ => .error .unsupportedKind

def remove (k : DeclarationKind) (index : Nat) : Except Refusal DeclarationKind :=
  match k with
  | record members =>
    if index < members.length then .ok (record (members.eraseIdx index)) else .error .index
  | taggedUnion cases =>
    if index < cases.length then .ok (taggedUnion (cases.eraseIdx index)) else .error .index
  | unsupported _ => .error .index

end DeclarationKind

namespace Session

def withDeclaration (s : Session) (f : Declaration → Declaration) : Session :=
  { s with declaration := f s.declaration }

def apply (s : Session) : Edit → Except Refusal Session
  | .replace d => .ok { s with declaration := d }
  | .enclose v => .ok (s.withDeclaration (·.enclosedBy v))
  | .setVisibility v => .ok (s.withDeclaration fun d => { d with visibility := v })
  | .rename name => .ok (s.withDeclaration fun d => { d with name })
  | .setGenerics generics => .ok (s.withDeclaration fun d => { d with generics })
  | .setCrate p =>
    .ok (s.withDeclaration fun d => { d with options := { d.options with crate := p } })
  | .setDefaultCrate p => .ok { s with deriver := { s.deriver with defaultCrate := p } }
  | .setBuilder b =>
    .ok (s.withDeclaration fun d => { d with options := { d.options with builder := b } })
  | .setDebugOnly on =>
    .ok (s.withDeclaration fun d => { d with options := { d.options with debugOnly := on } })
  | .setOptions guarded inherit => .ok { s with deriver := { s.deriver with guarded, inherit } }
  | .setKind kind => .ok (s.withDeclaration fun d => { d with kind })
  | .push e => do
    let kind ← s.declaration.kind.push e
    return s.withDeclaration fun d => { d with kind }
  | .remove index => do
    let kind ← s.declaration.kind.remove index
    return s.withDeclaration fun d => { d with kind }

/-- The path of the crate with `Sampleable`. -/
def crate (s : Session) : Path := s.declaration.cratePath s.deriver.defaultCrate

/-- What is learned about the declaration, if it is a record. -/
def scan? (s : Session) : Option RecordScan := s.declaration.scan? s.deriver.inherit

def expand (s : Session) : Except SynthesisError Expansion := s.deriver.expand s.declaration

end Session

end Specimen
