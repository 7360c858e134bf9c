import Specimen.Grammar.Item

/-!
# Items of an options attribute

The inside of `#[fixture(...)]` is a list of items: a key on its own, a key with a list, or a key
with a value. Keys may be keywords. Literals may stand in the list too, for the reader of the
options to complain about.
-/

namespace Specimen

/-- What an item says. -/
inductive MetaForm where
  | literal
  | word (key : String)
  | list (key : String) (body : List Tree)
  | assign (key : String) (value : Expr) (valueSpan : Span)

/-- An item with its place. -/
structure MetaItem where
  form : MetaForm
  span : Span

namespace Grammar

open Reader

def metaKey : Reader String := do
  let (words, trailing) ← separatedBy "::" (fun ts => !anyWordAt ts) anyWord
  if trailing then expected "path segment after `::`" else return "::".intercalate words

def metaForm (g : Rules) : Reader MetaForm := do
  -- `true = ..` is a key, `true` alone a literal
  let truthKey (ts : List Tree) : Bool := wordIn ["true", "false"] ts && symAt "=" (ts.drop 1)
  if ← sees fun ts => literalAt ts && !truthKey ts then
    -- literals are read here and complained about later
    let _ ← literal
    return .literal
  else if ← sees anyWordAt then
    let key ← metaKey
    match ← ahead with
    | .group _ body _ _ :: _ =>
      drop 1
      return .list key body
    | _ =>
      if ← sym? "=" then
        let (value, span) ← located (attributeValue g)
        return .assign key value span
      else return .word key
  else expected "identifier or literal"

def metaItem (g : Rules) : Reader MetaItem := do
  let (form, span) ← located (metaForm g)
  return ⟨form, span⟩

end Grammar

def MetaItem.readList (body : List Tree) : Except Fault (List MetaItem) :=
  Reader.runAll (Prod.fst <$> Reader.commaList (Grammar.metaItem (Grammar.rules body))) body

end Specimen
