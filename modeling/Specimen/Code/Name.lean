/-!
# Names

A raw identifier such as `r#type` names the same thing as its bare form. Names that are built from
other names use the bare form, so a keyword in them needs no `r#`.
-/

namespace Specimen

/-- A name without its `r#`. -/
def bareName (name : String) : String :=
  match name.toList with
  | 'r' :: '#' :: rest => String.ofList rest
  | _ => name

def builderName (type : String) : String := bareName type ++ "FixtureBuilder"

def parameterName (field : String) : String := "fixture" ++ bareName field

end Specimen
