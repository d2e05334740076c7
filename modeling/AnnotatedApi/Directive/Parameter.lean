import AnnotatedApi.Document.Basic
import AnnotatedApi.Schema.Coercion
import AnnotatedApi.Text.Case

/-!
What attributes do to a parameter.

Each attribute sets one target: a flag of the parameter, its example, or a constraint of its schema.
A number that does not read, and a default or example that is not of the schema's type, leave the
target as it was. Array parameters also have a collection format, which decides how the items are
written in a request.
-/

namespace AnnotatedApi

open Text

/-- How the items of an array parameter are separated. -/
inductive CollectionFormat where
  | csv
  | multi
  | pipes
  | tsv
  | ssv
deriving DecidableEq, Repr, Inhabited

namespace CollectionFormat

def name : CollectionFormat → String
  | .csv => "csv"
  | .multi => "multi"
  | .pipes => "pipes"
  | .tsv => "tsv"
  | .ssv => "ssv"

/-- The format with exactly this name. -/
def named? (s : String) : Option CollectionFormat :=
  [csv, multi, pipes, tsv, ssv].find? (·.name == s)

/-- The format that a text names, blanks around it and letter case ignored; otherwise `csv`. -/
def ofText (s : String) : CollectionFormat :=
  (named? (lower (trim s))).getD .csv

/-- The style of the parameter, and whether each item is a parameter of its own. -/
def style : CollectionFormat → String × Bool
  | .multi => ("form", true)
  | .pipes => ("pipeDelimited", false)
  | .ssv => ("spaceDelimited", false)
  | .csv | .tsv => ("form", false)

end CollectionFormat

namespace Parameter

/-- Changes the schema of a parameter. -/
def updateSchema (p : Parameter) (f : Schema → Schema) : Parameter :=
  { p with schema := some (f (p.schema.getD {})) }

/-- The type that the values of an `enum` attribute have: that of the items of an array. -/
def enumType? (s : Schema) : Option String :=
  match s.items with
  | some items => if s.typeName? == some "array" then items.typeName? else s.typeName?
  | none => s.typeName?

/-- Sets the default value, if the text is of the schema's type. -/
def setDefault (value : String) (s : Schema) : Schema :=
  match coerce? s.typeName? value with
  | some v => { s with default := some v }
  | none => s

/-- Applies the attribute `key(value)`; the key is in lower case. -/
def applyAttribute (p : Parameter) (key value : String) : Parameter :=
  let isOn := trim value == "true"
  let bound := readBound? value
  let count := readCount? value
  match key with
  | "deprecated" => { p with deprecated := isOn }
  | "allowemptyvalue" => { p with allowEmptyValue := isOn }
  | "minimum" | "min" => p.updateSchema fun s => { s with minimum := bound.or s.minimum }
  | "maximum" | "max" => p.updateSchema fun s => { s with maximum := bound.or s.maximum }
  | "exclusiveminimum" =>
    p.updateSchema fun s => { s with exclusiveMinimum := bound.or s.exclusiveMinimum }
  | "exclusivemaximum" =>
    p.updateSchema fun s => { s with exclusiveMaximum := bound.or s.exclusiveMaximum }
  | "minlength" => p.updateSchema fun s => { s with minLength := count.or s.minLength }
  | "maxlength" => p.updateSchema fun s => { s with maxLength := count.or s.maxLength }
  | "pattern" => p.updateSchema fun s => { s with pattern := some value }
  | "multipleof" => p.updateSchema fun s => { s with multipleOf := bound.or s.multipleOf }
  | "minitems" => p.updateSchema fun s => { s with minItems := count.or s.minItems }
  | "maxitems" => p.updateSchema fun s => { s with maxItems := count.or s.maxItems }
  | "uniqueitems" => p.updateSchema fun s => { s with uniqueItems := isOn }
  | "enum" | "enums" =>
    p.updateSchema fun s => { s with enumValues := (splitOn ',' value).map (coerce (enumType? s)) }
  | "default" => p.updateSchema (setDefault value)
  | "example" =>
    let p := p.updateSchema id
    match coerce? (p.schema.bind (·.typeName?)) value with
    | some v => { p with exampleValue := some v }
    | none => p
  | "format" => p.updateSchema fun s => { s with format := some value }
  | "readonly" => p.updateSchema fun s => { s with readOnly := isOn }
  | "writeonly" => p.updateSchema fun s => { s with writeOnly := isOn }
  | "nullable" => p.updateSchema fun s => { s with nullable := isOn }
  | _ => p.updateSchema id

/-- The attribute that does not change the parameter itself. -/
def formatKey : String := "collectionformat"

/-- Applies attributes from left to right. -/
def applyAttributes (p : Parameter) (attributes : List (String × String)) : Parameter :=
  (attributes.filter (·.1 != formatKey)).foldl (fun p (key, value) => p.applyAttribute key value) p

/-- The collection format that the last attribute of that name gives. -/
def collectionFormat? (attributes : List (String × String)) : Option CollectionFormat :=
  ((attributes.filter (·.1 == formatKey)).getLast?).map fun (_, value) => .ofText value

/-- Whether the items of an array are written out at this location. -/
def takesStyle (location : String) : Bool :=
  ["query", "header", "path", "cookie"].contains location

/-- Sets style and explosion of an array parameter. -/
def applyFormat (p : Parameter) (format : CollectionFormat) : Parameter :=
  if (p.schema.bind (·.typeName?)) == some "array" && takesStyle p.location then
    { p with style := some format.style.1, explode := some format.style.2 }
  else p

end Parameter

end AnnotatedApi
