import AnnotatedApi.Text.Split
import AnnotatedApi.Text.Word
import AnnotatedApi.Text.Case

/-!
Struct tags.

A tag is a text of pairs `key:"value"`, each at the start of the text or after a blank. A key starts
with an ASCII letter or `_` and goes on with word characters and `-`; a value has no quote in it.
`tagValue?` gives the value of the first pair with a key, and `StructTags` collects the values that
this library understands.
-/

namespace AnnotatedApi

open Text

/-- Characters that start a key. -/
def isKeyStart (c : Char) : Bool :=
  c.isAlpha || c == '_'

/-- Characters inside a key. -/
def isKeyChar (c : Char) : Bool :=
  isWordChar c || c == '-'

/-- A pair at the front of the text: key, value, and what follows. -/
def pairAt? (cs : List Char) : Option (List Char × List Char × List Char) :=
  match cs with
  | [] => none
  | c :: rest =>
    if isKeyStart c then
      let key := c :: rest.takeWhile isKeyChar
      match rest.dropWhile isKeyChar with
      | ':' :: '\x22' :: rest => (cutChars '\x22' rest).map fun (value, rest) => (key, value, rest)
      | _ => none
    else none

/-- The pairs of the text; `atStart` is set where no blank is needed in front of a pair. -/
def pairsFrom (atStart : Bool) : Nat → List Char → List (List Char × List Char)
  | 0, _ => []
  | fuel + 1, cs =>
    match if atStart then pairAt? cs else none with
    | some (key, value, rest) => (key, value) :: pairsFrom false fuel rest
    | none =>
      match cs with
      | [] => []
      | c :: rest =>
        match if isBlank c then pairAt? rest else none with
        | some (key, value, rest) => (key, value) :: pairsFrom false fuel rest
        | none => pairsFrom false fuel rest

/-- The pairs of a tag, in order. -/
def tagPairs (tag : String) : List (String × String) :=
  (pairsFrom true (tag.length + 1) tag.toList).map fun (k, v) => (.ofList k, .ofList v)

/-- The value of the first pair with the given key. -/
def tagValue? (tag key : String) : Option String :=
  ((tagPairs tag).find? (·.1 == key)).map (·.2)

/-- The parts of a tag. Empty values count as absent. -/
structure StructTags where
  json : Option String := none
  binding : Option String := none
  validate : Option String := none
  swaggerType : Option String := none
  extensions : Option String := none
  exampleText : Option String := none
  format : Option String := none
  default : Option String := none
  enumValues : Option String := none
  minimum : Option String := none
  maximum : Option String := none
  minLength : Option String := none
  maxLength : Option String := none
  pattern : Option String := none
  /-- The field is left out of the schema. -/
  ignored : Bool := false
  /-- The field is required, whatever its type. -/
  required : Bool := false
  omitEmpty : Bool := false
  readOnly : Bool := false
  writeOnly : Bool := false
deriving DecidableEq, Repr, Inhabited

namespace StructTags

/-- Whether the bare rule `required` is one of the comma-separated rules. -/
def mentionsRequired (rules : Option String) : Bool :=
  match rules with
  | some rules => (commaItems rules).contains "required"
  | none => false

/-- Reads a tag. -/
def parse (tag : String) : StructTags :=
  let get := fun key => (tagValue? tag key).filter (!·.isEmpty)
  let json := get "json"
  let binding := get "binding"
  let validate := get "validate"
  { json, binding, validate
    swaggerType := get "swaggertype"
    extensions := get "extensions"
    exampleText := get "example"
    format := get "format"
    default := get "default"
    enumValues := get "enum"
    minimum := get "minimum"
    maximum := get "maximum"
    minLength := get "minLength"
    maxLength := get "maxLength"
    pattern := get "pattern"
    ignored := ((get "swaggerignore").map (eqIgnoringAsciiCase · "true")).getD false
    required := mentionsRequired binding || mentionsRequired validate ||
      get "required" == some "true"
    omitEmpty := (json.map (contains "omitempty" ·)).getD false
    readOnly := get "readonly" == some "true"
    writeOnly := get "writeonly" == some "true" }

/-- Whether the field is hidden from JSON altogether. -/
def isHidden (t : StructTags) : Bool :=
  t.json == some "-"

/-- The property name that the tag gives, if it gives one. -/
def propertyName? (t : StructTags) : Option String :=
  (t.json.bind fun j => (commaItems j).head?).filter fun name => !name.isEmpty && name != "-"

/-- Whether a field is required: an explicit request counts most, then `omitempty` or a pointer make
it optional, and otherwise the default decides. -/
def isRequired (t : StructTags) (pointer byDefault : Bool) : Bool :=
  if t.required then true else if t.omitEmpty || pointer then false else byDefault

end StructTags

end AnnotatedApi
