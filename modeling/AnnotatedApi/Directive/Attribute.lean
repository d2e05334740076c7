import AnnotatedApi.Directive.Line
import AnnotatedApi.Text.Case

/-!
Attributes and media types.

An attribute is written `key(value)`, with a word for the key and any text without `)` for the value.
A list of media types may use short names.
-/

namespace AnnotatedApi.Directive

open Text

/-- An attribute at the front of the text: key, value, and what follows. -/
def attributeAt? (cs : List Char) : Option (List Char × List Char × List Char) :=
  match run? isWordChar cs with
  | some (key, '(' :: rest) =>
    match cutChars ')' rest with
    | some (value, rest) => if value.isEmpty then none else some (key, value, rest)
    | none => none
  | _ => none

/-- The attributes in the text. -/
def attributesFrom : Nat → List Char → List (List Char × List Char)
  | 0, _ => []
  | fuel + 1, cs =>
    match attributeAt? cs with
    | some (key, value, rest) => (key, value) :: attributesFrom fuel rest
    | none =>
      match cs with
      | [] => []
      | _ :: rest => attributesFrom fuel rest

/-- The attributes in a text, in order, with their keys in lower case. -/
def attributes (text : String) : List (String × String) :=
  (attributesFrom (text.length + 1) text.toList).map fun (key, value) =>
    (lower (.ofList key), .ofList value)

/-- The media type that a short name stands for. -/
def mediaAlias? : String → Option String
  | "json" => some "application/json"
  | "xml" => some "text/xml"
  | "plain" => some "text/plain"
  | "html" => some "text/html"
  | "form" | "x-www-form-urlencoded" => some "application/x-www-form-urlencoded"
  | "mpfd" | "multipart" => some "multipart/form-data"
  | "json-api" => some "application/vnd.api+json"
  | "json-stream" => some "application/x-json-stream"
  | "octet-stream" => some "application/octet-stream"
  | "png" => some "image/png"
  | "jpeg" | "jpg" => some "image/jpeg"
  | "gif" => some "image/gif"
  | "svg" => some "image/svg+xml"
  | "pdf" => some "application/pdf"
  | "zip" => some "application/zip"
  | "csv" => some "text/csv"
  | _ => none

/-- The media type of a short name, of a full name, or of a subtype of `application`. -/
def mediaType (name : String) : String :=
  match mediaAlias? name with
  | some full => full
  | none => if name.toList.contains '/' then name else "application/" ++ name

/-- The media types of a comma-separated list. -/
def mediaTypes (list : String) : List String :=
  (commaList list).map mediaType

end AnnotatedApi.Directive
