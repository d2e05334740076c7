import AnnotatedApi.Schema.Basic
import AnnotatedApi.Json.Field

/-!
Schemas as JSON trees.

`Schema.toJson` writes the fields in a fixed order and leaves out those that are empty; the entries
of the extension map stand beside them, last. `Schema.ofJson?` reads them in any order, and takes
every name it does not know for an extension.
-/

namespace AnnotatedApi

open Json

/-- The type as a tree. -/
def SchemaType.toJson : SchemaType → Json
  | .single name => .str name
  | .multiple names => .arr (names.map .str)

/-- The type that a tree stands for. -/
def SchemaType.ofJson? : Json → Option SchemaType
  | .str name => some (.single name)
  | .arr names => (names.mapM asText?).map .multiple
  | _ => none

/-! ### Writing -/

/-- The fields in front of `items`. -/
def Facets.leading (f : Facets) : Fields :=
  optional "$ref" .str f.reference ++ optional "type" SchemaType.toJson f.type ++
    optional "format" .str f.format ++ optional "title" .str f.title ++
    optional "description" .str f.description ++ optional "default" id f.default ++
    listed "enum" id f.enumValues ++ optional "const" id f.constValue ++
    optional "multipleOf" .float f.multipleOf ++ optional "maximum" .float f.maximum ++
    optional "exclusiveMaximum" .float f.exclusiveMaximum ++
    optional "minimum" .float f.minimum ++
    optional "exclusiveMinimum" .float f.exclusiveMinimum ++
    optional "maxLength" ofNat f.maxLength ++ optional "minLength" ofNat f.minLength ++
    optional "pattern" .str f.pattern

/-- The fields between `items` and `properties`. -/
def Facets.sizes (f : Facets) : Fields :=
  optional "maxItems" ofNat f.maxItems ++ optional "minItems" ofNat f.minItems ++
    flag "uniqueItems" f.uniqueItems

/-- The fields between `additionalProperties` and `allOf`. -/
def Facets.counts (f : Facets) : Fields :=
  optional "maxProperties" ofNat f.maxProperties ++
    optional "minProperties" ofNat f.minProperties

/-- The fields after `not`, extensions included. -/
def Facets.trailing (f : Facets) : Fields :=
  flag "nullable" f.nullable ++ flag "readOnly" f.readOnly ++ flag "writeOnly" f.writeOnly ++
    optional "example" id f.exampleValue ++ flag "deprecated" f.deprecated ++ f.extensions

/-- The fields of a schema, from the trees of the schemas inside it. -/
def Facets.fieldsAround (f : Facets) (items : Option Json) (properties : Fields)
    (additional : Option Json) (allOf oneOf anyOf : List Json) (excluded : Option Json) : Fields :=
  f.leading ++ optional "items" id items ++ f.sizes ++
    (if properties.isEmpty then [] else [("properties", .obj properties)]) ++
    listed "required" .str f.required ++ optional "additionalProperties" id additional ++ f.counts ++
    listed "allOf" id allOf ++ listed "oneOf" id oneOf ++ listed "anyOf" id anyOf ++
    optional "not" id excluded ++ f.trailing

mutual

/-- The fields of a schema. -/
def Schema.toFields : Schema → Fields
  | ⟨facets, items, properties, additional, allOf, oneOf, anyOf, excluded⟩ =>
    facets.fieldsAround (Schema.optionTree? items) (Schema.entryFields properties)
      (Schema.additionalTree? additional) (Schema.listItems allOf) (Schema.listItems oneOf)
      (Schema.listItems anyOf) (Schema.optionTree? excluded)

/-- The tree of a schema that may be absent. -/
def Schema.optionTree? : Option Schema → Option Json
  | none => none
  | some s => some (.obj s.toFields)

/-- The tree of what is allowed for further properties. -/
def Schema.additionalTree? : Option (Additional Schema) → Option Json
  | none => none
  | some (.allowed flag) => some (.bool flag)
  | some (.schema s) => some (.obj s.toFields)

/-- One field for each named schema. -/
def Schema.entryFields : List (String × Schema) → Fields
  | [] => []
  | (key, s) :: rest => (key, .obj s.toFields) :: Schema.entryFields rest

/-- One item for each schema. -/
def Schema.listItems : List Schema → List Json
  | [] => []
  | s :: rest => .obj s.toFields :: Schema.listItems rest

end

/-- A schema as a tree. -/
def Schema.toJson (s : Schema) : Json :=
  .obj s.toFields

/-- Whether the schema has no constraint at all. -/
def Schema.isEmpty (s : Schema) : Bool :=
  s.toFields.isEmpty

/-! ### Reading -/

/-- Sets the field `key` that holds no schema; an unknown name is an extension. -/
def Facets.setField? (f : Facets) (key : String) (value : Json) : Option Facets :=
  match key with
  | "$ref" => (readOptional asText? value).map fun v => { f with reference := v }
  | "type" => (readOptional SchemaType.ofJson? value).map fun v => { f with type := v }
  | "format" => (readOptional asText? value).map fun v => { f with format := v }
  | "title" => (readOptional asText? value).map fun v => { f with title := v }
  | "description" => (readOptional asText? value).map fun v => { f with description := v }
  | "default" => (readOptional readAny value).map fun v => { f with default := v }
  | "enum" => (readList readAny value).map fun v => { f with enumValues := v }
  | "const" => (readOptional readAny value).map fun v => { f with constValue := v }
  | "multipleOf" => (readOptional asDouble? value).map fun v => { f with multipleOf := v }
  | "maximum" => (readOptional asDouble? value).map fun v => { f with maximum := v }
  | "exclusiveMaximum" =>
    (readOptional asDouble? value).map fun v => { f with exclusiveMaximum := v }
  | "minimum" => (readOptional asDouble? value).map fun v => { f with minimum := v }
  | "exclusiveMinimum" =>
    (readOptional asDouble? value).map fun v => { f with exclusiveMinimum := v }
  | "maxLength" => (readOptional asNat? value).map fun v => { f with maxLength := v }
  | "minLength" => (readOptional asNat? value).map fun v => { f with minLength := v }
  | "pattern" => (readOptional asText? value).map fun v => { f with pattern := v }
  | "maxItems" => (readOptional asNat? value).map fun v => { f with maxItems := v }
  | "minItems" => (readOptional asNat? value).map fun v => { f with minItems := v }
  | "uniqueItems" => value.asBool?.map fun v => { f with uniqueItems := v }
  | "required" => (readList asText? value).map fun v => { f with required := v }
  | "maxProperties" => (readOptional asNat? value).map fun v => { f with maxProperties := v }
  | "minProperties" => (readOptional asNat? value).map fun v => { f with minProperties := v }
  | "nullable" => value.asBool?.map fun v => { f with nullable := v }
  | "readOnly" => value.asBool?.map fun v => { f with readOnly := v }
  | "writeOnly" => value.asBool?.map fun v => { f with writeOnly := v }
  | "example" => (readOptional readAny value).map fun v => { f with exampleValue := v }
  | "deprecated" => value.asBool?.map fun v => { f with deprecated := v }
  | _ => some { f with extensions := (key, value) :: f.extensions }

/-- How the value of a field is read: as a schema that may be absent, as what is allowed for further
properties, as named schemas, as a list of schemas, or without looking for schemas. -/
inductive Schema.Part where
  | one (set : Option Schema → Schema → Schema)
  | additional
  | properties
  | list (set : List Schema → Schema → Schema)
  | facet

/-- How the field `key` is read. -/
def Schema.partOf : String → Schema.Part
  | "items" => .one fun v s => { s with items := v }
  | "not" => .one fun v s => { s with excluded := v }
  | "additionalProperties" => .additional
  | "properties" => .properties
  | "allOf" => .list fun v s => { s with allOf := v }
  | "oneOf" => .list fun v s => { s with oneOf := v }
  | "anyOf" => .list fun v s => { s with anyOf := v }
  | _ => .facet

mutual

/-- The schema that a tree stands for. -/
def Schema.ofJson? : Json → Option Schema
  | .obj fields => Schema.ofFields? fields
  | _ => none

/-- A schema that may be absent. -/
def Schema.optionOfJson? : Json → Option (Option Schema)
  | .null => some none
  | .obj fields => (Schema.ofFields? fields).map some
  | _ => none

/-- What is allowed for further properties. -/
def Schema.additionalOfJson? : Json → Option (Option (Additional Schema))
  | .null => some none
  | .bool flag => some (some (.allowed flag))
  | .obj fields => (Schema.ofFields? fields).map fun s => some (.schema s)
  | _ => none

/-- Named schemas. -/
def Schema.entriesOfJson? : Json → Option (Assoc Schema)
  | .obj fields => Schema.ofEntries? fields
  | _ => none

/-- A list of schemas. -/
def Schema.itemsOfJson? : Json → Option (List Schema)
  | .arr items => Schema.ofItems? items
  | _ => none

/-- Reads the fields from the last to the first, so that extensions keep their order. -/
def Schema.ofFields? : Fields → Option Schema
  | [] => some {}
  | (key, value) :: rest =>
    (Schema.ofFields? rest).bind fun s =>
      match Schema.partOf key with
      | .one set => (Schema.optionOfJson? value).map (set · s)
      | .additional => (Schema.additionalOfJson? value).map fun v => { s with additional := v }
      | .properties => (Schema.entriesOfJson? value).map fun v => { s with properties := v }
      | .list set => (Schema.itemsOfJson? value).map (set · s)
      | .facet => (s.toFacets.setField? key value).map fun f => { s with toFacets := f }

/-- Reads named schemas. -/
def Schema.ofEntries? : Fields → Option (Assoc Schema)
  | [] => some []
  | (key, value) :: rest =>
    (Schema.ofJson? value).bind fun s =>
      (Schema.ofEntries? rest).map ((key, s) :: ·)

/-- Reads a list of schemas. -/
def Schema.ofItems? : List Json → Option (List Schema)
  | [] => some []
  | value :: rest =>
    (Schema.ofJson? value).bind fun s =>
      (Schema.ofItems? rest).map (s :: ·)

end

end AnnotatedApi
