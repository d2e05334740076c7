import AnnotatedApi.TypeExpr.Reader
import AnnotatedApi.StructTag.Rules
import AnnotatedApi.Naming
import AnnotatedApi.Json.Reader

/-!
Schemas of types.

A named type is looked up among the overrides, then among the builtin types, and otherwise becomes a
reference. Pointers are looked through; slices, maps and inline structs contain further types, and
below the depth limit of a `Resolver` every type has the empty schema.

Two vocabularies share these rules. In source files an inline struct is synthesized field by field;
in directives there are no inline structs, but a few more names for builtin types.
-/

namespace AnnotatedApi

open Text

/-! ### Overrides -/

/-- Replacements for named types, in the order of their table. -/
abbrev Overrides := Assoc String

/-- The replacement of a name: an entry with that name, else the first whose key ends in a dot and
the name, else the entry of what follows the last dot of the name. -/
def Overrides.lookup? (table : Overrides) (name : String) : Option String :=
  (Assoc.get? table name).or <|
  ((table.find? fun (key, _) => endsWith ("." ++ name) key).map (·.2)).or <|
  (cutLast '.' name).bind fun (_, short) => Assoc.get? table short

/-! ### Named types -/

/-- The schema of a builtin type. -/
def builtinSchema? : String → Option Schema
  | "string" => some (.typed "string")
  | "int" | "int8" | "int16" | "int32" | "uint" | "uint8" | "uint16" | "uint32" | "rune" =>
    some (.formatted "integer" "int32")
  | "int64" | "uint64" => some (.formatted "integer" "int64")
  | "float32" => some (.formatted "number" "float")
  | "float64" => some (.formatted "number" "double")
  | "bool" => some (.typed "boolean")
  | "byte" => some (.formatted "string" "byte")
  | "any" => some {}
  | _ => none

/-- The schema of a name that only directives know. -/
def keywordSchema? : String → Option Schema
  | "integer" => some (.formatted "integer" "int32")
  | "number" | "float" | "double" => some (.formatted "number" "double")
  | "boolean" => some (.typed "boolean")
  | "object" => some (.typed "object")
  | "date" => some (.formatted "string" "date")
  | "date-time" | "time.Time" => some (.formatted "string" "date-time")
  | "file" => some (.formatted "string" "binary")
  | _ => none

/-- The schema of a replacement. -/
def replacementSchema (replacement : String) : Schema :=
  if ["string", "number", "integer", "boolean", "object", "array"].contains replacement then
    .typed replacement
  else if replacement == "time.Time" then .formatted "string" "date-time"
  else (builtinSchema? replacement).getD (.ref replacement)

/-! ### Comments on structs and fields -/

/-- Appends a line to a text that may be absent. -/
def appendLine (separator line : String) : Option String → Option String
  | some text => some (text ++ separator ++ line)
  | none => some line

/-- The effect of one comment line on the schema of a struct. -/
def applyStructLine (s : Schema) (line : String) : Schema :=
  match dropStart? "@Description " line, dropStart? "@Title " line,
      dropStart? "@Example " line with
  | some text, _, _ => { s with description := appendLine "\n" (trim text) s.description }
  | none, some title, _ => { s with title := some (trim title) }
  | none, none, some value =>
    let value := trim value
    { s with exampleValue := some (((Json.read? value).map Json.sorted).getD (.str value)) }
  | none, none, none =>
    if line == "@Deprecated" then { s with deprecated := true }
    else if !line.isEmpty && !startsWith "@" line then
      { s with description := appendLine "\n" line s.description }
    else s

/-- The effect of one comment line on the schema of a field. -/
def applyFieldLine (s : Schema) (line : String) : Schema :=
  match dropStart? "@Description " line, dropStart? "@Example " line with
  | some text, _ => { s with description := appendLine " " (trim text) s.description }
  | none, some value => { s with exampleValue := some (s.coerce value) }
  | none, none =>
    if line == "@Deprecated" then { s with deprecated := true }
    else if !line.isEmpty && !startsWith "@" line then
      { s with description := appendLine " " line s.description }
    else s

/-! ### Resolution -/

/-- How the fields of structs become properties. -/
structure RecordRules where
  naming : NamingStrategy := .camel
  requiredByDefault : Bool := false
deriving DecidableEq, Repr, Inhabited

/-- The names that are understood, and what is done with inline structs. -/
inductive Vocabulary where
  | source (rules : RecordRules)
  | directive
deriving DecidableEq, Repr, Inhabited

/-- What resolution depends on besides the type. -/
structure Resolver where
  overrides : Overrides := []
  /-- The depth from which on every schema is empty; zero for no limit. -/
  maxDepth : Nat := 100
deriving Repr, Inhabited

/-- Field names that start with a capital are visible outside their package. -/
def isExported (name : String) : Bool :=
  (name.toList.head?.map isUppercase).getD false

/-- Adds one named property to the schema of a struct. -/
def addProperty (rules : RecordRules) (tags : StructTags) (pointer : Bool) (fieldSchema : Schema)
    (s : Schema) (name : String) : Schema :=
  let property := tags.propertyName?.getD (rules.naming.apply name)
  { s with
    properties := Assoc.insert s.properties property fieldSchema
    required := if tags.isRequired pointer rules.requiredByDefault then s.required ++ [property]
      else s.required }

/-- Adds a field whose type has the schema `typeSchema` to the schema of a struct. An embedded field
is composed by reference. -/
def addField (rules : RecordRules) (typeSchema : Schema) (field : Field) (s : Schema) : Schema :=
  if field.isEmbedded then
    match field.type.deref.name? with
    | some name => { s with allOf := s.allOf ++ [.ref name] }
    | none => s
  else
    let tags := (field.tag.map StructTags.parse).getD {}
    if tags.ignored || tags.isHidden then s
    else
      let fieldSchema := tags.apply (field.doc.lines.foldl applyFieldLine typeSchema)
      (field.names.filter isExported).foldl
        (addProperty rules tags field.type.isPointer fieldSchema) s

namespace Resolver

/-- Whether resolution gives up at this depth. -/
def isExhausted (r : Resolver) (depth : Nat) : Bool :=
  0 < r.maxDepth && r.maxDepth ≤ depth

/-- The schema of a named type. -/
def named (r : Resolver) (v : Vocabulary) (name : String) : Schema :=
  match r.overrides.lookup? name with
  | some replacement => replacementSchema replacement
  | none =>
    let keyword := match v with
      | .directive => keywordSchema? name
      | .source _ => none
    (keyword.or (builtinSchema? name)).getD (.ref name)

mutual

/-- The schema of a type at the given depth. -/
def resolve (r : Resolver) (v : Vocabulary) : TypeExpr → Nat → Schema
  | e, depth =>
    if r.isExhausted depth then {}
    else match e with
      | .ident name => r.named v name
      | .qualified package name => r.named v (package ++ "." ++ name)
      | .pointer target => r.resolve v target depth
      | .slice element => .array (r.resolve v element (depth + 1))
      | .map _ value => .mapOf (r.resolve v value (depth + 1))
      | .struct fields =>
        match v with
        | .directive => {}
        | .source rules => r.addFields v rules fields (depth + 1) (.typed "object")
      | .interface => {}
      | .unsupported _ => {}

/-- Adds fields to the schema of a struct at the given depth. -/
def addFields (r : Resolver) (v : Vocabulary) (rules : RecordRules) :
    List (FieldOf TypeExpr) → Nat → Schema → Schema
  | [], _, s => s
  | ⟨names, type, tag, doc⟩ :: rest, depth, s =>
    r.addFields v rules rest depth
      (addField rules (r.resolve v type depth) ⟨names, type, tag, doc⟩ s)

end

/-- The schema of a type text in a directive. -/
def resolveText (r : Resolver) (text : String) : Schema :=
  r.resolve .directive (TypeExpr.read text) 0

/-- The schema of a struct with the given fields and documentation. -/
def structSchema (r : Resolver) (rules : RecordRules) (fields : List Field)
    (doc : Option CommentGroup) (depth : Nat) : Schema :=
  let start := ((doc.map (·.lines)).getD []).foldl applyStructLine (.typed "object")
  r.addFields (.source rules) rules fields depth start

end Resolver

end AnnotatedApi
