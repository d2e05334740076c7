import AnnotatedApi.Json.Basic

/-!
Schemas.

A schema is a record of constraints. The constraints that hold no schema themselves are its
`Facets`; a `Schema` adds those that do. Every field is empty by default, and the schema `{}` accepts
anything.
-/

namespace AnnotatedApi

open Decimal (Binary64)

/-- What stands in front of the name of a component schema in a reference. -/
def refStart : String := "#/components/schemas/"

/-- The type of a schema: one name, or a list of them. -/
inductive SchemaType where
  | single (name : String)
  | multiple (names : List String)
deriving DecidableEq, Repr, Inhabited

/-- The only name, or the first of the list. -/
def SchemaType.primary? : SchemaType → Option String
  | .single name => some name
  | .multiple names => names.head?

/-- What is allowed for properties without a schema of their own. -/
inductive Additional (σ : Type) where
  | allowed (flag : Bool)
  | schema (values : σ)
deriving Repr

/-- The constraints of a schema that hold no other schema. -/
structure Facets where
  reference : Option String := none
  type : Option SchemaType := none
  format : Option String := none
  title : Option String := none
  description : Option String := none
  default : Option Json := none
  enumValues : List Json := []
  constValue : Option Json := none
  multipleOf : Option Binary64 := none
  maximum : Option Binary64 := none
  exclusiveMaximum : Option Binary64 := none
  minimum : Option Binary64 := none
  exclusiveMinimum : Option Binary64 := none
  maxLength : Option Nat := none
  minLength : Option Nat := none
  pattern : Option String := none
  maxItems : Option Nat := none
  minItems : Option Nat := none
  uniqueItems : Bool := false
  required : List String := []
  maxProperties : Option Nat := none
  minProperties : Option Nat := none
  nullable : Bool := false
  readOnly : Bool := false
  writeOnly : Bool := false
  exampleValue : Option Json := none
  deprecated : Bool := false
  extensions : Assoc Json := []
deriving Repr, Inhabited

/-- A schema. -/
structure Schema extends Facets where
  items : Option Schema := none
  properties : List (String × Schema) := []
  additional : Option (Additional Schema) := none
  allOf : List Schema := []
  oneOf : List Schema := []
  anyOf : List Schema := []
  excluded : Option Schema := none
deriving Inhabited

namespace Schema

/-- The schema that has nothing but a type. -/
def typed (name : String) : Schema :=
  { type := some (.single name) }

/-- The schema that has nothing but a type and a format. -/
def formatted (name format : String) : Schema :=
  { type := some (.single name), format := some format }

/-- The reference to a component schema. -/
def ref (name : String) : Schema :=
  { reference := some (refStart ++ name) }

/-- The schema of lists. -/
def array (items : Schema) : Schema :=
  { type := some (.single "array"), items := some items }

/-- The schema of maps from texts. -/
def mapOf (values : Schema) : Schema :=
  { type := some (.single "object"), additional := some (.schema values) }

/-- The name of the type, if there is one. -/
def typeName? (s : Schema) : Option String :=
  s.type.bind SchemaType.primary?

/-- Replaces the type. -/
def setType (s : Schema) (name : String) : Schema :=
  { s with type := some (.single name) }

end Schema

end AnnotatedApi
