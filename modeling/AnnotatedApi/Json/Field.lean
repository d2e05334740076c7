import AnnotatedApi.Json.Basic

/-!
Records as JSON trees.

When a record is written, a field that holds nothing is left out. When one is read, its fields are
found by name in an object, or by position in an array; a field without a value counts as absent
where the record allows it, and names the record does not know are skipped.
-/

namespace AnnotatedApi.Json

/-! ### Writing -/

/-- A list of fields. -/
abbrev Fields := List (String × Json)

/-- A field that is left out when absent. -/
def optional {α : Type} (key : String) (write : α → Json) : Option α → Fields
  | none => []
  | some a => [(key, write a)]

/-- A field that is left out when false. -/
def flag (key : String) (value : Bool) : Fields :=
  if value then [(key, .bool true)] else []

/-- A field that is left out when empty. -/
def listed {α : Type} (key : String) (write : α → Json) (values : List α) : Fields :=
  if values.isEmpty then [] else [(key, .arr (values.map write))]

/-- A tree with one field for each entry. -/
def ofAssoc {α : Type} (write : α → Json) (m : Assoc α) : Json :=
  .obj (m.map fun (k, v) => (k, write v))

/-- A field with one inner field for each entry, left out when empty. -/
def mapping {α : Type} (key : String) (write : α → Json) (m : Assoc α) : Fields :=
  if m.isEmpty then [] else [(key, ofAssoc write m)]

/-- A natural number as a tree. -/
def ofNat (n : Nat) : Json := .int n

/-! ### Reading -/

/-- A value that may be absent. -/
def readOptional {α : Type} (read : Json → Option α) : Json → Option (Option α)
  | .null => some none
  | j => (read j).map some

/-- A value of any kind. -/
def readAny (j : Json) : Option Json := some j

/-- An array whose items are all readable. -/
def readList {α : Type} (read : Json → Option α) : Json → Option (List α)
  | .arr items => items.mapM read
  | _ => none

/-- An object whose values are all readable. -/
def readAssoc {α : Type} (read : Json → Option α) : Json → Option (Assoc α)
  | .obj fields => fields.mapM fun (k, v) => (read v).map (k, ·)
  | _ => none

/-- The fields of a record that is being read. -/
inductive Source where
  | named (fields : Fields)
  | positional (items : List Json)

/-- Opens a record of at most `arity` fields. -/
def source? (arity : Nat) : Json → Option Source
  | .obj fields => some (.named fields)
  | .arr items => if items.length ≤ arity then some (.positional items) else none
  | _ => none

/-- The value of a field. -/
def Source.get? (src : Source) (position : Nat) (key : String) : Option Json :=
  match src with
  | .named fields => Assoc.get? fields key
  | .positional items => items[position]?

/-- A field that has to be present. -/
def Source.required {α : Type} (src : Source) (position : Nat) (key : String)
    (read : Json → Option α) : Option α :=
  (src.get? position key).bind read

/-- A field that may be absent from an object. -/
def Source.optional {α : Type} (src : Source) (position : Nat) (key : String)
    (read : Json → Option α) : Option (Option α) :=
  match src, src.get? position key with
  | _, some j => readOptional read j
  | .named _, none => some none
  | .positional _, none => none

/-- A field that has a default value. -/
def Source.defaulted {α : Type} (src : Source) (position : Nat) (key : String) (default : α)
    (read : Json → Option α) : Option α :=
  match src.get? position key with
  | some j => read j
  | none => some default

end AnnotatedApi.Json
