import AnnotatedApi.Schema.Basic
import AnnotatedApi.Decimal.Reader
import AnnotatedApi.Text.Split
import AnnotatedApi.Text.Integer

/-!
Texts as values of a declared type.

`coerce?` gives the value that a text has as the named type, and nothing if it has none; `coerce`
then keeps the trimmed text. A schema without a type takes texts as they are.
-/

namespace AnnotatedApi

open Text

/-- A finite number. -/
def finiteNumber? (s : String) : Option Json :=
  ((Decimal.read? s).filter (·.isFinite)).map .float

/-- The boolean that a text spells. -/
def truth? (s : String) : Option Bool :=
  if ["1", "t", "T", "true", "TRUE", "True"].contains s then some true
  else if ["0", "f", "F", "false", "FALSE", "False"].contains s then some false
  else none

/-- The value of a text as the named type. -/
def coerce? (type : Option String) (raw : String) : Option Json :=
  let s := trim raw
  match type.getD "string" with
  | "integer" => (readInt64? s).map .int
  | "number" => finiteNumber? s
  | "boolean" => (truth? s).map .bool
  | "array" => some (.arr ((commaItems s).map .str))
  | _ => some (.str s)

/-- The value of a text as the named type, or else the trimmed text. -/
def coerce (type : Option String) (raw : String) : Json :=
  (coerce? type raw).getD (.str (trim raw))

/-- The value of a text as the type of the schema. -/
def Schema.coerce (s : Schema) (raw : String) : Json :=
  AnnotatedApi.coerce s.typeName? raw

/-- A double, blanks around it ignored. -/
def readBound? (s : String) : Option Decimal.Binary64 :=
  Decimal.read? (trim s)

/-- A length or a count, blanks around it ignored. -/
def readCount? (s : String) : Option Nat :=
  readNat64? (trim s)

end AnnotatedApi
