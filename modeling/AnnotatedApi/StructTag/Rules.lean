import AnnotatedApi.StructTag.Basic
import AnnotatedApi.Schema.Coercion

/-!
What tags do to the schema of a field.

Tags decorate a schema: they set a format, bounds, values and extensions. Only `swaggertype` changes
the type. The rules of the two validation tags have mostly the same meaning; `validate` knows a few
more formats and patterns. A rule whose value does not read as a number changes nothing.
-/

namespace AnnotatedApi

open Text

/-- Which validation tag a list of rules comes from. -/
inductive RuleDialect where
  | binding
  | validate
deriving DecidableEq, Repr, Inhabited

/-- The effect of a rule without a value. -/
def applyBareRule (dialect : RuleDialect) (rule : String) (s : Schema) : Schema :=
  match rule, dialect with
  | "email", _ => { s with format := some "email" }
  | "url", _ => { s with format := some "uri" }
  | "uuid", .validate => { s with format := some "uuid" }
  | "uuid4", .validate => { s with format := some "uuid" }
  | "datetime", .validate => { s with format := some "date-time" }
  | "date", .validate => { s with format := some "date" }
  | "numeric", .validate => { s with pattern := some "^[0-9]+$" }
  | "alpha", .validate => { s with pattern := some "^[a-zA-Z]+$" }
  | "alphanum", .validate => { s with pattern := some "^[a-zA-Z0-9]+$" }
  | _, _ => s

/-- The two bounds that a schema has for a length, for the items and for a number. -/
inductive Bound where
  | lower
  | upper
deriving DecidableEq, Repr, Inhabited

namespace Bound

/-- Sets a bound of the length, if it reads. -/
def setLength (b : Bound) (n : Option Nat) (s : Schema) : Schema :=
  match b with
  | .lower => { s with minLength := n.or s.minLength }
  | .upper => { s with maxLength := n.or s.maxLength }

/-- Sets a bound of the items, if it reads. -/
def setItems (b : Bound) (n : Option Nat) (s : Schema) : Schema :=
  match b with
  | .lower => { s with minItems := n.or s.minItems }
  | .upper => { s with maxItems := n.or s.maxItems }

/-- Sets a bound of the number, if it reads. -/
def setNumber (b : Bound) (x : Option Decimal.Binary64) (s : Schema) : Schema :=
  match b with
  | .lower => { s with minimum := x.or s.minimum }
  | .upper => { s with maximum := x.or s.maximum }

end Bound

/-- The effect of a bound, by the type it bounds. -/
def applyBound (b : Bound) (value : String) (s : Schema) : Schema :=
  match s.typeName? with
  | some "string" => b.setLength (readCount? value) s
  | some "array" => b.setItems (readCount? value) s
  | some "integer" | some "number" => b.setNumber (readBound? value) s
  | _ => s

/-- The effect of a rule with a value. -/
def applyValueRule (name value : String) (s : Schema) : Schema :=
  match name with
  | "min" => applyBound .lower value s
  | "max" => applyBound .upper value s
  | "len" =>
    match readCount? value with
    | some n => { s with minLength := some n, maxLength := some n }
    | none => s
  | "gte" => { s with minimum := (readBound? value).or s.minimum }
  | "lte" => { s with maximum := (readBound? value).or s.maximum }
  | "gt" => { s with exclusiveMinimum := (readBound? value).or s.exclusiveMinimum }
  | "lt" => { s with exclusiveMaximum := (readBound? value).or s.exclusiveMaximum }
  | "oneof" => { s with enumValues := s.enumValues ++ (words value).map .str }
  | _ => s

/-- The effect of one rule. -/
def applyRule (dialect : RuleDialect) (s : Schema) (rule : String) : Schema :=
  match cut '=' rule with
  | some (name, value) => applyValueRule name value s
  | none => applyBareRule dialect rule s

/-- The effect of a comma-separated list of rules. -/
def applyRules (dialect : RuleDialect) (rules : String) (s : Schema) : Schema :=
  (commaList rules).foldl (applyRule dialect) s

/-- The types that a value can have on its own. -/
def isPrimitiveType (name : String) : Bool :=
  ["string", "integer", "number", "boolean"].contains name

/-- Replaces the type: `t`, `primitive,t` or `array,t`. Other texts change nothing. -/
def applySwaggerType (value : String) (s : Schema) : Schema :=
  match commaItems value with
  | [single] =>
    if isPrimitiveType single || single == "object" || single == "array" then
      { s.setType single with reference := none }
    else s
  | ["primitive", inner] =>
    if isPrimitiveType inner then { s.setType inner with reference := none } else s
  | ["array", inner] =>
    let t := { s.setType "array" with reference := none }
    if isPrimitiveType inner || inner == "object" then { t with items := some (.typed inner) } else t
  | _ => s

/-- The value of an extension: a number, a boolean, or else the text. -/
def extensionValue (value : String) : Json :=
  match readInt64? value with
  | some n => .int n
  | none =>
    match finiteNumber? value with
    | some x => x
    | none =>
      match value with
      | "true" => .bool true
      | "false" => .bool false
      | other => .str other

/-- The extension that one entry sets: `!x-key` to false, `x-key=value`, or `x-key` to true. -/
def extensionOf? (entry : String) : Option (String × Json) :=
  let keyed := fun key value => if startsWith "x-" key then some (key, value) else none
  match dropStart? "!" entry with
  | some key => keyed key (.bool false)
  | none =>
    match cut '=' entry with
    | some (key, value) => keyed (trim key) (extensionValue (trim value))
    | none => keyed entry (.bool true)

/-- Sets the extensions of a comma-separated list. -/
def applyExtensions (entries : String) (s : Schema) : Schema :=
  (commaList entries).foldl (fun s entry =>
    match extensionOf? entry with
    | some (key, value) => { s with extensions := Assoc.insert s.extensions key value }
    | none => s) s

/-- Applies `f` with the value of a part of the tag, if it is there. -/
def withPart (part : Option String) (f : String → Schema → Schema) (s : Schema) : Schema :=
  match part with
  | some value => f value s
  | none => s

/-- Applies all parts of a tag. The type comes first, so that the others see the replaced one. -/
def StructTags.apply (t : StructTags) (s : Schema) : Schema :=
  let s := withPart t.swaggerType applySwaggerType s
  let s := withPart t.extensions applyExtensions s
  let s := withPart t.exampleText (fun v s => { s with exampleValue := some (s.coerce v) }) s
  let s := withPart t.format (fun v s => { s with format := some v }) s
  let s := withPart t.default (fun v s => { s with default := some (s.coerce v) }) s
  let s := withPart t.enumValues
    (fun v s => { s with enumValues := s.enumValues ++ (splitOn ',' v).map s.coerce }) s
  let s := withPart t.minimum (fun v s => { s with minimum := (readBound? v).or s.minimum }) s
  let s := withPart t.maximum (fun v s => { s with maximum := (readBound? v).or s.maximum }) s
  let s := withPart t.minLength (fun v s => { s with minLength := (readCount? v).or s.minLength }) s
  let s := withPart t.maxLength (fun v s => { s with maxLength := (readCount? v).or s.maxLength }) s
  let s := withPart t.pattern (fun v s => { s with pattern := some v }) s
  let s := if t.readOnly then { s with readOnly := true } else s
  let s := if t.writeOnly then { s with writeOnly := true } else s
  let s := withPart t.binding (applyRules .binding) s
  withPart t.validate (applyRules .validate) s

end AnnotatedApi
