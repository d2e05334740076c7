import AnnotatedApi.GoSource.Grammar.Phrase

/-!
The grammar of types: named types and their instances, type literals, signatures, fields and the
elements of interfaces.
-/

namespace AnnotatedApi.GoSource.Grammar

open Rule

variable (inner : Phrases)

/-! ### Named types -/

/-- The types that a generic type is applied to. -/
def typeArguments : Rule :=
  node .typeArguments
    (seq [mark "[", commas false (inner (.type false)), optional false (mark ","), mark "]"])

/-- A type of another package. -/
def qualifiedType (lines : Bool) : Rule :=
  node .qualifiedType (seq [name, attached lines (mark "."), name])

/-- An instance of a generic type. -/
def genericType (lines : Bool) : Rule :=
  node .genericType
    (seq [firstOf [qualifiedType lines, name], attached lines (typeArguments inner)])

/-- A type that is referred to by its name. -/
def namedType (lines : Bool) : Rule :=
  firstOf [genericType inner lines, qualifiedType lines, node .typeName name]

/-! ### Signatures -/

/-- A parameter: names and their type, a variadic one, or a type alone. -/
def parameter : Rule :=
  node .parameter <| firstOf
    [seq [commas false name, inner (.type false), before fun t => t.isMark "," || t.isMark ")"],
      seq [optional false name, mark "...", inner (.type false)],
      inner (.type false)]

/-- A parameter list. -/
def parameters : Rule :=
  node .parameters (listed "(" ")" (parameter inner))

/-- The result of a signature. -/
def result (lines : Bool) : Rule :=
  firstOf [parameters inner, inner (.simpleType lines)]

/-- A type, or all types whose underlying type it is. -/
def approximation (lines : Bool) : Rule :=
  firstOf [node .approximation (seq [mark "~", inner (.type lines)]), inner (.type lines)]

/-- A union of types. -/
def constraint (lines : Bool) : Rule :=
  group .union (separated lines (mark "|") (approximation inner lines))

/-- The type parameters of a declaration. -/
def typeParameters : Rule :=
  node .typeParameters <|
    seq [mark "[", commas false (node .parameter (seq [commas false name, constraint inner false])),
      optional false (mark ","), mark "]"]

/-! ### Fields and interface elements -/

/-- The tag of a field. -/
def tag : Rule :=
  token (·.isString)

/-- Succeeds where a field declaration ends: in front of a semicolon or a closing brace, or in front
of a line break behind which a field can start. -/
def fieldEnd : Rule := fun ts =>
  match ts with
  | [] => none
  | t :: _ =>
    if t.isMark ";" then some ([], ts)
    else before (fun next => next.isMark "\x7d" ||
      t.isLineBreak && (next.isName || next.isMark "*")) ts

/-- A field without a name. Behind a name, a bracketed list of types at the end of a line makes an
instance of a generic type rather than an array type that goes on. -/
def embeddedField : Rule :=
  node .embeddedField
    (seq [optional false (mark "*"), namedType inner true, optional true tag, fieldEnd])

/-- A field with names. -/
def namedField : Rule :=
  node .namedField (seq [commas false name, inner (.type true), optional true tag])

/-- The fields of a struct. -/
def fieldList : Rule :=
  node .fieldList
    (seq [mark "\x7b", terminated (firstOf [embeddedField inner, namedField inner]), mark "\x7d"])

/-- An element of an interface: a method or a union of types. -/
def interfaceElement : Rule :=
  firstOf
    [node .methodSpec
      (seq [name, attached true (parameters inner), optional true (result inner true)]),
      constraint inner true]

/-! ### Types -/

/-- The length of an array type, in its brackets. -/
def arrayLength : Rule :=
  seq [mark "[", inner (.expression .enclosed), mark "]"]

/-- Types that start with a bracket or a keyword, functions and channels apart. -/
def compositeType (lines : Bool) : Rule :=
  firstOf
    [node .sliceType (seq [mark "[", mark "]", inner (.type lines)]),
      node .arrayType (seq [arrayLength inner, inner (.type lines)]),
      node .mapType
        (seq [word "map", mark "[", inner (.type false), mark "]", inner (.type lines)]),
      node .structType (seq [word "struct", fieldList inner])]

/-- Channel types. -/
def channelType (lines : Bool) : Rule :=
  node .channelType <| firstOf
    [seq [word "chan", optional false (mark "<-"), inner (.type lines)],
      seq [mark "<-", word "chan", inner (.type lines)]]

/-- Function types. -/
def functionType (lines : Bool) : Rule :=
  node .functionType
    (seq [word "func", parameters inner, optional lines (result inner lines)])

/-- Interface types. -/
def interfaceType : Rule :=
  node .interfaceType
    (seq [word "interface", mark "\x7b", terminated (interfaceElement inner), mark "\x7d"])

/-- A type that stands for no expression, whatever follows it. -/
def typeLiteral (lines : Bool) : Rule :=
  firstOf [compositeType inner lines, channelType inner lines, functionType inner lines,
    interfaceType inner]

/-- A type without parentheses around it. -/
def simpleType (lines : Bool) : Rule :=
  firstOf [namedType inner lines, node .pointerType (seq [mark "*", inner (.type lines)]),
    typeLiteral inner lines]

/-- A type in parentheses. -/
def parenthesizedType : Rule :=
  node .parenthesizedType (seq [mark "(", inner (.type false), mark ")"])

/-- A type. -/
def type (lines : Bool) : Rule :=
  firstOf [simpleType inner lines, parenthesizedType inner]

end AnnotatedApi.GoSource.Grammar
