import AnnotatedApi.GoSource.Grammar.Type

/-!
The grammar of expressions.

Infix operators are read without regard to their binding strength: which operands belong together
decides neither where an expression ends nor which construct a comment stands in.
-/

namespace AnnotatedApi.GoSource.Grammar

open Rule

variable (inner : Phrases)

/-- Operators in front of an operand. -/
def unaryOperators : List String :=
  ["+", "-", "!", "^", "*", "&", "<-"]

/-- Operators between operands. -/
def binaryOperators : List String :=
  ["||", "&&", "==", "!=", "<", "<=", ">", ">=", "+", "-", "|", "^", "*", "/", "%", "<<", ">>", "&",
    "&^"]

/-- An expression between brackets. -/
def enclosed : Rule :=
  inner (.expression .enclosed)

/-- Expressions with commas between them. -/
def expressions (place : Place) : Rule :=
  commas place.lines (inner (.expression place))

/-! ### Literals -/

/-- The value of a composite literal. An element may have a key. -/
def literalValue : Rule :=
  node .literalValue <| listed "\x7b" "\x7d" <|
    group .expression (separated false (mark ":") (firstOf [inner .literalValue, enclosed inner]))

/-- An array type whose length is that of its literal. -/
def countedArrayType : Rule :=
  node .arrayType (seq [mark "[", mark "...", mark "]", inner (.type false)])

/-- A composite literal. -/
def compositeLiteral (place : Place) : Rule :=
  let named := seq [firstOf [qualifiedType place.lines, node .typeName name],
    attached place.lines (inner .literalValue)]
  node .expression <| firstOf <|
    seq [firstOf [countedArrayType inner, compositeType inner false], inner .literalValue] ::
      if place.literals then [seq [genericType inner place.lines, inner .literalValue], named]
      else []

/-- A function literal. -/
def functionLiteral : Rule :=
  node .expression
    (seq [word "func", parameters inner, optional false (result inner false), inner .block])

/-! ### Operands -/

/-- The value that is converted, in its parentheses. -/
def converted : Rule :=
  seq [mark "(", enclosed inner, optional false (mark ","), mark ")"]

/-- A conversion to a type that is no expression itself. -/
def conversion : Rule :=
  node .conversion
    (seq [firstOf [typeLiteral inner false, parenthesizedType inner], converted inner])

/-- The arguments of a call. -/
def arguments : Rule :=
  node .arguments (listed "(" ")" (seq [enclosed inner, optional false (mark "...")]))

/-- A call of a built-in function whose first argument is a type. -/
def allocation (lines : Bool) : Rule :=
  node .expression <|
    seq [token fun t => t.isWord "make" || t.isWord "new",
      attached lines <| node .arguments <|
        seq [mark "(", inner (.type false), many false (seq [mark ",", enclosed inner]),
          optional false (mark ","), mark ")"]]

/-- The index or the bounds of a slice in their brackets. -/
def bounds : Rule :=
  let bound := optional false (enclosed inner)
  seq [mark "[", bound,
    optional false (seq [mark ":", bound, optional false (seq [mark ":", bound])]), mark "]"]

/-- What an operand starts with. -/
def operandStart (place : Place) : Rule :=
  firstOf
    [compositeLiteral inner place, functionLiteral inner, allocation inner place.lines,
      token fun t => t.isName || t.isLiteral,
      node .expression (seq [mark "(", enclosed inner, mark ")"]), conversion inner]

/-- What an operand goes on with: a selector, a type assertion, a call, an index or an instantiation.
Types in brackets are arguments of the function that is called behind them. -/
def operandContinuation : Rule :=
  firstOf
    [seq [mark ".", name],
      seq [mark ".", mark "(", inner (.type false), mark ")"],
      seq [typeArguments inner, arguments inner],
      bounds inner,
      seq [mark "[", commas false (inner (.type false)), optional false (mark ","), mark "]"],
      arguments inner]

/-- An operand. -/
def operand (place : Place) : Rule :=
  firstOf
    [node .expression (seq [anyMark unaryOperators, inner (.operand place)]),
      growing place.lines .expression (operandStart inner place) (operandContinuation inner)]

/-- An expression. -/
def expression (place : Place) : Rule :=
  group .expression (separated place.lines (anyMark binaryOperators) (inner (.operand place)))

end AnnotatedApi.GoSource.Grammar
