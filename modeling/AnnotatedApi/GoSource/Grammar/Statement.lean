import AnnotatedApi.GoSource.Grammar.Expression

/-!
The grammar of statements and of the declarations that are statements.
-/

namespace AnnotatedApi.GoSource.Grammar

open Rule

variable (inner : Phrases)

/-! ### Simple statements -/

/-- Operators of assignments and short variable declarations. -/
def assignmentOperators : List String :=
  [":=", "=", "+=", "-=", "*=", "/=", "%=", "&=", "|=", "^=", "<<=", ">>=", "&^="]

/-- An expression, an assignment, a sending, an increment or a decrement. -/
def simpleStatement (place : Place) : Rule :=
  group .statement <|
    seq [expressions inner place,
      optional place.lines <| firstOf
        [seq [anyMark assignmentOperators, expressions inner place],
          anyMark ["++", "--"],
          seq [mark "<-", inner (.expression place)]]]

/-! ### Declarations -/

/-- One specification, or several in parentheses. -/
def specifications (spec : Rule) : Rule :=
  firstOf [seq [mark "(", terminated spec, mark ")"], spec]

/-- Constants, maybe with their type and their values. -/
def constantSpec : Rule :=
  let values := seq [mark "=", expressions inner .statement]
  node .valueSpec
    (seq [commas false name, optional true (firstOf [values, seq [inner (.type false), values]])])

/-- Variables with their type, their values or both. -/
def variableSpec : Rule :=
  let values := seq [mark "=", expressions inner .statement]
  node .valueSpec
    (seq [commas false name, firstOf [values, seq [inner (.type true), optional true values]]])

mutual

/-- The weight of a reading: instances of generic types speak for it, plain type names and
conversions against it. -/
def weight : Tree → Int
  | .node k members =>
    let own : Int := match k with
      | .typeArguments => 2
      | .typeName | .conversion => -1
      | _ => 0
    own + totalWeight members
  | _ => 0

/-- The weight of trees together. -/
def totalWeight : List Tree → Int
  | [] => 0
  | t :: rest => weight t + totalWeight rest

end

/-- The reading of greater weight, and of two equal ones the first. -/
def heavier (first second : Rule) : Rule := fun ts =>
  match first ts, second ts with
  | some a, some b => if totalWeight a.1 < totalWeight b.1 then some b else some a
  | some a, none => some a
  | none, b => b

/-- The declaration of a type. What stands in brackets behind the name is the length of an array, if
it can be, and type parameters otherwise. -/
def typeSpec : Rule :=
  firstOf
    [node .typeAlias (seq [name, mark "=", inner (.type true)]),
      heavier (node .typeSpec (seq [name, inner (.type true)]))
        (node .typeSpec (seq [name, typeParameters inner, inner (.type true)]))]

/-- Declarations of constants, variables or types. -/
def declaration : Rule :=
  firstOf
    [node .statement (seq [word "const", specifications (constantSpec inner)]),
      node .statement (seq [word "var", specifications (variableSpec inner)]),
      node .typeDecl (seq [word "type", specifications (typeSpec inner)])]

/-! ### Lists of statements -/

/-- Succeeds in front of a statement. -/
def atStatement : Rule :=
  before fun t => !(t.isClosing || t.isWord "case" || t.isWord "default")

/-- Statements. One of no known form is kept as its tokens. -/
def statements : Rule :=
  terminated (seq [atStatement, firstOf [inner .statement, skimmed]])

/-- A block. -/
def block : Rule :=
  node .block (seq [mark "\x7b", statements inner, mark "\x7d"])

/-- The cases of a `switch` or `select`, in their braces. -/
def cases (item : Rule) : Rule :=
  seq [mark "\x7b",
    many false <| firstOf
      [node .clause (seq [word "case", commas false item, mark ":", statements inner]),
        node .clause (seq [word "default", mark ":", statements inner])],
    mark "\x7d"]

/-! ### Compound statements -/

/-- A conditional statement. -/
def conditional : Rule :=
  node .statement <|
    seq [word "if", simpleStatement inner .head,
      optional false (seq [mark ";", inner (.expression .head)]), inner .block,
      optional true <| seq [word "else",
        firstOf [inner .block, seq [before (·.isWord "if"), inner .statement]]]]

/-- What a loop ranges over. -/
def range : Rule :=
  seq [word "range", inner (.expression .head)]

/-- The condition and the step of a loop behind its initial statement. -/
def steps : Rule :=
  seq [mark ";", optional false (inner (.expression .head)), mark ";",
    optional false (simpleStatement inner .head)]

/-- The head of a loop: a range, three parts or a condition. -/
def loopHead : Rule :=
  firstOf
    [node .clause (range inner), node .clause (steps inner),
      group .clause <| seq
        [simpleStatement inner .head,
          optional false (firstOf [seq [anyMark [":=", "="], range inner], steps inner])]]

/-- A loop. -/
def loop : Rule :=
  node .statement (seq [word "for", optional false (loopHead inner), inner .block])

/-- A `switch` on values or on types. -/
def switch : Rule :=
  node .statement <|
    seq [word "switch", optional false (simpleStatement inner .head),
      optional false (seq [mark ";", optional false (simpleStatement inner .head)]),
      firstOf
        [seq [mark ".", mark "(", word "type", mark ")", cases inner (inner (.type false))],
          cases inner (enclosed inner)]]

/-- A `select`. -/
def select : Rule :=
  node .statement (seq [word "select", cases inner (simpleStatement inner .enclosed)])

/-- A statement behind a label. At the end of a block there is none. -/
def labeled : Rule :=
  node .statement (seq [name, attached true (mark ":"), optional false (inner .statement)])

/-- Statements that start with a keyword and have no block. -/
def command : Rule :=
  node .statement <| firstOf
    [seq [word "return", optional true (expressions inner .statement)],
      seq [firstOf [word "break", word "continue"], optional true name],
      seq [word "goto", name],
      word "fallthrough",
      seq [firstOf [word "go", word "defer"], inner (.expression .statement)]]

/-- A statement. -/
def statement : Rule :=
  firstOf
    [inner .block, node .statement (mark ";"), declaration inner, conditional inner, loop inner,
      switch inner, select inner, command inner, labeled inner, simpleStatement inner .statement]

end AnnotatedApi.GoSource.Grammar
