import AnnotatedApi.GoSource.Grammar.Statement

/-!
The grammar of source files.

`readPhrase` ties the rules together: it reads a phrase by its rule, with itself as the rules for the
phrases inside. Its fuel bounds the depth to which phrases nest. `readTree` gives the tree of a file.
-/

namespace AnnotatedApi.GoSource

open Rule

namespace Grammar

variable (inner : Phrases)

/-- The rule of a phrase. -/
def rule : Phrase → Rule
  | .type lines => type inner lines
  | .simpleType lines => simpleType inner lines
  | .expression place => expression inner place
  | .operand place => operand inner place
  | .literalValue => literalValue inner
  | .statement => statement inner
  | .block => block inner

/-- The package that a file belongs to. -/
def packageClause : Rule :=
  node .packageClause (seq [word "package", name])

/-- An imported package. -/
def importSpec : Rule :=
  node .importSpec
    (seq [optional false (firstOf [name, node .importPeriod (mark ".")]), token (·.isString)])

/-- Imported packages. -/
def importDecl : Rule :=
  node .statement <| seq [word "import", firstOf
    [node .importList (seq [mark "(", terminated importSpec, mark ")"]), importSpec]]

/-- What follows the name of a function. -/
def signature : Rule :=
  seq [parameters inner, optional true (result inner true), optional true (inner .block)]

/-- The declaration of a method. -/
def method : Rule :=
  node .method (seq [word "func", parameters inner, name, signature inner])

/-- The declaration of a function. -/
def function : Rule :=
  node .function
    (seq [word "func", name, optional false (typeParameters inner), signature inner])

/-- The declarations and statements of a file. One of no known form is kept as its tokens. -/
def fileItems : Rule :=
  terminated <| firstOf
    [packageClause, importDecl, method inner, function inner, inner .statement, skimmed]

end Grammar

/-- Reads a phrase whose phrases nest at most `fuel` deep. -/
def readPhrase : Nat → Phrase → Rule
  | 0, _, _ => none
  | fuel + 1, phrase, ts => Grammar.rule (readPhrase fuel) phrase ts

/-- The tree of a file with the given tokens. -/
def readTree (ts : List Token) : Tree :=
  -- a chain of phrases that start with the same token is shorter than eight
  let items := Grammar.fileItems (readPhrase (8 * ts.length + 8)) ts
  let members := match items with
    | some (trees, rest) => trees ++ (joinLines [] rest).map .token
    | none => ts.map .token
  .node .sourceFile (Tree.placeComments members)

end AnnotatedApi.GoSource
