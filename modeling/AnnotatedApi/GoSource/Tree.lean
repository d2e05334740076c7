import AnnotatedApi.GoSource.Token

/-!
Syntax trees of Go source files.

A tree has the tokens of the file as its leaves. Reading gives a tree whose tokens still carry the
comments in front of them; `Tree.placeComments` makes them members of the tree. A comment belongs to
the innermost construct that has tokens on both sides of it, so it is never the first member of a
construct, the whole file apart, and never the last.
-/

namespace AnnotatedApi.GoSource

/-- The constructs that are told apart. -/
inductive Construct where
  | sourceFile
  | packageClause
  | importSpec
  | importList
  | importPeriod
  | valueSpec
  | typeDecl
  | typeSpec
  | typeAlias
  | function
  | method
  | typeParameters
  | parameters
  | parameter
  | typeName
  | qualifiedType
  | genericType
  | typeArguments
  | pointerType
  | arrayType
  | sliceType
  | mapType
  | channelType
  | functionType
  | structType
  | fieldList
  | namedField
  | embeddedField
  | interfaceType
  | methodSpec
  | approximation
  | union
  | parenthesizedType
  | block
  | statement
  | clause
  | expression
  | conversion
  | arguments
  | literalValue
  /-- A run of tokens that form no known construct. -/
  | unknown
deriving DecidableEq, Repr, Inhabited

/-- A syntax tree. -/
inductive Tree where
  | comment (c : Comment)
  | token (t : Token)
  | node (construct : Construct) (members : List Tree)
deriving Inhabited

namespace Tree

/-- Whether the tree is a comment. -/
def isComment : Tree → Bool
  | .comment _ => true
  | _ => false

/-- Whether the tree is the given construct. -/
def isConstruct (k : Construct) : Tree → Bool
  | .node k' _ => k == k'
  | _ => false

/-- Whether the tree is a member of its own: a comment, a construct, a name or a literal, and not a
mere mark, keyword or end of a line. -/
def isElement : Tree → Bool
  | .token t => t.isName || t.isLiteral
  | _ => true

/-- The members of a construct. -/
def members : Tree → List Tree
  | .node _ members => members
  | _ => []

/-- The token that a leaf consists of. -/
def token? : Tree → Option Token
  | .token t => some t
  | _ => none

/-! ### Positions -/

mutual

/-- The tokens of a tree. -/
def tokens : Tree → List Token
  | .comment _ => []
  | .token t => [t]
  | .node _ members => tokensOf members

/-- The tokens of trees. -/
def tokensOf : List Tree → List Token
  | [] => []
  | t :: rest => t.tokens ++ tokensOf rest

end

/-- The row that a tree starts on. -/
def row (t : Tree) : Nat :=
  (t.tokens.head?.map (·.row)).getD 0

/-- The row that a tree ends on. -/
def endRow (t : Tree) : Nat :=
  (t.tokens.getLast?.map (·.endRow)).getD 0

/-! ### Comments -/

mutual

/-- The comments in front of a tree, and the tree with the other comments in their places. -/
def liftComments : Tree → List Comment × Tree
  | .comment c => ([], .comment c)
  | .token t => (t.comments, .token t)
  | .node k members =>
    match members with
    | [] => ([], .node k [])
    | first :: rest =>
      let (front, first) := first.liftComments
      (front, .node k (first :: placeComments rest))

/-- Trees with the comments in front of them and in them. -/
def placeComments : List Tree → List Tree
  | [] => []
  | t :: rest =>
    let (front, t) := t.liftComments
    front.map .comment ++ t :: placeComments rest

end

end Tree

end AnnotatedApi.GoSource
