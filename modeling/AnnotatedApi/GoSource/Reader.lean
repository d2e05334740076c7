import AnnotatedApi.GoSource.Grammar.File
import AnnotatedApi.GoSource.Layout
import AnnotatedApi.GoSource.Declaration

/-!
Reading Go source files.

Declarations are read off the syntax tree: the package, the types with their fields, and the
functions, each with its documentation. A type that has no schema shape (channels, functions,
instances of generic types) is kept as its source text, and so is a comment that stands where a type
is looked for.
-/

namespace AnnotatedApi.GoSource

open Text

/-- What the reading of declarations depends on besides the tree. -/
structure Surroundings where
  chars : List Char
  groups : List PlacedGroup

/-- The source text of a tree. -/
def Surroundings.text (file : Surroundings) (t : Tree) : String :=
  let tokens := t.tokens
  let start := (tokens.head?.map (·.start)).getD 0
  let stop := (tokens.getLast?.map (·.stop)).getD 0
  .ofList ((file.chars.drop start).take (stop - start))

/-- The documentation of what starts on `row`. -/
def Surroundings.doc (file : Surroundings) (row : Nat) : CommentGroup :=
  (docAbove? file.groups row).getD {}

/-! ### Types and fields -/

/-- The text of a tag without its quotes; quotes inside an interpreted literal are escaped. -/
def unquoteTag (literal : String) : String :=
  match (dropStart? "\x60" literal).bind (dropEnd? "\x60") with
  | some raw => raw
  | none =>
    match (dropStart? "\x22" literal).bind (dropEnd? "\x22") with
    | some text => .ofList (unescape text.toList)
    | none => literal
where
  /-- Removes the backslash in front of a quote. -/
  unescape : List Char → List Char
    | '\\' :: '\x22' :: rest => '\x22' :: unescape rest
    | c :: rest => c :: unescape rest
    | [] => []

/-- The names among the members of a construct. -/
def namesAmong (members : List Tree) : List String :=
  (members.filterMap (·.token?)).filterMap fun t => if t.isName then some t.text else none

/-- The tag among the members of a field declaration. -/
def tagAmong (members : List Tree) : Option String :=
  ((members.filterMap (·.token?)).find? (·.isString)).map fun t => unquoteTag t.text

/-- Whether the mark is among the members of a construct. -/
def hasMark (text : String) (members : List Tree) : Bool :=
  (members.filterMap (·.token?)).any (·.isMark text)

mutual

/-- The type that a tree stands for. -/
def typeOf (file : Surroundings) : Tree → TypeExpr
  | .comment c => .unsupported c.text
  | .token t => .unsupported t.text
  | .node k members =>
    let written := .unsupported (file.text (.node k members))
    match k with
    | .typeName => (namesAmong members).head?.elim written .ident
    | .qualifiedType =>
      match namesAmong members with
      | [package, name] => .qualified package name
      | _ => written
    | .pointerType => (firstTypeOf? file members).elim written .pointer
    | .parenthesizedType => (firstTypeOf? file members).getD written
    | .sliceType | .arrayType => (lastTypeOf? file members).elim written .slice
    | .mapType =>
      match keyTypeOf? file members, lastTypeOf? file members with
      | some key, some value => .map key value
      | _, _ => written
    | .structType => .struct (structFields file members)
    | .interfaceType => .interface
    | _ => written

/-- The type of the first element, be it a comment. -/
def firstTypeOf? (file : Surroundings) : List Tree → Option TypeExpr
  | [] => none
  | t :: rest => if t.isElement then some (typeOf file t) else firstTypeOf? file rest

/-- The type of the first element that is not a comment. -/
def keyTypeOf? (file : Surroundings) : List Tree → Option TypeExpr
  | [] => none
  | t :: rest =>
    if t.isElement && !t.isComment then some (typeOf file t) else keyTypeOf? file rest

/-- The type of the last member. -/
def lastTypeOf? (file : Surroundings) : List Tree → Option TypeExpr
  | [] => none
  | t :: rest => some ((lastTypeOf? file rest).getD (typeOf file t))

/-- The type of the construct among the members of a field declaration. -/
def fieldTypeOf? (file : Surroundings) : List Tree → Option TypeExpr
  | [] => none
  | .node k members :: _ => some (typeOf file (.node k members))
  | _ :: rest => fieldTypeOf? file rest

/-- The fields of a struct with the given members. -/
def structFields (file : Surroundings) : List Tree → List Field
  | [] => []
  | .node .fieldList members :: rest => fieldsAmong file members ++ structFields file rest
  | _ :: rest => structFields file rest

/-- The fields among the members of a field list. -/
def fieldsAmong (file : Surroundings) : List Tree → List Field
  | [] => []
  | t :: rest => (fieldOf? file t).toList ++ fieldsAmong file rest

/-- The field that a tree declares. -/
def fieldOf? (file : Surroundings) : Tree → Option Field
  | .node .namedField members =>
    (fieldTypeOf? file members).map fun type =>
      { names := namesAmong members, type, tag := tagAmong members
        doc := file.doc (Tree.node .namedField members).row }
  | .node .embeddedField members =>
    (fieldTypeOf? file members).map fun type =>
      { names := [], type := if hasMark "*" members then .pointer type else type
        tag := tagAmong members, doc := file.doc (Tree.node .embeddedField members).row }
  | _ => none

end

/-! ### Declarations -/

/-- The type that a specification in a declaration on `declRow` declares. An alias declares
nothing. -/
def typeDeclOf? (file : Surroundings) (declRow : Nat) : Tree → Option TypeDecl
  | .node .typeSpec members =>
    let row := (Tree.node .typeSpec members).row
    match (namesAmong members).head?, lastTypeOf? file members with
    | some name, some type =>
      some { name, type, line := row + 1
             doc := ((docAbove? file.groups row).or (docAbove? file.groups declRow)).getD {} }
    | _, _ => none
  | _ => none

/-- The type of a receiver as it is written, without leading stars. The members are those of the
parameter list; a comment in front of the parameter hides it. -/
def receiverText? (file : Surroundings) (members : List Tree) : Option String :=
  match members.find? (·.isElement) with
  | some (.node .parameter members) =>
    members.getLast?.map fun type =>
      .ofList ((file.text type).toList.dropWhile (· == '*'))
  | _ => none

/-- The comment groups on the rows of a tree. -/
def groupsWithin (file : Surroundings) (t : Tree) : List CommentGroup :=
  let first := t.row
  let last := t.endRow
  (file.groups.filter fun g => first ≤ g.group.startRow && g.group.endRow ≤ last).map (·.group)

/-- The function with the given members and receiver. -/
def funcDeclOf? (file : Surroundings) (row : Nat) (receiver : Option String) (members : List Tree) :
    Option FuncDecl :=
  (namesAmong members).head?.map fun name =>
    { name, receiver, doc := file.doc row, line := row + 1
      bodyComments := ((members.find? (·.isConstruct .block)).map (groupsWithin file)).getD [] }

/-- Adds what a tree declares to the file read so far. -/
def declare (file : Surroundings) (read : SourceFile) (t : Tree) : SourceFile :=
  match t with
  | .node .packageClause members =>
    match members.find? (·.isElement) with
    | some (.comment c) => { read with package := c.text }
    | some name => { read with package := file.text name }
    | none => read
  | .node .typeDecl members =>
    { read with types := read.types ++ members.filterMap (typeDeclOf? file t.row) }
  | .node .function members =>
    { read with funcs := read.funcs ++ (funcDeclOf? file t.row none members).toList }
  | .node .method members =>
    let receiver := (members.find? (·.isConstruct .parameters)).bind fun list =>
      receiverText? file list.members
    { read with funcs := read.funcs ++ (funcDeclOf? file t.row receiver members).toList }
  | _ => read

/-- The source file that a syntax tree over the given text stands for. -/
def Tree.toSourceFile (t : Tree) (path : String) (chars : List Char) : SourceFile :=
  let groups := t.commentGroups
  t.members.foldl (declare { chars, groups }) { path, comments := groups.map (·.group) }

/-- The syntax tree of a source text. -/
def parse (source : String) : Tree :=
  readTree (tokenize (sourceChars source))

/-- Reads a source file. -/
def read (path source : String) : SourceFile :=
  (parse source).toSourceFile path (sourceChars source)

end AnnotatedApi.GoSource
