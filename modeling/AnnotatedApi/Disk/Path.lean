import AnnotatedApi.Text.Split

/-!
Paths.

A path is kept as it was written. What it means is its list of components: repeated slashes, a final
slash and dots between components do not count, a leading dot does. Two paths are the same when
their components are, and one ends with another when its components do.
-/

namespace AnnotatedApi.Path

open Text

/-- A step of a path. -/
inductive Component where
  | root
  | here
  | up
  | name (text : String)
deriving DecidableEq, Repr, Inhabited

/-- The component that a part between slashes stands for, if it counts. -/
def component? (first : Bool) (part : String) : Option Component :=
  if part.isEmpty then none
  else if part == "." then if first then some .here else none
  else if part == ".." then some .up
  else some (.name part)

/-- The components of a path. -/
def components (path : String) : List Component :=
  match splitOn '/' path with
  | [] => []
  | first :: rest =>
    let rest := rest.filterMap (component? false)
    if first.isEmpty then if path.isEmpty then [] else .root :: rest
    else (component? true first).toList ++ rest

/-- Whether a path starts from the root. -/
def isAbsolute (path : String) : Bool :=
  startsWith "/" path

/-- Whether two paths have the same components. -/
def same (p q : String) : Bool :=
  components p == components q

/-- Whether the components of `path` end with those of `ending`. -/
def endsWith (path ending : String) : Bool :=
  (components ending).isSuffixOf (components path)

/-- The path of an entry of a directory. -/
def join (dir entry : String) : String :=
  if dir.isEmpty || Text.endsWith "/" dir then dir ++ entry else dir ++ "/" ++ entry

/-- The parts of a path between slashes, without final ones that do not count. -/
def dropIdle : List String → List String
  | [] => []
  | first :: rest =>
    first :: (rest.reverse.dropWhile fun part => part.isEmpty || part == ".").reverse

/-- The path of the directory that holds the last component. -/
def parent? (path : String) : Option String :=
  match components path with
  | [] => none
  | [.root] => none
  | _ =>
    match dropIdle ((dropIdle (splitOn '/' path)).dropLast) with
    | [""] => some "/"
    | parts => some (Text.join "/" parts)

/-- The name of the last component. -/
def fileName? (path : String) : Option String :=
  match (components path).getLast? with
  | some (.name text) => some text
  | _ => none

/-- What follows the last dot of the file name. A name without a dot after its first character has
no extension. -/
def extension? (path : String) : Option String :=
  ((fileName? path).bind (cutLast '.')).bind fun (stem, ext) =>
    if stem.isEmpty then none else some ext

end AnnotatedApi.Path
