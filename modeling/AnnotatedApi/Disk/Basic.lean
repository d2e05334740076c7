import AnnotatedApi.Disk.Path

/-!
Files and directories as a value.

A disk is the tree below `/`, with the directory that relative paths start from. The entries of a
directory are kept in order of their names. A path is followed step by step, so `a/../b` exists only
if `a` is a directory; above `/` there is only `/` itself. A file holds a text, or bytes that are no
text. What may be done with a file or a directory is kept with it. There are no symbolic links.
-/

namespace AnnotatedApi

open Text

/-- Why a file could not be read or written. -/
inductive FileFault where
  | notFound
  | alreadyExists
  | notDirectory
  | isDirectory
  | denied
  | notText
deriving DecidableEq, Repr, Inhabited

def FileFault.message : FileFault → String
  | .notFound => "No such file or directory (os error 2)"
  | .alreadyExists => "File exists (os error 17)"
  | .notDirectory => "Not a directory (os error 20)"
  | .isDirectory => "Is a directory (os error 21)"
  | .denied => "Permission denied (os error 13)"
  | .notText => "stream did not contain valid UTF-8"

/-- What may be done with a file or a directory. -/
structure Access where
  /-- Reading the file, or listing the entries of the directory. -/
  read : Bool := true
  /-- Changing the file, or adding entries to the directory. -/
  write : Bool := true
  /-- Going through the directory. -/
  enter : Bool := true
deriving DecidableEq, Repr, Inhabited

/-- A file, without a text if its bytes are none, or a directory. -/
inductive Node where
  | file (text : Option String) (access : Access := {})
  | dir (entries : List (String × Node)) (access : Access := {})
deriving Inhabited

/-- What reading a file gives. -/
def readFile (text : Option String) (access : Access) : Except FileFault String :=
  if access.read then text.elim (.error .notText) .ok else .error .denied

namespace Node

/-- The child with the given name. -/
def child? (name : String) (entries : List (String × Node)) : Option Node :=
  (entries.find? (·.1 == name)).map (·.2)

/-- Puts an entry into a list sorted by name, in place of one with the same name. -/
def putEntry (name : String) (node : Node) : List (String × Node) → List (String × Node)
  | [] => [(name, node)]
  | (n, old) :: rest =>
    if name < n then (name, node) :: (n, old) :: rest
    else if name == n then (name, node) :: rest
    else (n, old) :: putEntry name node rest

/-- The entries of a directory; a file has none. -/
def entries : Node → List (String × Node)
  | .dir entries _ => entries
  | .file _ _ => []

/-- What may be done with a directory. -/
def dirAccess : Node → Access
  | .dir _ access => access
  | .file _ _ => {}

/-- The node that a list of names leads to. -/
def at? : Node → List String → Option Node
  | node, [] => some node
  | .dir entries _, name :: rest => (child? name entries).bind (·.at? rest)
  | .file _ _, _ :: _ => none

/-- Puts a node where a list of names leads to, with the directories on the way. -/
def put (new : Node) : List String → Node → Node
  | [], _ => new
  | name :: rest, node =>
    let child := put new rest ((child? name node.entries).getD (.dir []))
    .dir (putEntry name child node.entries) node.dirAccess

/-- A file that gives this when it is read. -/
def ofReading : Except FileFault String → Node
  | .ok text => .file (some text)
  | .error .notText => .file none
  | .error _ => .file none { read := false }

end Node

/-- A tree of files and directories, and the place of the current directory. -/
structure Disk where
  root : Node := .dir []
  here : List String := []
deriving Inhabited

namespace Disk

/-- The names between the slashes of a path, dots included. -/
def named (path : String) : List String :=
  (splitOn '/' path).filter (!·.isEmpty)

/-- Where a path starts. -/
def start (disk : Disk) (path : String) : List String :=
  if Path.isAbsolute path then [] else disk.here

/-- Follows steps from the directory or file at `done`. -/
def follow (disk : Disk) (done : List String) : List String → Except FileFault (List String)
  | [] => .ok done
  | step :: rest =>
    match disk.root.at? done with
    | none => .error .notFound
    | some (.file _ _) => .error .notDirectory
    | some (.dir entries access) =>
      if !access.enter then .error .denied
      else if step == "." then disk.follow done rest
      else if step == ".." then disk.follow done.dropLast rest
      else if (Node.child? step entries).isSome then disk.follow (done ++ [step]) rest
      else .error .notFound

/-- The place that a path leads to. The empty path leads nowhere. -/
def locate (disk : Disk) (path : String) : Except FileFault (List String) :=
  if path.isEmpty then .error .notFound else disk.follow (disk.start path) (named path)

/-- What a path leads to. A final slash asks for a directory. -/
def node? (disk : Disk) (path : String) : Except FileFault Node := do
  let place ← disk.locate path
  match disk.root.at? place with
  | some (.dir entries access) => return .dir entries access
  | some (.file text access) =>
    if endsWith "/" path then throw .notDirectory else return .file text access
  | none => throw .notFound

/-- Whether a path leads to something. -/
def exists? (disk : Disk) (path : String) : Bool :=
  (disk.node? path).toOption.isSome

/-- Whether a path leads to a directory. -/
def isDir (disk : Disk) (path : String) : Bool :=
  match disk.node? path with
  | .ok (.dir _ _) => true
  | _ => false

/-- The text of the file that a path leads to. -/
def readText (disk : Disk) (path : String) : Except FileFault String := do
  match ← disk.node? path with
  | .dir _ access => throw (if access.read then .isDirectory else .denied)
  | .file text access => readFile text access

/-- The place of the directory that holds the last name of a path, and that name. The path of the root
has none, and counts as a dot there. -/
def target (disk : Disk) (path : String) : Except FileFault (List String × String) := do
  match (named path).getLast? with
  | none => if path.isEmpty then throw .notFound else return ([], ".")
  | some last =>
    let place ← disk.follow (disk.start path) (named path).dropLast
    match disk.root.at? place with
    | some (.dir _ access) => if access.enter then return (place, last) else throw .denied
    | some (.file _ _) => throw .notDirectory
    | none => throw .notFound

/-- Whether entries may be added at a place. -/
def mayAdd (disk : Disk) (place : List String) : Bool :=
  match disk.root.at? place with
  | some (.dir _ access) => access.write
  | _ => false

/-- Puts a file or an empty directory at a place. -/
def put (disk : Disk) (place : List String) (node : Node) : Disk :=
  { disk with root := Node.put node place disk.root }

/-- Makes one directory. -/
def makeDir (disk : Disk) (path : String) : Except FileFault Disk := do
  let (place, last) ← disk.target path
  if last == "." || last == ".." || (disk.root.at? (place ++ [last])).isSome then
    throw .alreadyExists
  if disk.mayAdd place then return disk.put (place ++ [last]) (.dir []) else throw .denied

/-- Makes one directory, unless it exists. The empty path is the current directory. -/
def ensureDir (path : String) (disk : Disk) : Except FileFault Unit × Disk :=
  if path.isEmpty then (.ok (), disk)
  else match disk.makeDir path with
    | .ok disk => (.ok (), disk)
    | .error fault => (if disk.isDir path then .ok () else .error fault, disk)

/-- The path of the directory that has to be made before the one at `path`. -/
def missingParent? (disk : Disk) (path : String) : Option String :=
  match disk.makeDir path with
  | .error .notFound => Path.parent? path
  | _ => none

/-- A change that is only made after one that succeeded. -/
def thenChange {ε : Type} (change : Disk → Except ε Unit × Disk) :
    Except ε Unit × Disk → Except ε Unit × Disk
  | (.ok _, disk) => change disk
  | (.error e, disk) => (.error e, disk)

/-- Makes a directory and those on the way to it. Those made before a failure stay. -/
def makeDirs : Nat → String → Disk → Except FileFault Unit × Disk
  | 0, path, disk => disk.ensureDir path
  | fuel + 1, path, disk =>
    match disk.missingParent? path with
    | some parent => thenChange (ensureDir path) (disk.makeDirs fuel parent)
    | none => disk.ensureDir path

/-- Writes a file, or gives an older one another text. -/
def writeText (disk : Disk) (path text : String) : Except FileFault Disk := do
  let (place, last) ← disk.target path
  if last == "." || last == ".." || endsWith "/" path then throw .isDirectory
  match disk.root.at? (place ++ [last]) with
  | some (.dir _ _) => throw .isDirectory
  | some (.file _ access) =>
    if access.write then return disk.put (place ++ [last]) (.file (some text) access)
    else throw .denied
  | none =>
    if disk.mayAdd place then return disk.put (place ++ [last]) (.file (some text))
    else throw .denied

/-- The names of a path. -/
def namesOf (path : String) : List String :=
  (Path.components path).filterMap fun
    | .name text => some text
    | _ => none

/-- The place of a path without dots. -/
def placeOf (disk : Disk) (path : String) : List String :=
  disk.start path ++ namesOf path

/-- Adds a file that gives `text` when it is read, with the directories on the way. -/
def addFile (disk : Disk) (path : String) (text : Except FileFault String) : Disk :=
  disk.put (disk.placeOf path) (.ofReading text)

/-- Adds a directory that may have entries already. -/
def addDir (disk : Disk) (path : String) : Disk :=
  match disk.root.at? (disk.placeOf path) with
  | some (.dir _ _) => disk
  | _ => disk.put (disk.placeOf path) (.dir [])

mutual

/-- The files of a tree with their paths, depth first, and with what reading them gives. A directory
that cannot be opened is left out; `reached` tells whether one may go on to the tree at all. -/
def filesOf (path : String) (reached : Bool) : Node → List (String × Except FileFault String)
  | .file text access => [(path, if reached then readFile text access else .error .denied)]
  | .dir entries access =>
    if reached && access.read then filesIn path access.enter entries else []

/-- The files of the entries of a directory. -/
def filesIn (path : String) (reached : Bool) :
    List (String × Node) → List (String × Except FileFault String)
  | [] => []
  | (name, node) :: rest =>
    filesOf (if path.isEmpty then name else path ++ "/" ++ name) reached node ++
      filesIn path reached rest

end

/-- The files below the current directory with their relative paths. -/
def files (disk : Disk) : List (String × Except FileFault String) :=
  (disk.root.at? disk.here).elim [] (filesOf "" true)

end Disk

end AnnotatedApi
