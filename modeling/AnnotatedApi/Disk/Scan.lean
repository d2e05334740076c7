import AnnotatedApi.Disk.Basic

/-!
Finding the source files below a directory.

A scan goes through the entries of each directory in order of their names and collects the `.go`
files that are no tests. It does not enter directories that hold no sources of the interface: those
named `vendor`, `testdata`, `docs` or `node_modules`, hidden ones, those that start with `_`, and
`internal` unless it is asked for. Entries at or below an excluded path are left out. The directory
that the scan starts from is always entered. A directory that cannot be opened is reported, and the
scan goes on behind it.
-/

namespace AnnotatedApi

open Text

/-- What a scan leaves out. -/
structure ScanRules where
  parseInternal : Bool := false
  exclude : List String := []
deriving DecidableEq, Repr, Inhabited

namespace ScanRules

/-- An excluded path without blanks around it, leading `./` and final slashes. -/
def normalize (pattern : String) : String :=
  let cs := dropStartRepeated ['.', '/'] pattern.length (trimChars pattern.toList)
  .ofList (dropEndWhile (· == '/') cs)

/-- Whether a path, relative to the start of the scan, is at or below an excluded one. -/
def isExcluded (rules : ScanRules) (relative : String) : Bool :=
  let relative := String.ofList (relative.toList.map fun c => if c == '\\' then '/' else c)
  rules.exclude.any fun pattern =>
    let pattern := normalize pattern
    relative == pattern || startsWith (pattern ++ "/") relative

/-- Whether a directory with this name is entered. -/
def enters (rules : ScanRules) (name : String) : Bool :=
  !(startsWith "." name || startsWith "_" name ||
    ["vendor", "testdata", "docs", "node_modules"].contains name ||
    (name == "internal" && !rules.parseInternal))

end ScanRules

/-- Whether a file with this name is a source file. -/
def isSourceName (name : String) : Bool :=
  endsWith ".go" name && !endsWith "_test.go" name

/-- What a scan comes across: a source file, or a directory that cannot be opened. -/
inductive Finding where
  | source (path : String)
  | barred (path : String)
deriving DecidableEq, Repr, Inhabited

namespace Finding

/-- The source file that was found. -/
def source? : Finding → Option String
  | .source path => some path
  | .barred _ => none

/-- The warning about a directory that cannot be opened. -/
def warning? : Finding → Option String
  | .source _ => none
  | .barred path =>
    some ("Failed to access path: IO error for operation on " ++ path ++ ": " ++
      FileFault.denied.message)

end Finding

mutual

/-- What is found at an entry, which has the given name and paths. `reached` tells whether one may go
through the directory that holds it. -/
def scanNode (rules : ScanRules) (name path relative : String) (reached : Bool) :
    Node → List Finding
  | .file _ _ => if isSourceName name then [.source path] else []
  | .dir entries access =>
    if !rules.enters name then []
    else if reached && access.read then scanEntries rules path relative access.enter entries
    else [.barred path]

/-- What is found at the entries of a directory. -/
def scanEntries (rules : ScanRules) (dir relative : String) (reached : Bool) :
    List (String × Node) → List Finding
  | [] => []
  | (name, node) :: rest =>
    let below := if relative.isEmpty then name else relative ++ "/" ++ name
    (if rules.isExcluded below then []
      else scanNode rules name (Path.join dir name) below reached node) ++
      scanEntries rules dir relative reached rest

end

/-- The start of a scan is no directory. -/
structure ScanError where
  root : String
deriving DecidableEq, Repr

def ScanError.message (e : ScanError) : String :=
  "Search directory is not a directory: " ++ e.root

/-- What a scan finds below a directory. -/
def Disk.survey (disk : Disk) (rules : ScanRules) (root : String) :
    Except ScanError (List Finding) :=
  match disk.node? root with
  | .ok (.dir entries access) =>
    .ok (if access.read then scanEntries rules root "" access.enter entries else [.barred root])
  | _ => .error ⟨root⟩

/-- The source files below a directory. -/
def Disk.scan (disk : Disk) (rules : ScanRules) (root : String) : Except ScanError (List String) :=
  (disk.survey rules root).map (·.filterMap Finding.source?)

/-- The warnings of a scan. -/
def Disk.scanWarnings (disk : Disk) (rules : ScanRules) (root : String) : List String :=
  ((disk.survey rules root).toOption.getD []).filterMap Finding.warning?

end AnnotatedApi
