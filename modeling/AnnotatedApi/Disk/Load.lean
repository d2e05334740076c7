import AnnotatedApi.Disk.Basic
import AnnotatedApi.Content
import AnnotatedApi.Json.Field
import AnnotatedApi.Resolution
import AnnotatedApi.GoSource.Reader

/-!
What is loaded from a disk: external texts, override tables and source files.
-/

namespace AnnotatedApi

open Text

/-! ### External texts -/

/-- An external text that could not be read. -/
structure ContentError where
  path : String
  fault : FileFault
deriving DecidableEq, Repr

def ContentError.message (e : ContentError) : String :=
  "Failed to read content file: " ++ e.path ++ ": " ++ e.fault.message

/-- The files below a directory with their relative paths. A directory that does not exist has
none. -/
def Disk.filesBelow (disk : Disk) (dir : String) : List (String × Except FileFault String) :=
  match disk.node? dir with
  | .ok (.dir entries access) => Disk.filesOf "" true (.dir entries access)
  | _ => []

/-- The files of a list with their texts. The first one that cannot be read is reported. -/
def readFiles (dir : String) (files : List (String × Except FileFault String)) :
    Except ContentError (List (String × String)) :=
  files.mapM fun (path, text) =>
    match text with
    | .ok text => .ok (path, text)
    | .error fault => .error ⟨Path.join dir path, fault⟩

/-- The markdown files below a directory. -/
def Disk.markdownFiles (disk : Disk) (dir : String) : List (String × Except FileFault String) :=
  (disk.filesBelow dir).filter fun (path, _) => Path.extension? path == some "md"

/-- Loads the markdown texts of one directory and the code examples of another. -/
def ContentStore.load (disk : Disk) (markdownDir codeDir : Option String) :
    Except ContentError ContentStore := do
  let markdown ← match markdownDir with
    | some dir => readFiles dir (disk.markdownFiles dir)
    | none => pure []
  let code ← match codeDir with
    | some dir => readFiles dir (disk.filesBelow dir)
    | none => pure []
  return { markdownTexts :=
             Assoc.ofEntries (markdown.map fun (path, text) => ((dropEnd? ".md" path).getD path, text))
           codeTexts := Assoc.ofEntries code }

/-! ### Overrides -/

/-- The table under `replace`: every value is a text, and the last of equal keys counts. -/
def Overrides.ofTable? (j : Json) : Option Overrides :=
  (Json.readAssoc Json.asText? j).map Assoc.ofEntries

/-- The overrides of a JSON text. The table may be missing, but it must not be given twice. -/
def Overrides.ofText? (text : String) : Option Overrides :=
  match Json.read? text with
  | some (.obj fields) =>
    match fields.filter (·.1 == "replace") with
    | [] => some []
    | [(_, table)] => Overrides.ofTable? table
    | _ => none
  | some (.arr []) => some []
  | some (.arr [table]) => Overrides.ofTable? table
  | _ => none

/-- The overrides of a file, and whether the file is malformed. A missing file has none. -/
def Overrides.load (disk : Disk) (path : String) : Overrides × Bool :=
  match disk.readText path with
  | .error _ => ([], false)
  | .ok text =>
    match Overrides.ofText? text with
    | some table => (table, false)
    | none => ([], true)

/-! ### Source files -/

/-- What gives the syntax tree of a Go source text, if there is one. -/
def GoParser : Type :=
  String → Option GoSource.Tree

/-- Why a source file was left out. -/
inductive SourceFault where
  | unreadable (fault : FileFault)
  | noTree
deriving DecidableEq, Repr

/-- A source file that was left out. -/
structure SourceError where
  path : String
  fault : SourceFault
deriving DecidableEq, Repr

/-- What went wrong, without the cause. -/
def SourceError.summary (e : SourceError) : String :=
  match e.fault with
  | .unreadable _ => "Failed to read file: " ++ e.path
  | .noTree => "Failed to parse Go syntax in file: " ++ e.path

def SourceError.message (e : SourceError) : String :=
  e.summary ++ ": " ++
    match e.fault with
    | .unreadable fault => fault.message
    | .noTree => "tree-sitter produced no syntax tree"

/-- Reads and parses a source file. -/
def Disk.parseSource (parser : GoParser) (disk : Disk) (path : String) :
    Except SourceError SourceFile :=
  match disk.readText path with
  | .error fault => .error ⟨path, .unreadable fault⟩
  | .ok text =>
    match parser text with
    | some tree => .ok (tree.toSourceFile path (GoSource.sourceChars text))
    | none => .error ⟨path, .noTree⟩

/-- Reads a source file with the parser of this library. -/
def Disk.readSource (disk : Disk) (path : String) : Except SourceError SourceFile :=
  disk.parseSource (some ∘ GoSource.parse) path

/-- The source files that could be read and parsed. -/
def parsedSources (parser : GoParser) (disk : Disk) (paths : List String) : List SourceFile :=
  paths.filterMap fun path => (disk.parseSource parser path).toOption

end AnnotatedApi
