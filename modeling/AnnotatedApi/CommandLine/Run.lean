import AnnotatedApi.Build
import AnnotatedApi.CommandLine.Arguments
import AnnotatedApi.Disk.Load
import AnnotatedApi.Disk.Scan
import AnnotatedApi.Document.Encoding
import AnnotatedApi.Document.Validity

/-!
A run of the command line.

A step of a run works on a session: the disk, what was printed, and the log. `generate` goes from the
disk to a valid document: scan, parse, build, validate. `publish` then prints the text of the document
or writes it to a file. A step that fails leaves the session as it was at that point, so what it did
before stays done. The parser of Go sources is an argument of all steps that need it; `run` is the
run with the one of this library.
-/

namespace AnnotatedApi

open Text

/-- A line of the log. -/
inductive LogLine where
  | info (text : String)
  | warn (text : String)
deriving DecidableEq, Repr, Inhabited

/-- A line with its level in front. -/
def LogLine.text : LogLine → String
  | .info text => "INFO " ++ text
  | .warn text => "WARN " ++ text

/-- What a run works on. -/
structure Session where
  disk : Disk
  printed : String := ""
  logs : List LogLine := []
deriving Inhabited

/-- The session with more lines in its log. -/
def Session.note (lines : List LogLine) (s : Session) : Session :=
  { s with logs := s.logs ++ lines }

/-- A step of a run: a result or a failure, and the session after it. -/
def Step (ε α : Type) : Type :=
  Session → Except ε α × Session

namespace Step

variable {ε α β : Type}

/-- Goes on with the result of a step, unless it failed. -/
def andThen (x : Step ε α) (f : α → Step ε β) : Step ε β := fun s =>
  match x s with
  | (.ok a, s) => f a s
  | (.error e, s) => (.error e, s)

instance : Monad (Step ε) where
  pure a := fun s => (.ok a, s)
  bind := andThen

/-- Leaves log lines. -/
def note (lines : List LogLine) : Step ε Unit := fun s =>
  (.ok (), s.note lines)

/-- Leaves one line about the progress. -/
def info (text : String) : Step ε Unit :=
  note [.info text]

/-- Fails. -/
def fail (e : ε) : Step ε α := fun s =>
  (.error e, s)

/-- What can be seen on the disk. -/
def look (f : Disk → α) : Step ε α := fun s =>
  (.ok (f s.disk), s)

/-- The result of a computation, its failure turned into one of this step. -/
def lift {δ : Type} (wrap : δ → ε) : Except δ α → Step ε α
  | .ok a => pure a
  | .error e => fail (wrap e)

/-- Prints a text. -/
def print (text : String) : Step ε Unit := fun s =>
  (.ok (), { s with printed := s.printed ++ text })

/-- Changes the disk. -/
def change (f : Disk → Except ε α × Disk) : Step ε α := fun s =>
  ((f s.disk).1, { s with disk := (f s.disk).2 })

end Step

/-! ### Checking the arguments -/

/-- Arguments that name no directory to search. -/
inductive ArgumentError where
  | missingDir (path : String)
  | notDirectory (path : String)
deriving DecidableEq, Repr

def ArgumentError.message : ArgumentError → String
  | .missingDir path => "Search directory does not exist: " ++ path
  | .notDirectory path => "Search directory is not a directory: " ++ path

/-- The warning about a collection format that is not known by the given name. -/
def formatWarnings (given : String) : List LogLine :=
  let format := (CollectionFormat.ofText given).name
  if format == lower given then []
  else [.warn ("Unknown collection format '" ++ given ++ "', falling back to " ++ format)]

/-- Checks the search directory and reports what the arguments ask for. -/
def Arguments.check (a : Arguments) : Step ArgumentError Unit := do
  if !(← Step.look (·.exists? a.dir)) then Step.fail (.missingDir a.dir)
  else if !(← Step.look (·.isDir a.dir)) then Step.fail (.notDirectory a.dir)
  else
    Step.note (formatWarnings a.collectionFormat)
    Step.info ("Search directory: " ++ a.dir)
    Step.info ("Output format: " ++ a.format.label)
    Step.info <| match a.output with
      | some path => "Output file: " ++ path
      | none => "Output: stdout"
    Step.info <| match a.generalInfo with
      | some path => "General info file: " ++ path
      | none => "General info file: auto-detect"

/-! ### From a disk to a document -/

/-- Why a run failed. -/
inductive RunError where
  | scan (e : ScanError)
  | noSources (dir : String)
  | noneParsed
  | content (e : ContentError)
  | invalid (e : ValidationError)
  | makeDir (path : String) (fault : FileFault)
  | write (path : String) (fault : FileFault)
deriving DecidableEq, Repr

/-- The failure with its causes, from the outside in. -/
def RunError.message : RunError → String
  | .scan e => e.message
  | .noSources dir => "No Go files found in " ++ dir
  | .noneParsed => "No files could be parsed successfully"
  | .content e => "Failed to load annotation resources: " ++ e.message
  | .invalid e =>
    "Generated document is invalid: " ++ e.message ++
      match e.cause? with
      | some cause => ": " ++ cause.message
      | none => ""
  | .makeDir path fault => "Failed to create directory: " ++ path ++ ": " ++ fault.message
  | .write path fault => "Failed to write to file: " ++ path ++ ": " ++ fault.message

/-- A document with the counts that the summary gives. -/
structure Generation where
  document : Document
  scanned : Nat
  parsed : Nat

/-- The warnings about source files that were left out. -/
def sourceWarnings (parser : GoParser) (disk : Disk) (paths : List String) : List LogLine :=
  paths.filterMap fun path =>
    match disk.parseSource parser path with
    | .ok _ => none
    | .error e => some (.warn ("Failed to parse " ++ path ++ ": " ++ e.summary))

/-- Loads the overrides that a configuration names. -/
def loadOverrides (config : Config) : Step RunError Overrides :=
  match config.overridesFile with
  | none => pure []
  | some path => do
    let (overrides, malformed) ← Step.look (Overrides.load · path)
    if malformed then Step.note [.warn ("Ignoring malformed overrides file " ++ path)]
    return overrides

/-- Loads what stays the same while files are added. -/
def loadContext (config : Config) : Step RunError BuildContext := do
  let loaded ← Step.look (ContentStore.load · config.markdownDir config.codeDir)
  let content ← Step.lift .content loaded
  Step.info ("Loaded " ++ toString content.markdownTexts.length ++ " markdown file(s) and " ++
    toString content.codeTexts.length ++ " code example(s)")
  let overrides ← loadOverrides config
  return { config, content, overrides }

/-- Builds the document of source files. -/
def buildDocument (ctx : BuildContext) (files : List SourceFile) : Step RunError Document := do
  let start : Build := {}
  Step.note <| (start.infoReads ctx files).map fun path =>
    .info ("Reading general API info from " ++ path)
  let done := start.addFiles ctx files
  Step.note <| match done.generalInfoFile with
    | some path => [.info ("General API info read from " ++ path)]
    | none => [.warn "No file with @title or @version found"]
  return done.document

/-- What a scan leaves out. -/
def Arguments.scanRules (a : Arguments) : ScanRules :=
  { parseInternal := a.config.parseInternal, exclude := a.config.exclude }

/-- Finds the source files below the search directory. The warnings are given twice: by the scan, and
with its result. -/
def findSources (a : Arguments) : Step RunError (List String) := do
  Step.info ("Scanning " ++ a.dir ++ "...")
  let scanned ← Step.look (·.scan a.scanRules a.dir)
  let warnings ← Step.look (·.scanWarnings a.scanRules a.dir)
  Step.note (warnings.map .warn)
  let paths ← Step.lift .scan scanned
  Step.info ("Found " ++ toString paths.length ++ " Go files")
  Step.note (warnings.map .warn)
  if paths.isEmpty then Step.fail (.noSources a.dir) else return paths

/-- Parses source files, without those that cannot be read or parsed. -/
def parseSources (parser : GoParser) (paths : List String) : Step RunError (List SourceFile) := do
  Step.info "Parsing Go files..."
  let files ← Step.look (parsedSources parser · paths)
  let warnings ← Step.look (sourceWarnings parser · paths)
  Step.note warnings
  Step.info ("Successfully parsed " ++ toString files.length ++ " files")
  if files.isEmpty then Step.fail .noneParsed else return files

/-- Generates a valid document from the source files below the search directory. -/
def generate (parser : GoParser) (a : Arguments) : Step RunError Generation := do
  Step.info "Starting OpenAPI document generation..."
  let paths ← findSources a
  let files ← parseSources parser paths
  Step.info "Building OpenAPI document..."
  let ctx ← loadContext a.config
  let document ← buildDocument ctx files
  Step.info "Validating document..."
  Step.lift .invalid document.validate
  return { document, scanned := paths.length, parsed := files.length }

/-! ### Output -/

/-- The text of a document in an output format. -/
def OutputFormat.write : OutputFormat → Document → String
  | .yaml, d => d.yamlText
  | .json, d => d.jsonText

/-- A failure of a change turned into one of the run. -/
def wrapFault (wrap : FileFault → RunError) (done : Except FileFault Unit × Disk) :
    Except RunError Unit × Disk :=
  (done.1.mapError wrap, done.2)

/-- Makes the directories on the way to a file. -/
def Disk.makeParents (path : String) (disk : Disk) : Except RunError Unit × Disk :=
  match Path.parent? path with
  | some parent => wrapFault (.makeDir parent) (disk.makeDirs parent.length parent)
  | none => (.ok (), disk)

/-- Writes a text to a file that may be there already. -/
def Disk.writeFile (path text : String) (disk : Disk) : Except RunError Unit × Disk :=
  match disk.writeText path text with
  | .ok disk => (.ok (), disk)
  | .error fault => (.error (.write path fault), disk)

/-- Writes a text to a file, with the directories on the way to it. -/
def Disk.save (path text : String) (disk : Disk) : Except RunError Unit × Disk :=
  Disk.thenChange (Disk.writeFile path text) (disk.makeParents path)

/-- Prints a text, or writes it to the output file. -/
def publish (a : Arguments) (text : String) : Step RunError Unit :=
  match a.output with
  | none => Step.print (text ++ "\n")
  | some path => do
    Step.info ("Writing output to: " ++ path)
    Step.change (Disk.save path text)

/-- The lines at the end of a run. -/
def summary (g : Generation) : List LogLine :=
  [ .info "Generation complete!"
  , .info "Summary:"
  , .info ("  - Files scanned: " ++ toString g.scanned)
  , .info ("  - Files parsed: " ++ toString g.parsed)
  , .info ("  - Operations: " ++ toString g.document.operations.length)
  , .info ("  - Schemas: " ++ toString g.document.components.schemas.length) ]

/-- Generates a document and publishes it. -/
def runWith (parser : GoParser) (a : Arguments) : Step RunError Unit := do
  let g ← generate parser a
  Step.info ("Serializing to " ++ a.format.label ++ " format...")
  publish a (a.format.write g.document)
  Step.note (summary g)

/-- A run with the parser of this library. -/
def run (a : Arguments) : Step RunError Unit :=
  runWith (some ∘ GoSource.parse) a

end AnnotatedApi
