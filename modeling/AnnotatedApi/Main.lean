import AnnotatedApi.CommandLine.Run

/-!
The command line.

What the paths among the arguments pass and lead to is read into a `Disk`; all decisions are those of
`Arguments.read`, `Arguments.check` and `run`. The log goes to the standard error.
-/

namespace AnnotatedApi.Main

/-- The node at an entry of a directory, with what is below it if `deep`. What is neither a file nor
a directory is left out. -/
partial def loadNode (deep : Bool) (entry : IO.FS.DirEntry) : IO (Option Node) := do
  match ← entry.path.metadata.toBaseIO with
  | .error _ => return none
  | .ok data =>
    match data.type with
    | .dir =>
      if !deep then return some (.dir [])
      match ← entry.path.readDir.toBaseIO with
      | .error _ => return some (.dir [] { read := false })
      | .ok children =>
        let mut entries := []
        for child in children do
          if let some node ← loadNode true child then
            entries := Node.putEntry child.fileName node entries
        return some (.dir entries)
    | .file =>
      let write := (← (IO.FS.Handle.mk entry.path .append).toBaseIO).isOk
      match ← (IO.FS.readBinFile entry.path).toBaseIO with
      | .error _ => return some (.file none { read := false, write })
      | .ok bytes => return some (.file (String.fromUTF8? bytes) { write })
    | _ => return none

/-- Adds what stands at a place. -/
def loadPlace (deep : Bool) (disk : Disk) (place : List String) : IO Disk := do
  let entry : IO.FS.DirEntry :=
    { root := "/" ++ Text.join "/" place.dropLast, fileName := place.getLast?.getD "." }
  if !deep && (disk.root.at? place).isSome then return disk
  match ← loadNode deep entry with
  | some node => return disk.put place node
  | none => return disk

/-- Adds what a path passes and leads to. -/
def loadPath (deep : Bool) (disk : Disk) (path : String) : IO Disk := do
  let mut disk := disk
  let mut place := disk.start path
  for step in Disk.named path do
    if step == ".." then place := place.dropLast
    else if step != "." then
      place := place ++ [step]
      disk ← loadPlace false disk place
  loadPlace deep disk place

/-- The part of the disk that the arguments name. -/
def loadDisk (a : Arguments) : IO Disk := do
  let here := toString (← IO.currentDir)
  let disk ← loadPath false { here := Disk.named here } here
  let read := [some a.dir, a.config.markdownDir, a.config.codeDir, a.config.overridesFile]
  let disk ← (read.filterMap id).foldlM (loadPath true) disk
  a.output.toList.foldlM (loadPath false) disk

/-- How the program is called. -/
def usage : String :=
  "Usage: annotated-api [OPTIONS]\n\n" ++
  "  -d, --dir <DIR>                 directory to search for Go files\n" ++
  "  -g, --general-info <FILE>       file with the general API info\n" ++
  "      --exclude <PATHS>           comma-separated paths to leave out\n" ++
  "  -o, --output <FILE>             output file; standard output if absent\n" ++
  "  -f, --format <FORMAT>           yaml or json\n" ++
  "  -p, --property-strategy <NAME>  snakecase, camelcase or pascalcase\n" ++
  "      --required-by-default       fields are required unless omitempty or a pointer\n" ++
  "      --parse-internal            also scan internal packages\n" ++
  "      --parse-func-body           also read comments inside function bodies\n" ++
  "      --markdown-files <DIR>      markdown files for descriptions\n" ++
  "      --code-example-files <DIR>  files for code samples\n" ++
  "      --overrides-file <FILE>     JSON file of type overrides\n" ++
  "  -t, --tags <TAGS>               tag filter, such as users,!internal\n" ++
  "      --parse-extension <START>   keep operations with such an extension key\n" ++
  "      --parse-depth <N>           limit of type nesting; 0 for none\n" ++
  "      --collection-format <NAME>  csv, multi, pipes, tsv or ssv\n" ++
  "  -v, --verbose\n  -h, --help\n  -V, --version"

/-- The text for arguments that lead to no run. -/
def usageMessage : UsageError → String
  | .help => usage
  | .version => "annotated-api 0.1.0"
  | .unknownArgument text => "unexpected argument: " ++ text
  | .missingValue _ => "a value is required"
  | .invalidValue _ value => "invalid value: " ++ value
  | .invalidNumber _ value => "not a number: " ++ value
  | .repeatedOption _ => "an option is given more than once"
  | .unexpectedValue _ => "a switch takes no value"

mutual

/-- Makes the directories and writes the files of a tree, where an older one had others. -/
def storeNode (path : String) (old : Option Node) : Node → IO Unit
  | .file none _ => pure ()
  | .file (some text) _ =>
    match old with
    | some (.file (some before) _) => unless before == text do IO.FS.writeFile path text
    | _ => IO.FS.writeFile path text
  | .dir entries _ => do
    match old with
    | some (.dir before _) => storeEntries (path ++ "/") before entries
    | _ =>
      IO.FS.createDirAll path
      storeEntries (path ++ "/") [] entries

/-- Stores the entries of a directory. -/
def storeEntries (dir : String) (before : List (String × Node)) : List (String × Node) → IO Unit
  | [] => pure ()
  | (name, node) :: rest => do
    storeNode (dir ++ name) (Node.child? name before) node
    storeEntries dir before rest

end

/-- Writes the log, prints what was printed and stores what changed on the disk. -/
def deliver (before : Disk) (s : Session) : IO Unit := do
  s.logs.forM fun line => IO.eprintln line.text
  IO.print s.printed
  storeEntries "/" before.root.entries s.disk.root.entries

/-- Checks the arguments against the disk, and runs. -/
def execute (a : Arguments) : IO UInt32 := do
  let disk ← loadDisk a
  let failed := fun (message : String) => do
    IO.eprintln ("Error: " ++ message)
    return 1
  match a.check { disk } with
  | (.error e, s) =>
    deliver disk s
    failed e.message
  | (.ok _, s) =>
    let (done, s) := run a s
    deliver disk s
    match done with
    | .error e => failed e.message
    | .ok _ => return 0

end AnnotatedApi.Main

open AnnotatedApi in
def main (args : List String) : IO UInt32 := do
  match Arguments.read args with
  | .ok a => Main.execute a
  | .error .help =>
    IO.println (Main.usageMessage .help)
    return 0
  | .error .version =>
    IO.println (Main.usageMessage .version)
    return 0
  | .error e =>
    IO.eprintln ("error: " ++ Main.usageMessage e)
    return 2
