import AnnotatedApi.Config
import AnnotatedApi.Text.Integer

/-!
The arguments of the command line.

A setting takes one value: attached (`--dir=x`, `-dx`, `-d=x`) or the next argument, which must not
look like an option. A switch takes none, and switches may share a dash (`-vf json`). There are no
positional arguments. A setting whose value is the next argument waits, and it is settled when the
next known option is met, or at the end; an unknown argument is therefore reported before a fault of
the setting that waits. Only `--exclude` may be given more than once.
-/

namespace AnnotatedApi

open Text

/-- The form of the output. -/
inductive OutputFormat where
  | yaml
  | json
deriving DecidableEq, Repr, Inhabited

namespace OutputFormat

def label : OutputFormat → String
  | .yaml => "Yaml"
  | .json => "Json"

/-- The format with the given name. -/
def named? : String → Option OutputFormat
  | "yaml" => some .yaml
  | "json" => some .json
  | _ => none

end OutputFormat

/-- An option that takes a value. -/
inductive Setting where
  | dir
  | generalInfo
  | exclude
  | output
  | format
  | naming
  | markdownDir
  | codeDir
  | overridesFile
  | tags
  | extensionStart
  | maxDepth
  | collectionFormat
deriving DecidableEq, Repr, Inhabited

/-- An option that takes no value. -/
inductive Switch where
  | requiredByDefault
  | parseInternal
  | parseFuncBody
  | verbose
  | help
  | version
deriving DecidableEq, Repr, Inhabited

/-- An option. -/
inductive CommandOption where
  | setting (s : Setting)
  | switch (s : Switch)
deriving DecidableEq, Repr, Inhabited

namespace CommandOption

/-- The option with the given long name. -/
def long? : String → Option CommandOption
  | "dir" => some (.setting .dir)
  | "general-info" => some (.setting .generalInfo)
  | "exclude" => some (.setting .exclude)
  | "output" => some (.setting .output)
  | "format" => some (.setting .format)
  | "property-strategy" => some (.setting .naming)
  | "markdown-files" => some (.setting .markdownDir)
  | "code-example-files" => some (.setting .codeDir)
  | "overrides-file" => some (.setting .overridesFile)
  | "tags" => some (.setting .tags)
  | "parse-extension" => some (.setting .extensionStart)
  | "parse-depth" => some (.setting .maxDepth)
  | "collection-format" => some (.setting .collectionFormat)
  | "required-by-default" => some (.switch .requiredByDefault)
  | "parse-internal" => some (.switch .parseInternal)
  | "parse-func-body" => some (.switch .parseFuncBody)
  | "verbose" => some (.switch .verbose)
  | "help" => some (.switch .help)
  | "version" => some (.switch .version)
  | _ => none

/-- The option with the given letter. -/
def short? : Char → Option CommandOption
  | 'd' => some (.setting .dir)
  | 'g' => some (.setting .generalInfo)
  | 'o' => some (.setting .output)
  | 'f' => some (.setting .format)
  | 'p' => some (.setting .naming)
  | 't' => some (.setting .tags)
  | 'v' => some (.switch .verbose)
  | 'h' => some (.switch .help)
  | 'V' => some (.switch .version)
  | _ => none

end CommandOption

/-- Why the arguments lead to no run. -/
inductive UsageError where
  | help
  | version
  | unknownArgument (text : String)
  | missingValue (s : Setting)
  | invalidValue (s : Setting) (value : String)
  | invalidNumber (s : Setting) (value : String)
  | repeatedOption (o : CommandOption)
  | unexpectedValue (s : Switch)
deriving DecidableEq, Repr

/-- The arguments as they were given, with the defaults for those that were not. -/
structure Arguments where
  dir : String := "./"
  generalInfo : Option String := none
  exclude : List String := []
  output : Option String := none
  format : OutputFormat := .yaml
  naming : NamingStrategy := .camel
  requiredByDefault : Bool := false
  parseInternal : Bool := false
  parseFuncBody : Bool := false
  markdownDir : Option String := none
  codeDir : Option String := none
  overridesFile : Option String := none
  tags : Option String := none
  extensionStart : Option String := none
  maxDepth : Nat := 100
  collectionFormat : String := "csv"
  verbose : Bool := false
deriving DecidableEq, Repr, Inhabited

namespace Arguments

/-- The options of the run that the arguments ask for. -/
def config (a : Arguments) : Config :=
  let c : Config :=
    { naming := a.naming
      requiredByDefault := a.requiredByDefault
      parseFuncBody := a.parseFuncBody
      parseInternal := a.parseInternal
      markdownDir := a.markdownDir
      codeDir := a.codeDir
      overridesFile := a.overridesFile
      maxDepth := a.maxDepth
      collectionFormat := .ofText a.collectionFormat
      generalInfoFile := a.generalInfo
      exclude := a.exclude }
  let c := match a.tags with
    | some filter => c.withTags filter
    | none => c
  match a.extensionStart with
  | some start => c.withExtensionStart start
  | none => c

/-- A path must not be empty. -/
def readPath (s : Setting) (value : String) : Except UsageError String :=
  if value.isEmpty then .error (.invalidValue s value) else .ok value

/-- A value that must be one of some names. -/
def readNamed {α : Type} (s : Setting) (named? : String → Option α) (value : String) :
    Except UsageError α :=
  match named? value with
  | some a => .ok a
  | none => .error (.invalidValue s value)

/-- Gives a setting its value. -/
def set (a : Arguments) (s : Setting) (value : String) : Except UsageError Arguments :=
  match s with
  | .dir => return { a with dir := ← readPath s value }
  | .generalInfo => return { a with generalInfo := some (← readPath s value) }
  | .exclude => return { a with exclude := a.exclude ++ splitOn ',' value }
  | .output => return { a with output := some (← readPath s value) }
  | .format => return { a with format := ← readNamed s OutputFormat.named? value }
  | .naming => return { a with naming := ← readNamed s NamingStrategy.named? value }
  | .markdownDir => return { a with markdownDir := some (← readPath s value) }
  | .codeDir => return { a with codeDir := some (← readPath s value) }
  | .overridesFile => return { a with overridesFile := some (← readPath s value) }
  | .tags => return { a with tags := some value }
  | .extensionStart => return { a with extensionStart := some value }
  | .maxDepth =>
    match readNat64? value with
    | some n => return { a with maxDepth := n }
    | none => throw (.invalidNumber s value)
  | .collectionFormat => return { a with collectionFormat := value }

/-- Turns a switch on. Asking for help or for the version ends the reading. -/
def turnOn (a : Arguments) : Switch → Except UsageError Arguments
  | .requiredByDefault => .ok { a with requiredByDefault := true }
  | .parseInternal => .ok { a with parseInternal := true }
  | .parseFuncBody => .ok { a with parseFuncBody := true }
  | .verbose => .ok { a with verbose := true }
  | .help => .error .help
  | .version => .error .version

end Arguments

/-- The arguments read so far: those settled, the options they came from, and the setting that
waits, with its value once it was met. -/
structure ArgumentState where
  settled : Arguments := {}
  seen : List CommandOption := []
  waiting : Option (Setting × Option String) := none
deriving Repr, Inhabited

namespace ArgumentState

/-- Notes that an option was met, which may happen only once unless it adds to a list. -/
def note (st : ArgumentState) (o : CommandOption) : Except UsageError ArgumentState :=
  if o ≠ .setting .exclude && st.seen.contains o then .error (.repeatedOption o)
  else .ok { st with seen := o :: st.seen }

/-- Settles a setting with its value. -/
def settle (st : ArgumentState) (s : Setting) (value : String) :
    Except UsageError ArgumentState := do
  let st ← st.note (.setting s)
  return { st with settled := ← st.settled.set s value }

/-- Settles the setting that waits. -/
def settleWaiting (st : ArgumentState) : Except UsageError ArgumentState :=
  match st.waiting with
  | none => .ok st
  | some (s, none) => .error (.missingValue s)
  | some (s, some value) => { st with waiting := none }.settle s value

/-- Takes a switch. -/
def takeSwitch (st : ArgumentState) (s : Switch) : Except UsageError ArgumentState := do
  let st ← (← st.settleWaiting).note (.switch s)
  return { st with settled := ← st.settled.turnOn s }

/-- Takes a setting with an attached value, or lets it wait for one. -/
def takeSetting (st : ArgumentState) (s : Setting) (attached : Option String) :
    Except UsageError ArgumentState := do
  let st ← st.settleWaiting
  match attached with
  | some value => st.settle s value
  | none => return { st with waiting := some (s, none) }

/-- Takes what follows two dashes. -/
def takeLong (st : ArgumentState) (text : String) : Except UsageError ArgumentState :=
  let (name, attached) := match cut '=' text with
    | some (name, value) => (name, some value)
    | none => (text, none)
  match CommandOption.long? name, attached with
  | none, _ => .error (.unknownArgument ("--" ++ name))
  | some (.setting s), _ => st.takeSetting s attached
  | some (.switch s), none => st.takeSwitch s
  | some (.switch s), some _ => .error (.unexpectedValue s)

/-- The value that the letters after that of a setting spell. -/
def attachedValue : List Char → Option String
  | [] => none
  | '=' :: value => some (.ofList value)
  | value => some (.ofList value)

/-- Takes the letters after one dash. -/
def takeShort (st : ArgumentState) : List Char → Except UsageError ArgumentState
  | [] => .ok st
  | c :: rest =>
    match CommandOption.short? c with
    | none => .error (.unknownArgument (.ofList ['-', c]))
    | some (.setting s) => st.takeSetting s (attachedValue rest)
    | some (.switch s) => do takeShort (← st.takeSwitch s) rest

/-- Takes an argument that is no option. -/
def takeValue (st : ArgumentState) (text : String) : Except UsageError ArgumentState :=
  match st.waiting with
  | some (s, none) => .ok { st with waiting := some (s, some text) }
  | _ => .error (.unknownArgument text)

/-- Takes one argument. -/
def take (st : ArgumentState) (text : String) : Except UsageError ArgumentState :=
  match text.toList with
  | '-' :: '-' :: long => st.takeLong (.ofList long)
  | '-' :: c :: letters => st.takeShort (c :: letters)
  | _ => st.takeValue text

/-- Takes all arguments. After two dashes alone only positional arguments could follow. -/
def takeAll (st : ArgumentState) : List String → Except UsageError ArgumentState
  | [] => .ok st
  | "--" :: [] => .ok st
  | "--" :: text :: _ => .error (.unknownArgument text)
  | text :: rest => do takeAll (← st.take text) rest

end ArgumentState

/-- Reads the arguments of the command line, without the name of the program. -/
def Arguments.read (args : List String) : Except UsageError Arguments := do
  return (← (← ({} : ArgumentState).takeAll args).settleWaiting).settled

end AnnotatedApi
