import AnnotatedApi.Directive.Attribute
import AnnotatedApi.Directive.Parameter
import AnnotatedApi.Directive.Route
import AnnotatedApi.Resolution
import AnnotatedApi.Content

/-!
Directives of operations.

`OperationLine.parse?` recognises a line and `OperationLine.apply` gives its effect on an operation.
A line is recognised by its keyword and the form of its arguments; all other lines have no effect.
The route is not part of the operation, so a `@Router` line changes nothing.
-/

namespace AnnotatedApi

open Text Directive

/-- The media type that bodies and responses have at first. -/
def defaultMedia : String := "application/json"

/-- The keywords that declare a response. -/
inductive ResponseKeyword where
  | success
  | failure
  | response
deriving DecidableEq, Repr, Inhabited

/-- `@Param name location type required "description" attributes`. -/
structure ParamLine where
  name : String
  location : String
  type : String
  required : Bool
  description : String
  attributes : List (String × String)
deriving DecidableEq, Repr, Inhabited

/-- `@Success status \x7bkind\x7d type "description"`. -/
structure ResponseLine where
  status : String
  kind : String
  type : String
  description : String
deriving DecidableEq, Repr, Inhabited

/-- `@Header status \x7btype\x7d name "description"`. -/
structure HeaderLine where
  status : String
  type : String
  name : String
  description : String
deriving DecidableEq, Repr, Inhabited

/-- A recognised line. -/
inductive OperationLine where
  | summary (text : String)
  | description (text : String)
  | id (text : String)
  | tags (names : List String)
  | accept (types : List String)
  | produce (types : List String)
  | param (line : ParamLine)
  | response (keyword : ResponseKeyword) (line : ResponseLine)
  | header (line : HeaderLine)
  | security (scheme : String) (scopes : List String)
  | deprecated
  | state (text : String)
  | codeSamples (text : String)
  | router (path method : String)
deriving DecidableEq, Repr, Inhabited

namespace OperationLine

/-- The name of the directive. -/
def name : OperationLine → String
  | .summary _ => "Summary"
  | .description _ => "Description"
  | .id _ => "ID"
  | .tags _ => "Tags"
  | .accept _ => "Accept"
  | .produce _ => "Produce"
  | .param _ => "Param"
  | .response .success _ => "Success"
  | .response .failure _ => "Failure"
  | .response .response _ => "Response"
  | .header _ => "Header"
  | .security _ _ => "Security"
  | .deprecated => "Deprecated"
  | .state _ => "State"
  | .codeSamples _ => "x-codeSamples"
  | .router _ _ => "Router"

end OperationLine

/-! ### Recognition -/

namespace Directive

/-- The text behind a keyword, trimmed. -/
def text? (rest : List Char) : Option String :=
  (textArgument? rest).map fun cs => .ofList (trimChars cs)

/-- A required flag, and what follows it. -/
def truthAt? (cs : List Char) : Option (Bool × List Char) :=
  match afterStart? "true".toList cs with
  | some rest => some (true, rest)
  | none => (afterStart? "false".toList cs).map (false, ·)

/-- The attributes behind a description: on the same line, after a blank. -/
def trailingAttributes (rest : List Char) : List (String × String) :=
  match afterBlanks? rest with
  | some cs => attributes (.ofList (cs.takeWhile (· != '\n')))
  | none => []

def paramLine? (rest : List Char) : Option ParamLine := do
  let (name, rest) ← (afterBlanks? rest).bind token?
  let (location, rest) ← (afterBlanks? rest).bind (run? isWordChar)
  let (type, rest) ← (afterBlanks? rest).bind token?
  let (required, rest) ← (afterBlanks? rest).bind truthAt?
  let (description, rest) ← (afterBlanks? rest).bind quoted?
  return { name := .ofList name, location := .ofList location, type := .ofList type, required
           description := .ofList description, attributes := trailingAttributes rest }

/-- A status and a word in braces, and what follows them. -/
def statusAndWord? (rest : List Char) : Option (String × String × List Char) := do
  let (status, rest) ← (afterBlanks? rest).bind (run? isDecimalDigit)
  let (word, rest) ← (afterBlanks? rest).bind (bracketed? '\x7b' '\x7d')
  return (.ofList status, .ofList word, rest)

def responseLine? (rest : List Char) : Option ResponseLine := do
  let (status, kind, rest) ← statusAndWord? rest
  let (type, rest) ← (afterBlanks? rest).bind token?
  let description := match (afterBlanks? rest).bind quoted? with
    | some (text, _) => if text.isEmpty then "Success" else .ofList text
    | none => "Success"
  return { status, kind, type := .ofList type, description }

def headerLine? (rest : List Char) : Option HeaderLine := do
  let (status, type, rest) ← statusAndWord? rest
  let (name, rest) ← (afterBlanks? rest).bind token?
  let (description, _) ← (afterBlanks? rest).bind quoted?
  return { status, type, name := .ofList name, description := .ofList description }

/-- A scheme name, and the scopes in brackets right behind it. -/
def securityArguments? (rest : List Char) : Option (String × List String) := do
  let (scheme, rest) ← (afterBlanks? rest).bind (run? fun c => c != '[' && !isBlank c)
  let scopes := match rest with
    | '[' :: rest =>
      match cutChars ']' rest with
      | some (list, _) => if list.isEmpty then [] else commaItems (.ofList list)
      | none => []
    | _ => []
  return (.ofList scheme, scopes)

end Directive

/-- Recognises a line. -/
def OperationLine.parse? (line : String) : Option OperationLine :=
  let (keyword, rest) := splitLine line
  match keyword with
  | "@Summary" => (text? rest).map .summary
  | "@Description" => (text? rest).map .description
  | "@ID" => (text? rest).map .id
  | "@Tags" => (text? rest).map fun list => .tags (commaItems list)
  | "@Accept" => (text? rest).map fun list => .accept (mediaTypes list)
  | "@Produce" => (text? rest).map fun list => .produce (mediaTypes list)
  | "@Param" => (paramLine? rest).map .param
  | "@Success" => (responseLine? rest).map (.response .success)
  | "@Failure" => (responseLine? rest).map (.response .failure)
  | "@Response" => (responseLine? rest).map (.response .response)
  | "@Header" => (headerLine? rest).map .header
  | "@Security" => (securityArguments? rest).map fun (scheme, scopes) => .security scheme scopes
  | "@Deprecated" => if rest.all isBlank then some .deprecated else none
  | "@State" => (text? rest).map .state
  | "@x-codeSamples" => (textArgument? rest).map fun cs => .codeSamples (.ofList cs)
  | "@Router" => (routerArguments? rest).map fun (path, method) => .router path method
  | _ => none

/-! ### Effects -/

/-- What the effects of lines depend on besides the operation. -/
structure OperationContext where
  resolver : Resolver := {}
  content : ContentStore := {}
  collectionFormat : CollectionFormat := .csv
deriving Inhabited

/-- A text that is absent when empty. -/
def nonEmpty? (s : String) : Option String :=
  if s.isEmpty then none else some s

/-- Gives content the listed media types, all with the schema of its first entry. Without content or
without types nothing changes. -/
def retype (types : List String) (content : Assoc MediaType) : Assoc MediaType :=
  match content with
  | [] => []
  | (_, first) :: _ =>
    if types.isEmpty then content
    else Assoc.ofEntries (types.map fun t => (t, { schema := first.schema }))

/-- The name of the text that a description refers to. -/
def fileReference? (text : String) : Option String :=
  (dropStart? "file(" text).bind (dropEnd? ")")

namespace Operation

/-- A description line. A reference to a markdown text stands for that text, if it is at hand. -/
def addDescription (content : ContentStore) (text : String) (op : Operation) : Operation :=
  let text := ((fileReference? text).bind content.markdown?).getD text
  { op with description := appendLine "\n" text op.description }

/-- Declares the body; description and requirement are those of its first declaration. -/
def addBody (r : Resolver) (line : ParamLine) (op : Operation) : Operation :=
  let body := op.requestBody.getD
    { description := nonEmpty? line.description, required := line.required }
  let media : MediaType := { schema := some (r.resolveText line.type) }
  let content := Assoc.insert body.content defaultMedia media
  { op with requestBody := some { body with content } }

/-- The parameter that a line declares. -/
def parameterOf (ctx : OperationContext) (line : ParamLine) : Parameter :=
  let p : Parameter :=
    { name := line.name, location := line.location, description := nonEmpty? line.description
      required := line.required, schema := some (ctx.resolver.resolveText line.type) }
  (p.applyAttributes line.attributes).applyFormat
    ((Parameter.collectionFormat? line.attributes).getD ctx.collectionFormat)

def addParam (ctx : OperationContext) (line : ParamLine) (op : Operation) : Operation :=
  if line.location == "body" then op.addBody ctx.resolver line
  else { op with parameters := op.parameters ++ [parameterOf ctx line] }

/-- The response that a line declares. Only objects and arrays have content. -/
def responseOf (r : Resolver) (line : ResponseLine) : Response :=
  let content := fun (s : Schema) => [(defaultMedia, ({ schema := some s } : MediaType))]
  match line.kind with
  | "object" =>
    { description := line.description, content := content (r.resolveText line.type) }
  | "array" =>
    { description := line.description, content := content (.array (r.resolveText line.type)) }
  | _ => { description := line.description }

/-- Adds a header to the response of a status, which is declared by it if need be. -/
def addHeader (r : Resolver) (line : HeaderLine) (op : Operation) : Operation :=
  let header : Header :=
    { description := nonEmpty? line.description, schema := some (r.resolveText line.type) }
  let blank : Response := { description := "Response " ++ line.status }
  let responses := Assoc.alter op.responses line.status blank fun response =>
    { response with headers := Assoc.insert response.headers line.name header }
  { op with responses }

/-- The extension that holds the code samples. -/
def codeSamplesKey : String := "x-codeSamples"

/-- A code sample of an operation. -/
def codeSample (language source : String) : Json :=
  .obj [("lang", .str language), ("source", .str source)]

/-- Adds the code sample `language:file`, if the file is at hand and not empty. Without a language the
file tells it. -/
def addCodeSample (content : ContentStore) (text : String) (op : Operation) : Operation :=
  match cut ':' text with
  | none => op
  | some (language, file) =>
    let file := trim file
    match (content.codeExample? file).bind nonEmpty? with
    | none => op
    | some source =>
      let language := (nonEmpty? (trim language)).getD (languageOf file)
      let samples := match Assoc.get? op.extensions codeSamplesKey with
        | some (.arr items) => Json.arr (items ++ [codeSample language source])
        | some other => other
        | none => .arr [codeSample language source]
      { op with extensions := Assoc.insert op.extensions codeSamplesKey samples }

end Operation

/-- The effect of a line. -/
def OperationLine.apply (ctx : OperationContext) (line : OperationLine) (op : Operation) :
    Operation :=
  match line with
  | .summary text => { op with summary := some text }
  | .description text => op.addDescription ctx.content text
  | .id text => { op with operationId := some text }
  | .tags names => { op with tags := names }
  | .accept types =>
    { op with requestBody := op.requestBody.map fun b => { b with content := retype types b.content } }
  | .produce types =>
    let retyped := fun (r : Response) => { r with content := retype types r.content }
    { op with responses := Assoc.mapValues retyped op.responses }
  | .param line => op.addParam ctx line
  | .response _ line =>
    let response := Operation.responseOf ctx.resolver line
    { op with responses := Assoc.insert op.responses line.status response }
  | .header line => op.addHeader ctx.resolver line
  | .security scheme scopes => { op with security := op.security ++ [[(scheme, scopes)]] }
  | .deprecated => { op with deprecated := true }
  | .state text => { op with extensions := Assoc.insert op.extensions "x-state" (.str text) }
  | .codeSamples text => op.addCodeSample ctx.content text
  | .router _ _ => op

namespace Operation

/-- The effect of one line of a comment. -/
def applyLine (ctx : OperationContext) (op : Operation) (line : String) : Operation :=
  match OperationLine.parse? line with
  | some l => l.apply ctx op
  | none => op

/-- The effect of the directives of a comment. -/
def applyComment (ctx : OperationContext) (op : Operation) (doc : CommentGroup) : Operation :=
  doc.directives.foldl (applyLine ctx) op

/-- The operation that a comment describes, if it has a directive. -/
def ofComment? (ctx : OperationContext) (doc : CommentGroup) : Option Operation :=
  if doc.directives.isEmpty then none else some (applyComment ctx {} doc)

end Operation

end AnnotatedApi
