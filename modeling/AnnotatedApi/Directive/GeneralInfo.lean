import AnnotatedApi.Directive.Operation

/-!
Directives of the document as a whole.

`InfoLine.parse?` recognises a line and `InfoLine.apply` gives its effect on a document. The lines that
describe a tag or a server belong to the one named last: a tag of an earlier run of lines is not
touched, which `InfoState.hasTag` keeps track of.
-/

namespace AnnotatedApi

open Text Directive

/-- A recognised line. -/
inductive InfoLine where
  | title (text : String)
  | version (text : String)
  | description (text : String)
  | summary (text : String)
  | termsOfService (text : String)
  | contactName (text : String)
  | contactUrl (text : String)
  | contactEmail (text : String)
  | licenseName (text : String)
  | licenseUrl (text : String)
  | licenseIdentifier (text : String)
  | host (token : String)
  | basePath (token : String)
  | schemes (text : String)
  | serverDescription (text : String)
  | server (url : String) (remark : Option String)
  | tagName (text : String)
  | tagDescription (text : String)
  | tagDocsUrl (token : String)
  | tagDocsDescription (text : String)
  | externalDocsUrl (token : String)
  | externalDocsDescription (text : String)
  | basicAuth (scheme : String) (remark : Option String)
  | apiKey (scheme name location : String) (remark : Option String)
deriving DecidableEq, Repr, Inhabited

namespace InfoLine

/-- The name of the directive. -/
def name : InfoLine → String
  | .title _ => "title"
  | .version _ => "version"
  | .description _ => "description"
  | .summary _ => "summary"
  | .termsOfService _ => "termsOfService"
  | .contactName _ => "contact.name"
  | .contactUrl _ => "contact.url"
  | .contactEmail _ => "contact.email"
  | .licenseName _ => "license.name"
  | .licenseUrl _ => "license.url"
  | .licenseIdentifier _ => "license.identifier"
  | .host _ => "host"
  | .basePath _ => "basePath"
  | .schemes _ => "schemes"
  | .serverDescription _ => "server.description"
  | .server _ _ => "server"
  | .tagName _ => "tag.name"
  | .tagDescription _ => "tag.description"
  | .tagDocsUrl _ => "tag.docs.url"
  | .tagDocsDescription _ => "tag.docs.description"
  | .externalDocsUrl _ => "externalDocs.url"
  | .externalDocsDescription _ => "externalDocs.description"
  | .basicAuth _ _ => "securityDefinitions.basic"
  | .apiKey _ _ _ _ => "securityDefinitions.apikey"

end InfoLine

/-! ### Recognition -/

namespace Directive

/-- A token that takes up the rest of the line. -/
def wholeToken? (rest : List Char) : Option String :=
  (tokenArgument? rest).map .ofList

/-- A remark that is absent when empty. -/
def remarkText? (rest : List Char) : Option (Option String) :=
  (remark? rest).map fun cs => nonEmpty? (.ofList (trimChars cs))

/-- A token and an optional remark. -/
def tokenAndRemark? (rest : List Char) : Option (String × Option String) := do
  let (token, rest) ← (afterBlanks? rest).bind token?
  let remark ← remarkText? rest
  return (.ofList token, remark)

/-- The name of a scheme, of its parameter and its location, and an optional remark. -/
def apiKeyArguments? (rest : List Char) : Option InfoLine := do
  let (scheme, rest) ← (afterBlanks? rest).bind token?
  let (name, rest) ← (afterBlanks? rest).bind token?
  let (location, rest) ← (afterBlanks? rest).bind (run? isWordChar)
  let remark ← remarkText? rest
  return .apiKey (.ofList scheme) (.ofList name) (.ofList location) remark

end Directive

/-- Recognises a line, blanks around it ignored. -/
def InfoLine.parse? (line : String) : Option InfoLine :=
  let (keyword, rest) := splitLine (trim line)
  match keyword with
  | "@title" => (text? rest).map .title
  | "@version" => (text? rest).map .version
  | "@description" => (text? rest).map .description
  | "@summary" => (text? rest).map .summary
  | "@termsOfService" => (text? rest).map .termsOfService
  | "@contact.name" => (text? rest).map .contactName
  | "@contact.url" => (text? rest).map .contactUrl
  | "@contact.email" => (text? rest).map .contactEmail
  | "@license.name" => (text? rest).map .licenseName
  | "@license.url" => (text? rest).map .licenseUrl
  | "@license.identifier" => (text? rest).map .licenseIdentifier
  | "@host" => (wholeToken? rest).map .host
  | "@basePath" => (wholeToken? rest).map .basePath
  | "@schemes" => (text? rest).map .schemes
  | "@server.description" => (text? rest).map .serverDescription
  | "@server" => (tokenAndRemark? rest).map fun (url, remark) => .server url remark
  | "@tag.name" => (text? rest).map .tagName
  | "@tag.description" => (text? rest).map .tagDescription
  | "@tag.docs.url" => (wholeToken? rest).map .tagDocsUrl
  | "@tag.docs.description" => (text? rest).map .tagDocsDescription
  | "@externalDocs.url" => (wholeToken? rest).map .externalDocsUrl
  | "@externalDocs.description" => (text? rest).map .externalDocsDescription
  | "@securityDefinitions.basic" =>
    (tokenAndRemark? rest).map fun (scheme, remark) => .basicAuth scheme remark
  | "@securityDefinitions.apikey" => apiKeyArguments? rest
  | _ => none

/-! ### Effects -/

/-- Changes the first element. -/
def modifyFirst {α : Type} (f : α → α) : List α → List α
  | [] => []
  | a :: rest => f a :: rest

/-- Changes the last element. -/
def modifyLast {α : Type} (f : α → α) : List α → List α
  | [] => []
  | [a] => [f a]
  | a :: rest => a :: modifyLast f rest

/-- A document, and whether the lines so far have named a tag. -/
structure InfoState where
  document : Document
  hasTag : Bool := false
deriving Inhabited

/-- The url with a base path behind it; of two slashes one is dropped. -/
def appendBasePath (base url : String) : String :=
  match dropStart? "/" base with
  | some rest => if endsWith "/" url then url ++ rest else url ++ base
  | none => url ++ base

/-- The url with its `https` or `http` scheme replaced. Other urls stay. -/
def replaceScheme (scheme url : String) : String :=
  match (dropStart? "https://" url).or (dropStart? "http://" url) with
  | some rest => scheme ++ "://" ++ rest
  | none => url

/-- The first of the schemes that commas or blanks separate. -/
def firstScheme? (list : String) : Option String :=
  ((splitWhere (fun c => c == ',' || isBlank c) list.toList).find? (!·.isEmpty)).map .ofList

namespace InfoState

/-- Changes the general information. -/
def updateInfo (st : InfoState) (f : Info → Info) : InfoState :=
  { st with document := { st.document with info := f st.document.info } }

/-- Changes the contact, which is added if need be. -/
def updateContact (st : InfoState) (f : Contact → Contact) : InfoState :=
  st.updateInfo fun i => { i with contact := some (f (i.contact.getD {})) }

/-- Changes the license, which is added if need be. -/
def updateLicense (st : InfoState) (f : License → License) : InfoState :=
  st.updateInfo fun i => { i with license := some (f (i.license.getD {})) }

/-- Changes the list of servers. -/
def updateServers (st : InfoState) (f : List Server → List Server) : InfoState :=
  { st with document := { st.document with servers := f st.document.servers } }

/-- Changes the tag named last, if these lines have named one. -/
def updateTag (st : InfoState) (f : Tag → Tag) : InfoState :=
  if st.hasTag then
    { st with document := { st.document with tags := modifyLast f st.document.tags } }
  else st

/-- Changes the external documentation of the tag named last. -/
def updateTagDocs (st : InfoState) (f : ExternalDocs → ExternalDocs) : InfoState :=
  st.updateTag fun t => { t with externalDocs := some (f (t.externalDocs.getD {})) }

/-- Changes the external documentation. -/
def updateDocs (st : InfoState) (f : ExternalDocs → ExternalDocs) : InfoState :=
  let docs := f (st.document.externalDocs.getD {})
  { st with document := { st.document with externalDocs := some docs } }

/-- Adds or replaces a security scheme. -/
def setScheme (st : InfoState) (name : String) (scheme : SecurityScheme) : InfoState :=
  let components := st.document.components
  let securitySchemes := Assoc.insert components.securitySchemes name scheme
  { st with document := { st.document with components := { components with securitySchemes } } }

end InfoState

/-- The effect of a line. -/
def InfoLine.apply (line : InfoLine) (st : InfoState) : InfoState :=
  match line with
  | .title text => st.updateInfo fun i => { i with title := text }
  | .version text => st.updateInfo fun i => { i with version := text }
  | .description text =>
    st.updateInfo fun i => { i with description := appendLine "\n" text i.description }
  | .summary text => st.updateInfo fun i => { i with summary := some text }
  | .termsOfService text => st.updateInfo fun i => { i with termsOfService := some text }
  | .contactName text => st.updateContact fun c => { c with name := some text }
  | .contactUrl text => st.updateContact fun c => { c with url := some text }
  | .contactEmail text => st.updateContact fun c => { c with email := some text }
  | .licenseName text => st.updateLicense fun l => { l with name := text }
  | .licenseUrl text => st.updateLicense fun l => { l with url := some text }
  | .licenseIdentifier text => st.updateLicense fun l => { l with identifier := some text }
  | .host token =>
    let url := "https://" ++ token
    st.updateServers fun servers =>
      if servers.isEmpty then [{ url }] else modifyFirst (fun s => { s with url }) servers
  | .basePath token =>
    st.updateServers (modifyFirst fun s => { s with url := appendBasePath token s.url })
  | .schemes text =>
    match firstScheme? text with
    | some scheme =>
      st.updateServers (modifyFirst fun s => { s with url := replaceScheme scheme s.url })
    | none => st
  | .serverDescription text =>
    st.updateServers (modifyLast fun s => { s with description := some text })
  | .server url remark => st.updateServers (· ++ [{ url, description := remark }])
  | .tagName text =>
    { document := { st.document with tags := st.document.tags ++ [{ name := text }] }
      hasTag := true }
  | .tagDescription text => st.updateTag fun t => { t with description := some text }
  | .tagDocsUrl token => st.updateTagDocs fun d => { d with url := token }
  | .tagDocsDescription text => st.updateTagDocs fun d => { d with description := some text }
  | .externalDocsUrl token => st.updateDocs fun d => { d with url := token }
  | .externalDocsDescription text => st.updateDocs fun d => { d with description := some text }
  | .basicAuth scheme remark =>
    st.setScheme scheme { type := "http", scheme := some "basic", description := remark }
  | .apiKey scheme name location remark =>
    st.setScheme scheme
      { type := "apiKey", name := some name, location := some location, description := remark }

/-- The effect of one line of a comment. -/
def InfoState.applyLine (st : InfoState) (line : String) : InfoState :=
  match InfoLine.parse? line with
  | some l => l.apply st
  | none => st

/-- The document after the directives of some comments. -/
def Document.applyInfo (d : Document) (groups : List CommentGroup) : Document :=
  ((groups.flatMap CommentGroup.directives).foldl InfoState.applyLine { document := d }).document

end AnnotatedApi
