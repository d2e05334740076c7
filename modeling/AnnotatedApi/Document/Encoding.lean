import AnnotatedApi.Document.Basic
import AnnotatedApi.Schema.Encoding
import AnnotatedApi.Json.Writer
import AnnotatedApi.Yaml.Writer

/-!
Documents as JSON trees.

Every record is written with its fields in a fixed order. When a record is read, a field without a
default has to be present; of the names it does not know, an operation keeps its extensions and
every other record drops them.
-/

namespace AnnotatedApi

open Json

/-! ### Writing -/

/-- A list of texts as a tree. -/
def Json.ofTexts (texts : List String) : Json := .arr (texts.map .str)

def ExternalDocs.toJson (d : ExternalDocs) : Json :=
  .obj (("url", .str d.url) :: optional "description" .str d.description)

def Contact.toJson (c : Contact) : Json :=
  .obj (optional "name" .str c.name ++ optional "url" .str c.url ++ optional "email" .str c.email)

def License.toJson (l : License) : Json :=
  .obj (("name", .str l.name) :: (optional "url" .str l.url ++
    optional "identifier" .str l.identifier))

def Info.toJson (i : Info) : Json :=
  .obj (("title", .str i.title) :: ("version", .str i.version) ::
    (optional "description" .str i.description ++ optional "summary" .str i.summary ++
      optional "termsOfService" .str i.termsOfService ++
      optional "contact" Contact.toJson i.contact ++ optional "license" License.toJson i.license))

def Server.toJson (s : Server) : Json :=
  .obj (("url", .str s.url) :: optional "description" .str s.description)

def Tag.toJson (t : Tag) : Json :=
  .obj (("name", .str t.name) :: (optional "description" .str t.description ++
    optional "externalDocs" ExternalDocs.toJson t.externalDocs))

def SecurityScheme.toJson (s : SecurityScheme) : Json :=
  .obj (("type", .str s.type) :: (optional "description" .str s.description ++
    optional "name" .str s.name ++ optional "in" .str s.location ++
    optional "scheme" .str s.scheme ++ optional "bearerFormat" .str s.bearerFormat))

def Parameter.toJson (p : Parameter) : Json :=
  .obj (("name", .str p.name) :: ("in", .str p.location) ::
    (optional "description" .str p.description ++ ("required", .bool p.required) ::
      (flag "deprecated" p.deprecated ++ flag "allowEmptyValue" p.allowEmptyValue ++
        optional "style" .str p.style ++ optional "explode" .bool p.explode ++
        optional "schema" Schema.toJson p.schema ++ optional "example" id p.exampleValue)))

def MediaType.toJson (m : MediaType) : Json :=
  .obj (optional "schema" Schema.toJson m.schema ++ optional "example" id m.exampleValue)

def RequestBody.toJson (b : RequestBody) : Json :=
  .obj (optional "description" .str b.description ++
    [("required", .bool b.required), ("content", ofAssoc MediaType.toJson b.content)])

def Header.toJson (h : Header) : Json :=
  .obj (optional "description" .str h.description ++ optional "schema" Schema.toJson h.schema)

def Response.toJson (r : Response) : Json :=
  .obj (("description", .str r.description) :: (mapping "headers" Header.toJson r.headers ++
    mapping "content" MediaType.toJson r.content))

def Operation.toJson (op : Operation) : Json :=
  .obj (listed "tags" .str op.tags ++ optional "summary" .str op.summary ++
    optional "description" .str op.description ++ optional "operationId" .str op.operationId ++
    listed "parameters" Parameter.toJson op.parameters ++
    optional "requestBody" RequestBody.toJson op.requestBody ++
    [("responses", ofAssoc Response.toJson op.responses)] ++
    listed "security" (ofAssoc Json.ofTexts) op.security ++
    flag "deprecated" op.deprecated ++ op.extensions)

def PathItem.toJson (item : PathItem) : Json :=
  .obj (HttpMethod.all.flatMap fun m => optional m.key Operation.toJson (item.slot m))

def Components.toJson (c : Components) : Json :=
  .obj (mapping "schemas" Schema.toJson c.schemas ++
    mapping "securitySchemes" SecurityScheme.toJson c.securitySchemes)

/-- Whether there is no component at all. -/
def Components.isEmpty (c : Components) : Bool :=
  c.schemas.isEmpty && c.securitySchemes.isEmpty

def Document.toJson (d : Document) : Json :=
  .obj (("openapi", .str d.openapi) ::
    (optional "jsonSchemaDialect" .str d.jsonSchemaDialect ++
      [("info", d.info.toJson)] ++ listed "servers" Server.toJson d.servers ++
      [("paths", ofAssoc PathItem.toJson d.paths)] ++
      (if d.components.isEmpty then [] else [("components", d.components.toJson)]) ++
      listed "tags" Tag.toJson d.tags ++
      optional "externalDocs" ExternalDocs.toJson d.externalDocs))

/-- The document as a JSON text. -/
def Document.jsonText (d : Document) : String := d.toJson.pretty

/-- The document as a YAML text. -/
def Document.yamlText (d : Document) : String := Yaml.write d.toJson

/-! ### Reading -/

def ExternalDocs.ofJson? (j : Json) : Option ExternalDocs := do
  let src ← source? 2 j
  let url ← src.required 0 "url" asText?
  let description ← src.optional 1 "description" asText?
  return { url, description }

def Contact.ofJson? (j : Json) : Option Contact := do
  let src ← source? 3 j
  let name ← src.optional 0 "name" asText?
  let url ← src.optional 1 "url" asText?
  let email ← src.optional 2 "email" asText?
  return { name, url, email }

def License.ofJson? (j : Json) : Option License := do
  let src ← source? 3 j
  let name ← src.required 0 "name" asText?
  let url ← src.optional 1 "url" asText?
  let identifier ← src.optional 2 "identifier" asText?
  return { name, url, identifier }

def Info.ofJson? (j : Json) : Option Info := do
  let src ← source? 7 j
  let title ← src.required 0 "title" asText?
  let version ← src.required 1 "version" asText?
  let description ← src.optional 2 "description" asText?
  let summary ← src.optional 3 "summary" asText?
  let termsOfService ← src.optional 4 "termsOfService" asText?
  let contact ← src.optional 5 "contact" Contact.ofJson?
  let license ← src.optional 6 "license" License.ofJson?
  return { title, version, description, summary, termsOfService, contact, license }

def Server.ofJson? (j : Json) : Option Server := do
  let src ← source? 2 j
  let url ← src.required 0 "url" asText?
  let description ← src.optional 1 "description" asText?
  return { url, description }

def Tag.ofJson? (j : Json) : Option Tag := do
  let src ← source? 3 j
  let name ← src.required 0 "name" asText?
  let description ← src.optional 1 "description" asText?
  let externalDocs ← src.optional 2 "externalDocs" ExternalDocs.ofJson?
  return { name, description, externalDocs }

def SecurityScheme.ofJson? (j : Json) : Option SecurityScheme := do
  let src ← source? 6 j
  let type ← src.required 0 "type" asText?
  let description ← src.optional 1 "description" asText?
  let name ← src.optional 2 "name" asText?
  let location ← src.optional 3 "in" asText?
  let scheme ← src.optional 4 "scheme" asText?
  let bearerFormat ← src.optional 5 "bearerFormat" asText?
  return { type, description, name, location, scheme, bearerFormat }

def Parameter.ofJson? (j : Json) : Option Parameter := do
  let src ← source? 10 j
  let name ← src.required 0 "name" asText?
  let location ← src.required 1 "in" asText?
  let description ← src.optional 2 "description" asText?
  let required ← src.required 3 "required" asBool?
  let deprecated ← src.defaulted 4 "deprecated" false asBool?
  let allowEmptyValue ← src.defaulted 5 "allowEmptyValue" false asBool?
  let style ← src.optional 6 "style" asText?
  let explode ← src.optional 7 "explode" asBool?
  let schema ← src.optional 8 "schema" Schema.ofJson?
  let exampleValue ← src.optional 9 "example" readAny
  return { name, location, description, required, deprecated, allowEmptyValue, style, explode,
           schema, exampleValue }

def MediaType.ofJson? (j : Json) : Option MediaType := do
  let src ← source? 2 j
  let schema ← src.optional 0 "schema" Schema.ofJson?
  let exampleValue ← src.optional 1 "example" readAny
  return { schema, exampleValue }

def RequestBody.ofJson? (j : Json) : Option RequestBody := do
  let src ← source? 3 j
  let description ← src.optional 0 "description" asText?
  let required ← src.required 1 "required" asBool?
  let content ← src.required 2 "content" (readAssoc MediaType.ofJson?)
  return { description, required, content }

def Header.ofJson? (j : Json) : Option Header := do
  let src ← source? 2 j
  let description ← src.optional 0 "description" asText?
  let schema ← src.optional 1 "schema" Schema.ofJson?
  return { description, schema }

def Response.ofJson? (j : Json) : Option Response := do
  let src ← source? 3 j
  let description ← src.required 0 "description" asText?
  let headers ← src.defaulted 1 "headers" [] (readAssoc Header.ofJson?)
  let content ← src.defaulted 2 "content" [] (readAssoc MediaType.ofJson?)
  return { description, headers, content }

/-- The names of an operation's own fields. -/
def Operation.fieldNames : List String :=
  ["tags", "summary", "description", "operationId", "parameters", "requestBody", "responses",
    "security", "deprecated"]

/-- Reads an operation; names that are not its own are extensions. -/
def Operation.ofJson? : Json → Option Operation
  | .obj fields => do
    let src := Source.named fields
    let tags ← src.defaulted 0 "tags" [] (readList asText?)
    let summary ← src.optional 1 "summary" asText?
    let description ← src.optional 2 "description" asText?
    let operationId ← src.optional 3 "operationId" asText?
    let parameters ← src.defaulted 4 "parameters" [] (readList Parameter.ofJson?)
    let requestBody ← src.optional 5 "requestBody" RequestBody.ofJson?
    let responses ← src.defaulted 6 "responses" [] (readAssoc Response.ofJson?)
    let security ← src.defaulted 7 "security" [] (readList (readAssoc (readList asText?)))
    let deprecated ← src.defaulted 8 "deprecated" false asBool?
    return { tags, summary, description, operationId, parameters, requestBody, responses, security,
             deprecated
             extensions := fields.filter fun (key, _) => !Operation.fieldNames.contains key }
  | _ => none

def PathItem.ofJson? (j : Json) : Option PathItem := do
  let src ← source? 8 j
  let get ← src.optional 0 "get" Operation.ofJson?
  let put ← src.optional 1 "put" Operation.ofJson?
  let post ← src.optional 2 "post" Operation.ofJson?
  let delete ← src.optional 3 "delete" Operation.ofJson?
  let options ← src.optional 4 "options" Operation.ofJson?
  let head ← src.optional 5 "head" Operation.ofJson?
  let patch ← src.optional 6 "patch" Operation.ofJson?
  let trace ← src.optional 7 "trace" Operation.ofJson?
  return { get, put, post, delete, options, head, patch, trace }

def Components.ofJson? (j : Json) : Option Components := do
  let src ← source? 2 j
  let schemas ← src.defaulted 0 "schemas" [] (readAssoc Schema.ofJson?)
  let securitySchemes ← src.defaulted 1 "securitySchemes" [] (readAssoc SecurityScheme.ofJson?)
  return { schemas, securitySchemes }

def Document.ofJson? (j : Json) : Option Document := do
  let src ← source? 8 j
  let openapi ← src.required 0 "openapi" asText?
  let jsonSchemaDialect ← src.optional 1 "jsonSchemaDialect" asText?
  let info ← src.required 2 "info" Info.ofJson?
  let servers ← src.defaulted 3 "servers" [] (readList Server.ofJson?)
  let paths ← src.defaulted 4 "paths" [] (readAssoc PathItem.ofJson?)
  let components ← src.defaulted 5 "components" {} Components.ofJson?
  let tags ← src.defaulted 6 "tags" [] (readList Tag.ofJson?)
  let externalDocs ← src.optional 7 "externalDocs" ExternalDocs.ofJson?
  return { openapi, jsonSchemaDialect, info, servers, paths, components, tags, externalDocs }

end AnnotatedApi
