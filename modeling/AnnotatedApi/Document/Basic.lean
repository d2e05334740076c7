import AnnotatedApi.Schema.Basic

/-!
Documents.

A document describes an interface: general information, servers, the operations of each path, and
the component schemas that they refer to. The maps of a document keep the order in which their keys
were first set.
-/

namespace AnnotatedApi

/-- The methods an operation can be attached to. -/
inductive HttpMethod where
  | get
  | put
  | post
  | delete
  | options
  | head
  | patch
  | trace
deriving DecidableEq, Repr, Inhabited

namespace HttpMethod

/-- The methods in the order of their slots. -/
def all : List HttpMethod :=
  [.get, .put, .post, .delete, .options, .head, .patch, .trace]

/-- The key of the slot. -/
def key : HttpMethod → String
  | .get => "get"
  | .put => "put"
  | .post => "post"
  | .delete => "delete"
  | .options => "options"
  | .head => "head"
  | .patch => "patch"
  | .trace => "trace"

/-- The name of the method as it stands in a request. -/
def name : HttpMethod → String
  | .get => "GET"
  | .put => "PUT"
  | .post => "POST"
  | .delete => "DELETE"
  | .options => "OPTIONS"
  | .head => "HEAD"
  | .patch => "PATCH"
  | .trace => "TRACE"

theorem mem_all (m : HttpMethod) : m ∈ all := by
  cases m <;> decide

end HttpMethod

structure ExternalDocs where
  url : String := ""
  description : Option String := none
deriving DecidableEq, Repr, Inhabited

structure Contact where
  name : Option String := none
  url : Option String := none
  email : Option String := none
deriving DecidableEq, Repr, Inhabited

structure License where
  name : String := ""
  url : Option String := none
  identifier : Option String := none
deriving DecidableEq, Repr, Inhabited

structure Info where
  title : String := ""
  version : String := ""
  description : Option String := none
  summary : Option String := none
  termsOfService : Option String := none
  contact : Option Contact := none
  license : Option License := none
deriving DecidableEq, Repr, Inhabited

structure Server where
  url : String
  description : Option String := none
deriving DecidableEq, Repr, Inhabited

structure Tag where
  name : String
  description : Option String := none
  externalDocs : Option ExternalDocs := none
deriving DecidableEq, Repr, Inhabited

structure SecurityScheme where
  type : String
  description : Option String := none
  name : Option String := none
  location : Option String := none
  scheme : Option String := none
  bearerFormat : Option String := none
deriving DecidableEq, Repr, Inhabited

/-- A parameter that is not part of the body. -/
structure Parameter where
  name : String
  location : String
  description : Option String := none
  required : Bool := false
  deprecated : Bool := false
  allowEmptyValue : Bool := false
  style : Option String := none
  explode : Option Bool := none
  schema : Option Schema := none
  exampleValue : Option Json := none
deriving Inhabited

structure MediaType where
  schema : Option Schema := none
  exampleValue : Option Json := none
deriving Inhabited

structure RequestBody where
  description : Option String := none
  required : Bool := false
  content : Assoc MediaType := []
deriving Inhabited

structure Header where
  description : Option String := none
  schema : Option Schema := none
deriving Inhabited

structure Response where
  description : String := ""
  headers : Assoc Header := []
  content : Assoc MediaType := []
deriving Inhabited

/-- Security schemes that have to be met together, each with its scopes. -/
abbrev SecurityRequirement := Assoc (List String)

structure Operation where
  tags : List String := []
  summary : Option String := none
  description : Option String := none
  operationId : Option String := none
  parameters : List Parameter := []
  requestBody : Option RequestBody := none
  responses : Assoc Response := []
  security : List SecurityRequirement := []
  deprecated : Bool := false
  extensions : Assoc Json := []
deriving Inhabited

/-- The operations of one path, at most one for each method. -/
structure PathItem where
  get : Option Operation := none
  put : Option Operation := none
  post : Option Operation := none
  delete : Option Operation := none
  options : Option Operation := none
  head : Option Operation := none
  patch : Option Operation := none
  trace : Option Operation := none
deriving Inhabited

namespace PathItem

/-- The operation attached to a method. -/
def slot (item : PathItem) : HttpMethod → Option Operation
  | .get => item.get
  | .put => item.put
  | .post => item.post
  | .delete => item.delete
  | .options => item.options
  | .head => item.head
  | .patch => item.patch
  | .trace => item.trace

/-- Attaches an operation to a method. -/
def place (item : PathItem) (method : HttpMethod) (op : Operation) : PathItem :=
  match method with
  | .get => { item with get := some op }
  | .put => { item with put := some op }
  | .post => { item with post := some op }
  | .delete => { item with delete := some op }
  | .options => { item with options := some op }
  | .head => { item with head := some op }
  | .patch => { item with patch := some op }
  | .trace => { item with trace := some op }

/-- The attached operations in slot order. -/
def operations (item : PathItem) : List (HttpMethod × Operation) :=
  HttpMethod.all.filterMap fun m => (item.slot m).map (m, ·)

/-- Placing an operation fills the slot of its method and no other. -/
theorem slot_place (item : PathItem) (m n : HttpMethod) (op : Operation) :
    (item.place m op).slot n = if m = n then some op else item.slot n := by
  cases m <;> cases n <;> rfl

end PathItem

structure Components where
  schemas : Assoc Schema := []
  securitySchemes : Assoc SecurityScheme := []
deriving Inhabited

structure Document where
  openapi : String
  jsonSchemaDialect : Option String := none
  info : Info := {}
  servers : List Server := []
  paths : Assoc PathItem := []
  components : Components := {}
  tags : List Tag := []
  externalDocs : Option ExternalDocs := none
deriving Inhabited

namespace Document

/-- The document that says nothing yet. -/
def initial : Document :=
  { openapi := "3.1.0"
    jsonSchemaDialect := some "https://json-schema.org/draft/2020-12/schema" }

/-- Every attached operation with its path and method, in path order and then slot order. -/
def operations (d : Document) : List (String × HttpMethod × Operation) :=
  d.paths.flatMap fun (path, item) => item.operations.map (path, ·)

end Document

end AnnotatedApi
