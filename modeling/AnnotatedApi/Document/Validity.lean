import AnnotatedApi.Document.Basic
import AnnotatedApi.Text.Split

/-!
Validity of documents.

A document is valid when it has a title and a version, every operation has a response, and every
reference met from the schemas of its operations names a component schema. `Document.validate`
reports the first problem: title, version, then operation by operation the parameters, the request
body, the lack of responses and the responses. From a schema, references are followed through
`items`, a schema for additional properties, `allOf`, `oneOf` and `anyOf`, in this order.
-/

namespace AnnotatedApi

open Text

/-- Why a reference does not name a component schema. -/
inductive RefError where
  | malformed (reference : String)
  | notFound (name : String)
deriving DecidableEq, Repr

namespace RefError

def message : RefError → String
  | .malformed reference => "invalid schema reference format: " ++ reference
  | .notFound name => "schema '" ++ name ++ "' not found"

end RefError

/-- A problem of a document. -/
inductive ValidationError where
  | missingTitle
  | missingVersion
  | noResponses (path : String) (method : HttpMethod)
  | parameterRef (path : String) (cause : RefError)
  | requestBodyRef (path contentType : String) (cause : RefError)
  | responseRef (path status contentType : String) (cause : RefError)
deriving DecidableEq, Repr

namespace ValidationError

def message : ValidationError → String
  | .missingTitle => "API title is required (@title)"
  | .missingVersion => "API version is required (@version)"
  | .noResponses path method => "operation " ++ method.name ++ " " ++ path ++ " has no responses"
  | .parameterRef path cause =>
    "invalid parameter schema reference in " ++ path ++ ": " ++ cause.message
  | .requestBodyRef path contentType cause =>
    "invalid request body schema reference (" ++ contentType ++ ") in " ++ path ++ ": " ++
      cause.message
  | .responseRef path status contentType cause =>
    "invalid response schema reference (" ++ status ++ ", " ++ contentType ++ ") in " ++ path ++
      ": " ++ cause.message

/-- The problem of the reference behind this one, if there is one. -/
def cause? : ValidationError → Option RefError
  | .parameterRef _ cause => some cause
  | .requestBodyRef _ _ cause => some cause
  | .responseRef _ _ _ cause => some cause
  | _ => none

end ValidationError

/-- The name of the component schema that a reference means. -/
def componentName? (reference : String) : Option String :=
  dropStart? refStart reference

/-- The problem of a reference into the given component schemas. -/
def refProblem? (components : Assoc Schema) (reference : String) : Option RefError :=
  match componentName? reference with
  | none => some (.malformed reference)
  | some name => if Assoc.containsKey components name then none else some (.notFound name)

mutual

/-- The first bad reference of a schema. -/
def Schema.refProblem? (components : Assoc Schema) : Schema → Option RefError
  | ⟨facets, items, _, additional, allOf, oneOf, anyOf, _⟩ =>
    (facets.reference.bind (AnnotatedApi.refProblem? components)).or <|
    (match items with
      | some s => s.refProblem? components
      | none => none).or <|
    (match additional with
      | some (.schema s) => s.refProblem? components
      | _ => none).or <|
    (Schema.firstRefProblem? components allOf).or <|
    (Schema.firstRefProblem? components oneOf).or <|
    Schema.firstRefProblem? components anyOf

/-- The first bad reference in a list of schemas. -/
def Schema.firstRefProblem? (components : Assoc Schema) : List Schema → Option RefError
  | [] => none
  | s :: rest => (s.refProblem? components).or (Schema.firstRefProblem? components rest)

end

/-- The first bad reference in the schemas of some media types, with its content type. -/
def contentProblem? (components : Assoc Schema) (content : Assoc MediaType) :
    Option (String × RefError) :=
  content.findSome? fun (contentType, media) =>
    (media.schema.bind (·.refProblem? components)).map (contentType, ·)

/-- The first problem of an operation. -/
def Operation.problem? (components : Assoc Schema) (path : String) (method : HttpMethod)
    (op : Operation) : Option ValidationError :=
  (op.parameters.findSome? fun p =>
    (p.schema.bind (·.refProblem? components)).map (.parameterRef path ·)).or <|
  (op.requestBody.bind fun body =>
    (contentProblem? components body.content).map fun (contentType, cause) =>
      .requestBodyRef path contentType cause).or <|
  if op.responses.isEmpty then some (.noResponses path method)
  else op.responses.findSome? fun (status, response) =>
    (contentProblem? components response.content).map fun (contentType, cause) =>
      .responseRef path status contentType cause

/-- The first problem of a document. -/
def Document.problem? (d : Document) : Option ValidationError :=
  if (trim d.info.title).isEmpty then some .missingTitle
  else if (trim d.info.version).isEmpty then some .missingVersion
  else d.operations.findSome? fun (path, method, op) =>
    op.problem? d.components.schemas path method

/-- Checks a document. -/
def Document.validate (d : Document) : Except ValidationError Unit :=
  match d.problem? with
  | some e => .error e
  | none => .ok ()

end AnnotatedApi
