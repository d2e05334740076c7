import AnnotatedApi.Document.Basic
import AnnotatedApi.Proofs.Schema.Parts

/-!
Where schemas stand in a document.

An operation carries the schemas of its parameters, of its request body and of the contents of its
responses; the headers of its responses have schemas too, and so has every component.  What holds of
all schemas of an operation is said record by record in `Operation.AllSchemas`.  A document mentions
a reference when the reference stands anywhere inside one of these.
-/

namespace AnnotatedApi

/-- `op` is attached to a path of the document. -/
def Document.Attached (d : Document) (path : String) (method : HttpMethod) (op : Operation) : Prop :=
  ∃ item, (path, item) ∈ d.paths ∧ item.slot method = some op

namespace Operation

/-- `s` is the schema of a parameter, of the request body or of the content of a response. -/
inductive Carries (op : Operation) : Schema → Prop
  | parameter {p : Parameter} {s : Schema} :
      p ∈ op.parameters → p.schema = some s → Carries op s
  | requestBody {body : RequestBody} {contentType : String} {media : MediaType} {s : Schema} :
      op.requestBody = some body → (contentType, media) ∈ body.content → media.schema = some s →
      Carries op s
  | response {status : String} {response : Response} {contentType : String} {media : MediaType}
      {s : Schema} :
      (status, response) ∈ op.responses → (contentType, media) ∈ response.content →
      media.schema = some s → Carries op s

/-- `s` is the schema of a header of a response. -/
def HasHeader (op : Operation) (s : Schema) : Prop :=
  ∃ status response name header, (status, response) ∈ op.responses ∧
    (name, header) ∈ response.headers ∧ header.schema = some s

end Operation

/-- `Q` holds of the schema of a media type, if there is one. -/
def MediaType.AllSchemas (Q : Schema → Prop) (media : MediaType) : Prop :=
  ∀ s, media.schema = some s → Q s

/-- `Q` holds of the schema of a header, if there is one. -/
def Header.AllSchemas (Q : Schema → Prop) (header : Header) : Prop :=
  ∀ s, header.schema = some s → Q s

/-- `Q` holds of all schemas in the content and the headers of a response. -/
structure Response.AllSchemas (Q : Schema → Prop) (response : Response) : Prop where
  content : ∀ e ∈ response.content, e.2.AllSchemas Q
  headers : ∀ e ∈ response.headers, e.2.AllSchemas Q

/-- `Q` holds of all schemas of an operation. -/
structure Operation.AllSchemas (Q : Schema → Prop) (op : Operation) : Prop where
  parameters : ∀ p ∈ op.parameters, ∀ s, p.schema = some s → Q s
  requestBody : ∀ body, op.requestBody = some body → ∀ e ∈ body.content, e.2.AllSchemas Q
  responses : ∀ e ∈ op.responses, e.2.AllSchemas Q

namespace Operation.AllSchemas

variable {Q : Schema → Prop} {op : Operation}

theorem carries (h : op.AllSchemas Q) {s : Schema} (hs : op.Carries s) : Q s := by
  cases hs with
  | parameter hp hschema => exact h.parameters _ hp s hschema
  | requestBody hbody he hschema => exact h.requestBody _ hbody _ he s hschema
  | response hresponse he hschema => exact (h.responses _ hresponse).content _ he s hschema

theorem hasHeader (h : op.AllSchemas Q) {s : Schema} (hs : op.HasHeader s) : Q s := by
  obtain ⟨status, response, name, header, hresponse, he, hschema⟩ := hs
  exact (h.responses _ hresponse).headers _ he s hschema

theorem of_carries (hcarried : ∀ s, op.Carries s → Q s) (hheader : ∀ s, op.HasHeader s → Q s) :
    op.AllSchemas Q where
  parameters _ hp s hs := hcarried s (.parameter hp hs)
  requestBody _ hbody _ he s hs := hcarried s (.requestBody hbody he hs)
  responses e he :=
    { content := fun _ hm s hs => hcarried s (.response he hm hs)
      headers := fun h hh s hs => hheader s ⟨e.1, e.2, h.1, h.2, he, hh, hs⟩ }

end Operation.AllSchemas

namespace Document

/-- The schemas that stand in a document by themselves, and not inside another schema. -/
inductive Holds (d : Document) : Schema → Prop
  | carried {path : String} {method : HttpMethod} {op : Operation} {s : Schema} :
      d.Attached path method op → op.Carries s → Holds d s
  | header {path : String} {method : HttpMethod} {op : Operation} {s : Schema} :
      d.Attached path method op → op.HasHeader s → Holds d s
  | component {name : String} {s : Schema} : (name, s) ∈ d.components.schemas → Holds d s

/-- The reference stands anywhere in the document, at any depth. -/
def Mentions (d : Document) (reference : String) : Prop :=
  ∃ s t, d.Holds s ∧ s.Within t ∧ t.reference = some reference

end Document

/-- The reference is the name of one of the component schemas, behind the common start. -/
def Resolves (components : Assoc Schema) (reference : String) : Prop :=
  ∃ name ∈ Assoc.keys components, reference = refStart ++ name

end AnnotatedApi
