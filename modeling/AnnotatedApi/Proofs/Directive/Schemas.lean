import AnnotatedApi.Proofs.Directive.Steps
import AnnotatedApi.Proofs.Document.Schemas
import AnnotatedApi.Proofs.Schema.Skeleton

/-!
The schemas that directives bring into an operation.

A property that the schemas of type texts have, alone and as the items of an array, and that the
schemas of parameters have (`OperationContext.Yields`), holds of all schemas of an operation that is
built from comments.  One line keeps it (`AllSchemas.apply`), so any number of comments does
(`allSchemas_foldl_applyComment`).  Attributes leave the skeleton of a parameter's schema alone, so
for a property of skeletons the parameters need no look of their own (`Yields.of_skeleton`).
-/

namespace AnnotatedApi

/-- `Q` holds of the schemas that directives give rise to. -/
structure OperationContext.Yields (ctx : OperationContext) (Q : Schema → Prop) : Prop where
  text : ∀ type, Q (ctx.resolver.resolveText type)
  array : ∀ type, Q (.array (ctx.resolver.resolveText type))
  parameter : ∀ line s, (Operation.parameterOf ctx line).schema = some s → Q s

variable {ctx : OperationContext} {Q : Schema → Prop} {op : Operation}

/-- Attributes and collection format leave the skeleton of a parameter's schema alone. -/
theorem Operation.skeleton_parameterOf {line : ParamLine} {s : Schema}
    (hs : (parameterOf ctx line).schema = some s) :
    s.skeleton = (ctx.resolver.resolveText line.type).skeleton := by
  rw [parameterOf, Parameter.schema_applyFormat] at hs
  have hskeleton := Parameter.schemaSkeleton_applyAttributes
    { name := line.name, location := line.location, description := nonEmpty? line.description
      required := line.required, schema := some (ctx.resolver.resolveText line.type) }
    line.attributes
  simpa only [Parameter.schemaSkeleton, hs, Option.getD_some] using hskeleton

theorem OperationContext.Yields.of_skeleton (htext : ∀ type, Q (ctx.resolver.resolveText type))
    (harray : ∀ type, Q (.array (ctx.resolver.resolveText type)))
    (hskeleton : ∀ {s s' : Schema}, s'.skeleton = s.skeleton → Q s → Q s') : ctx.Yields Q where
  text := htext
  array := harray
  parameter line _ hs := hskeleton (Operation.skeleton_parameterOf hs) (htext line.type)

/-! ### Contents and responses -/

theorem MediaType.allSchemas_of_eq {s : Schema} (hs : Q s) :
    AllSchemas Q ({ schema := some s } : MediaType) := by
  rintro t ⟨⟩
  exact hs

theorem Operation.allSchemas_responseOf (hctx : ctx.Yields Q) (line : ResponseLine) :
    (responseOf ctx.resolver line).AllSchemas Q := by
  unfold responseOf
  split
  · refine ⟨fun e he => ?_, by simp⟩
    obtain rfl := List.mem_singleton.mp he
    exact MediaType.allSchemas_of_eq (hctx.text line.type)
  · refine ⟨fun e he => ?_, by simp⟩
    obtain rfl := List.mem_singleton.mp he
    exact MediaType.allSchemas_of_eq (hctx.array line.type)
  · exact ⟨by simp, by simp⟩

/-! ### One line -/

namespace Operation.AllSchemas

theorem addBody (hctx : ctx.Yields Q) (line : ParamLine) (h : op.AllSchemas Q) :
    (op.addBody ctx.resolver line).AllSchemas Q := by
  refine ⟨h.parameters, ?_, h.responses⟩
  rintro body ⟨⟩
  refine Assoc.forall_mem_insert ?_ (MediaType.allSchemas_of_eq (hctx.text line.type))
  -- The body declared so far, or one without content.
  cases hbody : op.requestBody with
  | none => simp
  | some body => exact h.requestBody body hbody

theorem addParam (hctx : ctx.Yields Q) (line : ParamLine) (h : op.AllSchemas Q) :
    (op.addParam ctx line).AllSchemas Q := by
  unfold Operation.addParam
  split
  · exact h.addBody hctx line
  · refine ⟨fun p hp s hs => ?_, h.requestBody, h.responses⟩
    rcases List.mem_append.mp hp with hold | hnew
    · exact h.parameters p hold s hs
    · obtain rfl := List.mem_singleton.mp hnew
      exact hctx.parameter line s hs

theorem addHeader (hctx : ctx.Yields Q) (line : HeaderLine) (h : op.AllSchemas Q) :
    (op.addHeader ctx.resolver line).AllSchemas Q := by
  refine ⟨h.parameters, h.requestBody, ?_⟩
  dsimp only [Operation.addHeader]
  refine Assoc.forall_mem_alter h.responses ?_ fun response hresponse => ?_
  · exact ⟨by simp, by simp⟩
  refine ⟨hresponse.content, Assoc.forall_mem_insert hresponse.headers ?_⟩
  intro s hs
  obtain rfl := Option.some_inj.mp hs
  exact hctx.text line.type

theorem addCodeSample (content : ContentStore) (text : String) (h : op.AllSchemas Q) :
    (op.addCodeSample content text).AllSchemas Q := by
  rcases addCodeSample_cases content text op with hsame | ⟨value, hnew, -⟩
  · rwa [hsame]
  · rw [hnew]
    exact ⟨h.parameters, h.requestBody, h.responses⟩

/-- One line keeps the property. -/
theorem apply (hctx : ctx.Yields Q) (line : OperationLine) (h : op.AllSchemas Q) :
    (line.apply ctx op).AllSchemas Q := by
  cases line with
  | accept types =>
    refine ⟨h.parameters, fun body hbody => ?_, h.responses⟩
    obtain ⟨old, hold, rfl⟩ := Option.map_eq_some_iff.mp hbody
    exact forall_mem_retype types (h.requestBody old hold) (h.requestBody old hold)
  | produce types =>
    refine ⟨h.parameters, h.requestBody, fun e he => ?_⟩
    obtain ⟨⟨status, response⟩, hold, rfl⟩ := List.mem_map.mp he
    have hresponse := h.responses _ hold
    exact ⟨forall_mem_retype types hresponse.content hresponse.content, hresponse.headers⟩
  | param line => exact h.addParam hctx line
  | response keyword line =>
    exact ⟨h.parameters, h.requestBody,
      Assoc.forall_mem_insert h.responses (allSchemas_responseOf hctx line)⟩
  | header line => exact h.addHeader hctx line
  | codeSamples text => exact h.addCodeSample ctx.content text
  | _ => exact ⟨h.parameters, h.requestBody, h.responses⟩

/-! ### Comments -/

theorem applyComment (hctx : ctx.Yields Q) (doc : CommentGroup) (h : op.AllSchemas Q) :
    (op.applyComment ctx doc).AllSchemas Q :=
  applyComment_induction (fun _ _ line _ hop => hop.apply hctx line) doc h

end Operation.AllSchemas

/-- All schemas of an operation that is built from comments have the property. -/
theorem Operation.allSchemas_foldl_applyComment (hctx : ctx.Yields Q) (docs : List CommentGroup) :
    (docs.foldl (applyComment ctx) {}).AllSchemas Q :=
  List.foldlRecOn docs _ ⟨by simp, by simp, by simp⟩ fun _ h doc _ => h.applyComment hctx doc

end AnnotatedApi
