import AnnotatedApi.Proofs.Directive.Schemas
import AnnotatedApi.Proofs.Document.Encoding
import AnnotatedApi.Proofs.Schema.Decoration

/-!
The values that directives bring into an operation.

Attributes give a parameter and its schema sound values only (`Parameter.Sound.applyAttribute`), so
the schemas of an operation that is built from comments are sound (`yields_sound`).  The same is true
of its other values and of the keys of its maps: one line keeps it (`Operation.Meets.apply`), so any
number of comments does (`meets_foldl_applyComment`).
-/

namespace AnnotatedApi

open Json Text

/-! ### Parameters -/

namespace Parameter

/-- The schema of a parameter, apart from the schemas inside it, and its example are sound. -/
structure Sound (p : Parameter) : Prop where
  schema : (p.schema.getD {}).toFacets.Meets .sound
  sample : p.Meets .sound

theorem Sound.of_schema {p : Parameter} {s : Schema} (hschema : p.schema = some s)
    (hs : s.toFacets.Meets .sound) (hexample : p.exampleValue = none) : p.Sound where
  schema := by
    rw [hschema]
    exact hs
  sample := by simp [Parameter.Meets, hexample]

theorem Sound.updateSchema {p : Parameter} (h : p.Sound) {f : Schema → Schema}
    (hf : ∀ s : Schema, s.toFacets.Meets .sound → (f s).toFacets.Meets .sound) :
    (p.updateSchema f).Sound :=
  ⟨hf _ h.schema, h.sample⟩

theorem sound_setDefault (value : String) {s : Schema} (h : s.toFacets.Meets .sound) :
    (setDefault value s).toFacets.Meets .sound := by
  unfold setDefault
  split
  · next hv => exact h.withDefault (sound_of_coerce? hv)
  · exact h

theorem Sound.applyAttribute {p : Parameter} (h : p.Sound) (key value : String) :
    (p.applyAttribute key value).Sound := by
  unfold Parameter.applyAttribute
  split
  · exact ⟨h.schema, h.sample⟩
  · exact ⟨h.schema, h.sample⟩
  · exact h.updateSchema fun s hs => hs.withBounds _ _ _ _ _
  · exact h.updateSchema fun s hs => hs.withBounds _ _ _ _ _
  · exact h.updateSchema fun s hs => hs.withBounds _ _ _ _ _
  · exact h.updateSchema fun s hs => hs.withBounds _ _ _ _ _
  · exact h.updateSchema fun s hs => hs.withBounds _ _ _ _ _
  · exact h.updateSchema fun s hs => hs.withBounds _ _ _ _ _
  · exact h.updateSchema fun s hs => hs.withMinLength fun _ => readCount?_lt
  · exact h.updateSchema fun s hs => hs.withMaxLength fun _ => readCount?_lt
  · exact h.updateSchema fun s hs => hs.withMarks _ _ _ _ _ _
  · exact h.updateSchema fun s hs => hs.withBounds _ _ _ _ _
  · exact h.updateSchema fun s hs => hs.withMinItems fun _ => readCount?_lt
  · exact h.updateSchema fun s hs => hs.withMaxItems fun _ => readCount?_lt
  · exact h.updateSchema fun s hs => hs.withMarks _ _ _ _ _ _
  · exact h.updateSchema fun s hs =>
      hs.withEnum (List.forall_mem_map.mpr fun _ _ => (sound_coerce _ _).1)
  · exact h.updateSchema fun s hs =>
      hs.withEnum (List.forall_mem_map.mpr fun _ _ => (sound_coerce _ _).1)
  · exact h.updateSchema fun s hs => sound_setDefault value hs
  · have hsame : (p.updateSchema id).Sound := h.updateSchema fun _ hs => hs
    dsimp only
    split
    · next hv =>
      refine ⟨hsame.schema, fun v hmem => ?_⟩
      exact Option.some_inj.mp hmem ▸ sound_of_coerce? hv
    · exact hsame
  · exact h.updateSchema fun s hs => hs.withMarks _ _ _ _ _ _
  · exact h.updateSchema fun s hs => hs.withMarks _ _ _ _ _ _
  · exact h.updateSchema fun s hs => hs.withMarks _ _ _ _ _ _
  · exact h.updateSchema fun s hs => hs.withMarks _ _ _ _ _ _
  · exact h.updateSchema fun _ hs => hs

theorem Sound.applyAttributes {p : Parameter} (h : p.Sound) (attributes : List (String × String)) :
    (p.applyAttributes attributes).Sound := by
  unfold Parameter.applyAttributes
  induction attributes.filter (·.1 != formatKey) generalizing p with
  | nil => exact h
  | cons a rest ih => exact ih (h.applyAttribute a.1 a.2)

theorem Sound.applyFormat {p : Parameter} (h : p.Sound) (format : CollectionFormat) :
    (p.applyFormat format).Sound := by
  unfold Parameter.applyFormat
  split
  · exact ⟨h.schema, h.sample⟩
  · exact h

end Parameter

theorem Operation.sound_parameterOf (ctx : OperationContext) (line : ParamLine) :
    (parameterOf ctx line).Sound := by
  have hstart : Parameter.Sound
      { name := line.name, location := line.location, description := nonEmpty? line.description
        required := line.required, schema := some (ctx.resolver.resolveText line.type) } :=
    .of_schema rfl (ctx.resolver.sound_resolveText line.type).sound_top rfl
  exact (hstart.applyAttributes line.attributes).applyFormat _

/-- The schemas that directives give rise to are sound. -/
theorem OperationContext.yields_sound (ctx : OperationContext) :
    ctx.Yields (Schema.Meets .sound) where
  text := ctx.resolver.sound_resolveText
  array type := (ctx.resolver.keeps_sound .directive).array (ctx.resolver.sound_resolveText type)
  parameter line s hs := by
    have hfacets := (Operation.sound_parameterOf ctx line).schema
    rw [hs, Option.getD_some] at hfacets
    exact (ctx.resolver.sound_resolveText line.type).of_skeleton (Operation.skeleton_parameterOf hs)
      hfacets

/-! ### Contents and responses -/

/-- A media type that has a schema only. -/
theorem MediaType.meets_schema {D : Demands} (schema : Option Schema) :
    MediaType.Meets D { schema } := by
  simp [MediaType.Meets]

theorem contentMeets_retype {content : Assoc MediaType} (types : List String)
    (h : ContentMeets .sound content) : ContentMeets .sound (retype types content) where
  media := forall_mem_retype types h.media fun _ _ => MediaType.meets_schema _
  types := nodup_keys_retype types h.types

theorem contentMeets_singleton (type : String) (schema : Option Schema) :
    ContentMeets .sound [(type, { schema })] := by
  refine ⟨fun e he => ?_, List.nodup_singleton _⟩
  obtain rfl := List.mem_singleton.mp he
  exact MediaType.meets_schema schema

theorem contentMeets_nil : ContentMeets .sound [] :=
  ⟨by simp, List.nodup_nil⟩

theorem Operation.meets_responseOf (r : Resolver) (line : ResponseLine) :
    (responseOf r line).Meets .sound := by
  unfold responseOf
  split
  · exact ⟨List.nodup_nil, contentMeets_singleton _ _⟩
  · exact ⟨List.nodup_nil, contentMeets_singleton _ _⟩
  · exact ⟨List.nodup_nil, contentMeets_nil⟩

/-! ### One line -/

namespace Operation.Meets

variable {op : Operation}

theorem addBody (r : Resolver) (line : ParamLine) (h : op.Meets .sound) :
    (op.addBody r line).Meets .sound := by
  have hbody : ContentMeets .sound (op.requestBody.getD
      { description := nonEmpty? line.description, required := line.required }).content := by
    cases hbody : op.requestBody with
    | none => exact contentMeets_nil
    | some body => exact h.requestBody body hbody
  refine { h with requestBody := fun body hnew => ?_ }
  obtain rfl := Option.some_inj.mp hnew
  exact ⟨Assoc.forall_mem_insert hbody.media (MediaType.meets_schema _),
    Assoc.nodup_keys_insert _ _ _ hbody.types⟩

theorem addParam (ctx : OperationContext) (line : ParamLine) (h : op.Meets .sound) :
    (op.addParam ctx line).Meets .sound := by
  unfold Operation.addParam
  split
  · exact h.addBody ctx.resolver line
  · refine { h with parameters := List.forall_mem_append.mpr ⟨h.parameters, fun p hp => ?_⟩ }
    obtain rfl := List.mem_singleton.mp hp
    exact (sound_parameterOf ctx line).sample

theorem addHeader (r : Resolver) (line : HeaderLine) (h : op.Meets .sound) :
    (op.addHeader r line).Meets .sound := by
  have hblank : Response.Meets .sound { description := "Response " ++ line.status } :=
    ⟨List.nodup_nil, contentMeets_nil⟩
  have hresponses : ∀ e ∈ (op.addHeader r line).responses, e.2.Meets .sound := by
    dsimp only [Operation.addHeader]
    refine Assoc.forall_mem_alter h.responses hblank fun response hresponse => ?_
    exact ⟨Assoc.nodup_keys_insert _ _ _ hresponse.headers, hresponse.content⟩
  exact { h with
    responses := hresponses
    statuses := Assoc.nodup_keys_insert _ _ _ h.statuses }

theorem insertExtension (h : op.Meets .sound) {key : String} {value : Json}
    (hkey : startsWith "x-" key = true) (hvalue : Demands.sound.item value) :
    Meets .sound { op with extensions := Assoc.insert op.extensions key value } :=
  { h with
    extensions := Assoc.forall_mem_insert h.extensions hvalue
    names := sound_names_insert h.names hkey }

theorem sound_codeSample (language source : String) :
    Demands.sound.item (codeSample language source) := by
  refine ⟨everywhere_obj.mpr ⟨⟨trivial, trivial⟩, ?_⟩, everywhere_obj.mpr ⟨?_, ?_⟩⟩
  · simp only [List.forall_mem_cons, List.not_mem_nil, false_imp_iff, implies_true, and_true]
    exact ⟨(sound_str language).1.1, (sound_str source).1.1⟩
  · change ["lang", "source"].Nodup
    decide
  · simp only [List.forall_mem_cons, List.not_mem_nil, false_imp_iff, implies_true, and_true]
    exact ⟨(sound_str language).1.2, (sound_str source).1.2⟩

/-- A list to which a code sample is added. -/
theorem sound_samples {items : List Json} (h : ∀ j ∈ items, Demands.sound.item j)
    (language source : String) :
    Demands.sound.item (.arr (items ++ [codeSample language source])) := by
  have hall : ∀ j ∈ items ++ [codeSample language source], Demands.sound.item j :=
    List.forall_mem_append.mpr ⟨h, fun j hj => List.mem_singleton.mp hj ▸ sound_codeSample _ _⟩
  exact ⟨everywhere_arr.mpr ⟨⟨trivial, trivial⟩, fun j hj => (hall j hj).1⟩,
    everywhere_arr.mpr ⟨trivial, fun j hj => (hall j hj).2⟩⟩

theorem addCodeSample (content : ContentStore) (text : String) (h : op.Meets .sound) :
    (op.addCodeSample content text).Meets .sound := by
  rcases addCodeSample_cases content text op with hsame | ⟨value, hnew, hvalue⟩
  · rwa [hsame]
  · rw [hnew]
    refine h.insertExtension (by decide) ?_
    rcases hvalue with hold | ⟨items, language, source, rfl, hitems⟩
    · exact h.extensions _ (Assoc.mem_of_get? hold)
    · refine sound_samples (fun j hj => ?_) language source
      rcases hitems with rfl | hitems
      · simp at hj
      · obtain ⟨hproper, hdistinct⟩ := h.extensions _ (Assoc.mem_of_get? hitems)
        exact ⟨(everywhere_arr.mp hproper).2 j hj, (everywhere_arr.mp hdistinct).2 j hj⟩

/-- One line keeps the values sound. -/
theorem apply (ctx : OperationContext) (line : OperationLine) (h : op.Meets .sound) :
    (line.apply ctx op).Meets .sound := by
  cases line with
  | accept types =>
    refine { h with requestBody := fun body hbody => ?_ }
    obtain ⟨old, hold, rfl⟩ := Option.map_eq_some_iff.mp hbody
    exact contentMeets_retype types (h.requestBody old hold)
  | produce types =>
    refine { h with responses := fun e he => ?_, statuses := ?_ }
    · obtain ⟨⟨status, response⟩, hold, rfl⟩ := List.mem_map.mp he
      have hresponse := h.responses _ hold
      exact ⟨hresponse.headers, contentMeets_retype types hresponse.content⟩
    · have hkeys := Assoc.keys_mapValues
        (fun r : Response => { r with content := retype types r.content }) op.responses
      exact hkeys ▸ h.statuses
  | param line => exact h.addParam ctx line
  | response keyword line =>
    exact { h with
      responses := Assoc.forall_mem_insert h.responses (meets_responseOf ctx.resolver line)
      statuses := Assoc.nodup_keys_insert _ _ _ h.statuses }
  | header line => exact h.addHeader ctx.resolver line
  | security scheme scopes =>
    refine { h with security := List.forall_mem_append.mpr ⟨h.security, fun r hr => ?_⟩ }
    obtain rfl := List.mem_singleton.mp hr
    exact List.nodup_singleton _
  | state text => exact h.insertExtension (by decide) (sound_str text).1
  | codeSamples text => exact h.addCodeSample ctx.content text
  | _ => exact { h with }

/-! ### Comments -/

theorem applyComment (ctx : OperationContext) (doc : CommentGroup) (h : op.Meets .sound) :
    (op.applyComment ctx doc).Meets .sound :=
  applyComment_induction (fun _ _ line _ hop => hop.apply ctx line) doc h

end Operation.Meets

theorem Operation.meets_empty : ({} : Operation).Meets .sound where
  parameters := by simp
  requestBody := by simp
  responses := by simp
  statuses := List.nodup_nil
  security := by simp
  extensions := by simp
  names := ⟨List.nodup_nil, by simp [Assoc.keys]⟩

/-- All values of an operation that is built from comments are sound. -/
theorem Operation.meets_foldl_applyComment (ctx : OperationContext) (docs : List CommentGroup) :
    (docs.foldl (applyComment ctx) {}).Meets .sound :=
  List.foldlRecOn docs _ meets_empty fun _ h doc _ => h.applyComment ctx doc

end AnnotatedApi
