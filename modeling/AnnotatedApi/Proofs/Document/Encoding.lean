import AnnotatedApi.Document.Encoding
import AnnotatedApi.Proofs.Document.Schemas
import AnnotatedApi.Proofs.Json.Reader
import AnnotatedApi.Proofs.Schema.Encoding

/-!
Documents as JSON trees.

A document satisfies demands when its schemas, its operations and the keys of its maps do
(`Document.Meets`).  If all of it can be stored, it is restored from its tree
(`Document.ofJson?_toJson`), whatever is read from a tree can be stored (`Document.yields_storable`),
and what the demands ask of the values holds everywhere in the tree
(`Document.Meets.everywhere_toJson`).  Main statement: `read_of_written`, for schemas, operations and
documents.
-/

namespace AnnotatedApi

open Json

/-! ### What stands in a document -/

/-- A media type satisfies the demands, apart from its schema. -/
def MediaType.Meets (D : Demands) (m : MediaType) : Prop :=
  ∀ v ∈ m.exampleValue, D.single v

/-- A parameter satisfies the demands, apart from its schema. -/
def Parameter.Meets (D : Demands) (p : Parameter) : Prop :=
  ∀ v ∈ p.exampleValue, D.single v

/-- Content satisfies the demands, apart from its schemas. -/
structure ContentMeets (D : Demands) (content : Assoc MediaType) : Prop where
  media : ∀ e ∈ content, e.2.Meets D
  types : D.keys (Assoc.keys content)

/-- A response satisfies the demands, apart from its schemas. -/
structure Response.Meets (D : Demands) (r : Response) : Prop where
  headers : D.keys (Assoc.keys r.headers)
  content : ContentMeets D r.content

/-- An operation satisfies the demands, apart from its schemas. -/
structure Operation.Meets (D : Demands) (op : Operation) : Prop where
  parameters : ∀ p ∈ op.parameters, p.Meets D
  requestBody : ∀ b ∈ op.requestBody, ContentMeets D b.content
  responses : ∀ e ∈ op.responses, e.2.Meets D
  statuses : D.keys (Assoc.keys op.responses)
  security : ∀ r ∈ op.security, D.keys (Assoc.keys r)
  extensions : ∀ e ∈ op.extensions, D.item e.2
  names : D.names Operation.fieldNames (Assoc.keys op.extensions)

/-- All schemas and operations of a document satisfy the demands. -/
structure Document.Meets (D : Demands) (d : Document) : Prop where
  schemas : ∀ s, d.Holds s → s.Meets D
  operations : ∀ path method op, d.Attached path method op → op.Meets D
  paths : D.keys (Assoc.keys d.paths)
  components : D.keys (Assoc.keys d.components.schemas)
  securitySchemes : D.keys (Assoc.keys d.components.securitySchemes)

theorem Document.Meets.allSchemas {D : Demands} {d : Document} (h : d.Meets D) {path : String}
    {method : HttpMethod} {op : Operation} (hop : d.Attached path method op) :
    op.AllSchemas (Schema.Meets D) :=
  .of_carries (fun s hs => h.schemas s (.carried hop hs)) fun s hs => h.schemas s (.header hop hs)

/-! ### Restoring what was written -/

theorem ExternalDocs.ofJson?_toJson (d : ExternalDocs) : ofJson? d.toJson = some d := by
  simp [toJson, ofJson?, source?, asText?]

theorem Contact.ofJson?_toJson (c : Contact) : ofJson? c.toJson = some c := by
  simp [toJson, ofJson?, source?]

theorem License.ofJson?_toJson (l : License) : ofJson? l.toJson = some l := by
  simp [toJson, ofJson?, source?, asText?]

theorem Info.ofJson?_toJson (i : Info) : ofJson? i.toJson = some i := by
  have hcontact : i.contact.elim (some none) (readOptional Contact.ofJson? ∘ Contact.toJson) =
      some i.contact := readOptional_map (fun c _ => c.ofJson?_toJson) (by simp [Contact.toJson])
  have hlicense : i.license.elim (some none) (readOptional License.ofJson? ∘ License.toJson) =
      some i.license := readOptional_map (fun l _ => l.ofJson?_toJson) (by simp [License.toJson])
  simp [toJson, ofJson?, source?, asText?, hcontact, hlicense]

theorem Server.ofJson?_toJson (s : Server) : ofJson? s.toJson = some s := by
  simp [toJson, ofJson?, source?, asText?]

theorem Tag.ofJson?_toJson (t : Tag) : ofJson? t.toJson = some t := by
  have hdocs : t.externalDocs.elim (some none)
      (readOptional ExternalDocs.ofJson? ∘ ExternalDocs.toJson) = some t.externalDocs :=
    readOptional_map (fun d _ => d.ofJson?_toJson) (by simp [ExternalDocs.toJson])
  simp [toJson, ofJson?, source?, asText?, hdocs]

theorem SecurityScheme.ofJson?_toJson (s : SecurityScheme) : ofJson? s.toJson = some s := by
  simp [toJson, ofJson?, source?, asText?]

/-- A schema that may be absent is restored if it can be stored. -/
theorem readOptional_schema {v : Option Schema} (h : ∀ s ∈ v, s.Meets .storable) :
    v.elim (some none) (readOptional Schema.ofJson? ∘ Schema.toJson) = some v :=
  readOptional_map (fun s hs => Schema.ofJson?_toJson (h s hs)) (by simp [Schema.toJson])

/-- A free value is restored if it can be stored. -/
theorem readOptional_single {v : Option Json} (h : ∀ j ∈ v, Demands.storable.single j) :
    v.elim (some none) (readOptional readAny) = some v :=
  readOptional_any fun j hj => (h j hj).2

theorem Parameter.ofJson?_toJson {p : Parameter} (hschema : ∀ s ∈ p.schema, s.Meets .storable)
    (h : p.Meets .storable) : ofJson? p.toJson = some p := by
  simp [toJson, ofJson?, source?, asText?, asBool?, readOptional_schema hschema,
    readOptional_single h]

theorem MediaType.ofJson?_toJson {m : MediaType} (hschema : m.AllSchemas (Schema.Meets .storable))
    (h : m.Meets .storable) : ofJson? m.toJson = some m := by
  simp [toJson, ofJson?, source?, readOptional_schema hschema, readOptional_single h]

theorem ContentMeets.restores {content : Assoc MediaType}
    (hschemas : ∀ e ∈ content, e.2.AllSchemas (Schema.Meets .storable))
    (h : ContentMeets .storable content) :
    ∀ e ∈ content, MediaType.ofJson? e.2.toJson = some e.2 :=
  fun e he => MediaType.ofJson?_toJson (hschemas e he) (h.media e he)

theorem RequestBody.ofJson?_toJson {b : RequestBody}
    (hschemas : ∀ e ∈ b.content, e.2.AllSchemas (Schema.Meets .storable))
    (h : ContentMeets .storable b.content) : ofJson? b.toJson = some b := by
  simp [toJson, ofJson?, source?, asBool?, readAssoc_ofAssoc (h.restores hschemas)]

theorem Header.ofJson?_toJson {h : Header} (hschema : h.AllSchemas (Schema.Meets .storable)) :
    ofJson? h.toJson = some h := by
  simp [toJson, ofJson?, source?, readOptional_schema hschema]

theorem Response.ofJson?_toJson {r : Response} (hschemas : r.AllSchemas (Schema.Meets .storable))
    (h : r.Meets .storable) : ofJson? r.toJson = some r := by
  have hheaders : ∀ e ∈ r.headers, Header.ofJson? e.2.toJson = some e.2 :=
    fun e he => Header.ofJson?_toJson (hschemas.headers e he)
  simp [toJson, ofJson?, source?, asText?, elim_mapValue hheaders,
    elim_mapValue (h.content.restores hschemas.content)]

/-- The fields of an operation besides its extensions. -/
def Operation.ownRows (op : Operation) : List (String × Option Json) :=
  [("tags", listValue .str op.tags), ("summary", op.summary.map .str),
    ("description", op.description.map .str), ("operationId", op.operationId.map .str),
    ("parameters", listValue Parameter.toJson op.parameters),
    ("requestBody", op.requestBody.map RequestBody.toJson),
    ("responses", some (ofAssoc Response.toJson op.responses)),
    ("security", listValue (ofAssoc ofTexts) op.security), ("deprecated", flagValue op.deprecated)]

theorem Operation.toJson_eq (op : Operation) :
    op.toJson = .obj (entries op.ownRows ++ op.extensions) := by
  simp [toJson, entries, ownRows, entry]

/-- Its own fields are no extensions. -/
theorem Operation.filter_entries_ownRows (op : Operation) :
    (entries op.ownRows).filter (fun e => !fieldNames.contains e.1) = [] := by
  refine List.filter_eq_nil_iff.mpr fun e he => ?_
  have hname : e.1 ∈ fieldNames :=
    (keys_entries_sublist op.ownRows).subset (List.mem_map_of_mem he)
  simpa using hname

theorem Operation.ofJson?_toJson {op : Operation} (hschemas : op.AllSchemas (Schema.Meets .storable))
    (h : op.Meets .storable) : ofJson? op.toJson = some op := by
  have hnone : ∀ key ∈ fieldNames, Assoc.get? op.extensions key = none :=
    fun key hkey => (Assoc.get?_eq_none_iff _ _).mpr fun hmem => h.names key hmem hkey
  have hkept : op.extensions.filter (fun e => !fieldNames.contains e.1) = op.extensions := by
    refine List.filter_eq_self.mpr fun e he => ?_
    simpa using h.names e.1 (List.mem_map_of_mem he)
  simp only [fieldNames, List.forall_mem_cons] at hnone
  have htags : (listValue Json.str op.tags).elim (some []) (readList asText?) = some op.tags :=
    elim_listValue fun _ _ => rfl
  have hparameters : (listValue Parameter.toJson op.parameters).elim (some [])
      (readList Parameter.ofJson?) = some op.parameters :=
    elim_listValue fun p hp => Parameter.ofJson?_toJson (hschemas.parameters p hp) (h.parameters p hp)
  have hbody : op.requestBody.elim (some none)
      (readOptional RequestBody.ofJson? ∘ RequestBody.toJson) = some op.requestBody :=
    readOptional_map (fun b hb => RequestBody.ofJson?_toJson (hschemas.requestBody b hb)
      (h.requestBody b hb)) (by simp [RequestBody.toJson])
  have hresponses : readAssoc Response.ofJson? (ofAssoc Response.toJson op.responses) =
      some op.responses :=
    readAssoc_ofAssoc fun e he => Response.ofJson?_toJson (hschemas.responses e he) (h.responses e he)
  have hsecurity : (listValue (ofAssoc ofTexts) op.security).elim (some [])
      (readList (readAssoc (readList asText?))) = some op.security :=
    elim_listValue fun r _ => readAssoc_ofAssoc fun e _ => readList_map fun _ _ => rfl
  simp only [toJson_eq, ofJson?, List.filter_append, filter_entries_ownRows, hkept, List.nil_append]
  simp [entries, ownRows, hnone, htags, hparameters, hbody, hresponses, hsecurity]

/-- The operation under each method is restored. -/
theorem PathItem.ofJson?_toJson {item : PathItem}
    (h : ∀ m op, item.slot m = some op → Operation.ofJson? op.toJson = some op) :
    ofJson? item.toJson = some item := by
  have hslot : ∀ m, (item.slot m).elim (some none)
      (readOptional Operation.ofJson? ∘ Operation.toJson) = some (item.slot m) :=
    fun m => readOptional_map (fun op hop => h m op hop) (by simp [Operation.toJson])
  simp [toJson, ofJson?, source?, HttpMethod.all, HttpMethod.key, hslot]
  rfl

theorem Components.ofJson?_toJson {c : Components}
    (h : ∀ e ∈ c.schemas, Schema.ofJson? e.2.toJson = some e.2) : ofJson? c.toJson = some c := by
  have hsecurity : ∀ e ∈ c.securitySchemes, SecurityScheme.ofJson? e.2.toJson = some e.2 :=
    fun e _ => e.2.ofJson?_toJson
  simp [toJson, ofJson?, source?, elim_mapValue h, elim_mapValue hsecurity]

/-- The value of the field for the components, which is left out if there are none. -/
def Components.value (c : Components) : Option Json :=
  if c.isEmpty then none else some c.toJson

theorem Components.elim_value {c : Components}
    (h : ∀ e ∈ c.schemas, Schema.ofJson? e.2.toJson = some e.2) :
    c.value.elim (some {}) ofJson? = some c := by
  unfold value
  split
  · next hempty =>
    obtain ⟨schemas, securitySchemes⟩ := c
    simp only [isEmpty, Bool.and_eq_true, List.isEmpty_iff] at hempty
    rw [hempty.1, hempty.2]
    rfl
  · exact ofJson?_toJson h

theorem Document.toJson_eq (d : Document) :
    d.toJson = .obj (entries [("openapi", some (.str d.openapi)),
      ("jsonSchemaDialect", d.jsonSchemaDialect.map .str), ("info", some d.info.toJson),
      ("servers", listValue Server.toJson d.servers),
      ("paths", some (ofAssoc PathItem.toJson d.paths)), ("components", d.components.value),
      ("tags", listValue Tag.toJson d.tags),
      ("externalDocs", d.externalDocs.map ExternalDocs.toJson)]) := by
  have hcomponents : (if d.components.isEmpty then [] else [("components", d.components.toJson)]) =
      entry "components" d.components.value := by
    unfold Components.value
    split <;> rfl
  simp [toJson, entries, entry, hcomponents]

/-- **A document that can be stored is restored from its tree.** -/
theorem Document.ofJson?_toJson {d : Document} (h : d.Meets .storable) :
    ofJson? d.toJson = some d := by
  have hservers : (listValue Server.toJson d.servers).elim (some []) (readList Server.ofJson?) =
      some d.servers := elim_listValue fun s _ => s.ofJson?_toJson
  have htags : (listValue Tag.toJson d.tags).elim (some []) (readList Tag.ofJson?) = some d.tags :=
    elim_listValue fun t _ => t.ofJson?_toJson
  have hdocs : d.externalDocs.elim (some none)
      (readOptional ExternalDocs.ofJson? ∘ ExternalDocs.toJson) = some d.externalDocs :=
    readOptional_map (fun e _ => e.ofJson?_toJson) (by simp [ExternalDocs.toJson])
  have hpaths : readAssoc PathItem.ofJson? (ofAssoc PathItem.toJson d.paths) = some d.paths := by
    refine readAssoc_ofAssoc fun e he => PathItem.ofJson?_toJson fun m op hop => ?_
    exact Operation.ofJson?_toJson (h.allSchemas ⟨e.2, he, hop⟩) (h.operations e.1 m op ⟨e.2, he, hop⟩)
  have hcomponents : d.components.value.elim (some {}) Components.ofJson? = some d.components :=
    Components.elim_value fun e he => Schema.ofJson?_toJson (h.schemas e.2 (.component he))
  simp [toJson_eq, entries, ofJson?, source?, asText?, hservers, htags, hdocs, hpaths, hcomponents,
    d.info.ofJson?_toJson]

/-! ### What is read can be stored -/

theorem Schema.yields_storable : Yields ProperTop Schema.ofJson? (Schema.Meets .storable) :=
  fun _ _ hj hread => Schema.meets_of_ofJson? hj hread

theorem yields_single : Yields ProperTop (readOptional readAny)
    fun v => ∀ j ∈ v, Demands.storable.single j :=
  fun j v hj hv a ha => (Yields.readAny j v hj hv a ha).imp_left Json.Proper.finite

theorem Parameter.yields_storable : Yields ProperTop ofJson? fun p =>
    (∀ s ∈ p.schema, s.Meets .storable) ∧ p.Meets .storable := by
  intro j p hj hread
  simp only [ofJson?, Option.bind_eq_bind, Option.bind_eq_some_iff, Option.pure_def,
    Option.some_inj] at hread
  obtain ⟨src, hsrc, -, -, -, -, -, -, -, -, -, -, -, -, -, -, -, -, schema, hschema, value, hvalue,
    rfl⟩ := hread
  have hall := source?_everywhere hj hsrc
  exact ⟨hall.optional Schema.yields_storable.readOptional (by simp) hschema,
    hall.optional yields_single (by simp) hvalue⟩

theorem MediaType.yields_storable : Yields ProperTop ofJson? fun m =>
    m.AllSchemas (Schema.Meets .storable) ∧ m.Meets .storable := by
  intro j m hj hread
  simp only [ofJson?, Option.bind_eq_bind, Option.bind_eq_some_iff, Option.pure_def,
    Option.some_inj] at hread
  obtain ⟨src, hsrc, schema, hschema, value, hvalue, rfl⟩ := hread
  have hall := source?_everywhere hj hsrc
  exact ⟨hall.optional Schema.yields_storable.readOptional (by simp) hschema,
    hall.optional yields_single (by simp) hvalue⟩

/-- Content that is read. -/
theorem yields_content : Yields ProperTop (readAssoc MediaType.ofJson?) fun content =>
    (∀ e ∈ content, e.2.AllSchemas (Schema.Meets .storable)) ∧ ContentMeets .storable content := by
  intro j content hj hread
  have hmedia := MediaType.yields_storable.readAssoc j content hj hread
  exact ⟨fun e he => (hmedia e he).1, fun e he => (hmedia e he).2, trivial⟩

theorem RequestBody.yields_storable : Yields ProperTop ofJson? fun b =>
    (∀ e ∈ b.content, e.2.AllSchemas (Schema.Meets .storable)) ∧
      ContentMeets .storable b.content := by
  intro j b hj hread
  simp only [ofJson?, Option.bind_eq_bind, Option.bind_eq_some_iff, Option.pure_def,
    Option.some_inj] at hread
  obtain ⟨src, hsrc, -, -, -, -, content, hcontent, rfl⟩ := hread
  exact (source?_everywhere hj hsrc).required yields_content hcontent

theorem Header.yields_storable : Yields ProperTop ofJson? fun h =>
    h.AllSchemas (Schema.Meets .storable) := by
  intro j h hj hread
  simp only [ofJson?, Option.bind_eq_bind, Option.bind_eq_some_iff, Option.pure_def,
    Option.some_inj] at hread
  obtain ⟨src, hsrc, -, -, schema, hschema, rfl⟩ := hread
  exact (source?_everywhere hj hsrc).optional Schema.yields_storable.readOptional (by simp) hschema

theorem Response.yields_storable : Yields ProperTop ofJson? fun r =>
    r.AllSchemas (Schema.Meets .storable) ∧ r.Meets .storable := by
  intro j r hj hread
  simp only [ofJson?, Option.bind_eq_bind, Option.bind_eq_some_iff, Option.pure_def,
    Option.some_inj] at hread
  obtain ⟨src, hsrc, -, -, headers, hheaders, content, hcontent, rfl⟩ := hread
  have hall := source?_everywhere hj hsrc
  obtain ⟨hschemas, hmeets⟩ :=
    hall.defaulted yields_content ⟨by simp, by simp, trivial⟩ hcontent
  exact ⟨⟨hschemas, hall.defaulted Header.yields_storable.readAssoc (by simp) hheaders⟩,
    trivial, hmeets⟩

theorem Operation.yields_storable : Yields ProperTop ofJson? fun op =>
    op.AllSchemas (Schema.Meets .storable) ∧ op.Meets .storable := by
  intro j op hj hread
  cases j with
  | obj fields =>
    have hsrc : source? 0 (.obj fields) = some (.named fields) := rfl
    have hall := source?_everywhere hj hsrc
    simp only [ofJson?, Option.bind_eq_bind, Option.bind_eq_some_iff, Option.pure_def,
      Option.some_inj] at hread
    obtain ⟨-, -, -, -, -, -, -, -, parameters, hparameters, body, hbody, responses, hresponses, -, -,
      -, -, rfl⟩ := hread
    have hparameters := hall.defaulted Parameter.yields_storable.readList (by simp) hparameters
    have hbody := hall.optional RequestBody.yields_storable.readOptional (by simp) hbody
    have hresponses := hall.defaulted Response.yields_storable.readAssoc (by simp) hresponses
    refine ⟨⟨fun p hp => (hparameters p hp).1, fun b hb => (hbody b hb).1,
      fun e he => (hresponses e he).1⟩, ?_⟩
    refine ⟨fun p hp => (hparameters p hp).2, fun b hb => (hbody b hb).2,
      fun e he => (hresponses e he).2, trivial, fun _ _ => trivial, fun e he => ?_, fun key hkey => ?_⟩
    · rw [everywhere_obj] at hj
      exact Json.Proper.finite (hj.2 e (List.mem_filter.mp he).1)
    · obtain ⟨e, he, rfl⟩ := List.mem_map.mp hkey
      simpa using (List.mem_filter.mp he).2
  | _ => cases hread

theorem PathItem.yields_storable : Yields ProperTop ofJson? fun item => ∀ m op,
    item.slot m = some op → op.AllSchemas (Schema.Meets .storable) ∧ op.Meets .storable := by
  intro j item hj hread
  simp only [ofJson?, Option.bind_eq_bind, Option.bind_eq_some_iff, Option.pure_def,
    Option.some_inj] at hread
  obtain ⟨src, hsrc, get, hget, put, hput, post, hpost, delete, hdelete, options, hoptions, head,
    hhead, patch, hpatch, trace, htrace, rfl⟩ := hread
  have hall := source?_everywhere hj hsrc
  have hread {position key v} (h : src.optional position key Operation.ofJson? = some v) :
      ∀ op ∈ v, op.AllSchemas (Schema.Meets .storable) ∧ op.Meets .storable :=
    hall.optional Operation.yields_storable.readOptional (by simp) h
  intro m op hop
  cases m with
  | get => exact hread hget op hop
  | put => exact hread hput op hop
  | post => exact hread hpost op hop
  | delete => exact hread hdelete op hop
  | options => exact hread hoptions op hop
  | head => exact hread hhead op hop
  | patch => exact hread hpatch op hop
  | trace => exact hread htrace op hop

theorem Components.yields_storable : Yields ProperTop ofJson? fun c =>
    ∀ e ∈ c.schemas, e.2.Meets .storable := by
  intro j c hj hread
  simp only [ofJson?, Option.bind_eq_bind, Option.bind_eq_some_iff, Option.pure_def,
    Option.some_inj] at hread
  obtain ⟨src, hsrc, schemas, hschemas, -, -, rfl⟩ := hread
  exact (source?_everywhere hj hsrc).defaulted Schema.yields_storable.readAssoc (by simp) hschemas

/-- **A document that is read can be stored.** -/
theorem Document.yields_storable : Yields ProperTop ofJson? (Document.Meets .storable) := by
  intro j d hj hread
  simp only [ofJson?, Option.bind_eq_bind, Option.bind_eq_some_iff, Option.pure_def,
    Option.some_inj] at hread
  obtain ⟨src, hsrc, -, -, -, -, -, -, -, -, paths, hpaths, components, hcomponents, -, -, -, -, rfl⟩ :=
    hread
  have hall := source?_everywhere hj hsrc
  have hpaths := hall.defaulted PathItem.yields_storable.readAssoc (by simp) hpaths
  have hcomponents := hall.defaulted Components.yields_storable (by simp) hcomponents
  refine ⟨fun s hs => ?_, fun path method op => ?_, trivial, trivial, trivial⟩
  · cases hs with
    | carried hop hs =>
      obtain ⟨item, hitem, hslot⟩ := hop
      exact (hpaths _ hitem _ _ hslot).1.carries hs
    | header hop hs =>
      obtain ⟨item, hitem, hslot⟩ := hop
      exact (hpaths _ hitem _ _ hslot).1.hasHeader hs
    | component hs => exact hcomponents _ hs
  · rintro ⟨item, hitem, hslot⟩
    exact (hpaths _ hitem _ _ hslot).2

/-! ### Properties of the tree of a document -/

section Fitting

variable {P : Json → Prop}

theorem ExternalDocs.everywhere_toJson (hP : Lenient P) (d : ExternalDocs) :
    Everywhere P d.toJson := by
  have hrows : d.toJson = .obj (entries [("url", some (.str d.url)),
        ("description", d.description.map .str)]) := by
    simp [toJson, entries, entry]
  exact hP.record hrows (by simp) ⟨everywhere_some (hP.text _), hP.textValue⟩

theorem Contact.everywhere_toJson (hP : Lenient P) (c : Contact) :
    Everywhere P c.toJson := by
  have hrows : c.toJson = .obj (entries [("name", c.name.map .str),
        ("url", c.url.map .str),
        ("email", c.email.map .str)]) := by
    simp [toJson, entries, entry]
  exact hP.record hrows (by simp) ⟨hP.textValue, hP.textValue, hP.textValue⟩

theorem License.everywhere_toJson (hP : Lenient P) (l : License) :
    Everywhere P l.toJson := by
  have hrows : l.toJson = .obj (entries [("name", some (.str l.name)),
        ("url", l.url.map .str),
        ("identifier", l.identifier.map .str)]) := by
    simp [toJson, entries, entry]
  exact hP.record hrows (by simp)
    ⟨everywhere_some (hP.text _), hP.textValue, hP.textValue⟩

theorem Info.everywhere_toJson (hP : Lenient P) (i : Info) :
    Everywhere P i.toJson := by
  have hrows : i.toJson = .obj (entries [("title", some (.str i.title)),
        ("version", some (.str i.version)),
        ("description", i.description.map .str),
        ("summary", i.summary.map .str),
        ("termsOfService", i.termsOfService.map .str),
        ("contact", i.contact.map Contact.toJson),
        ("license", i.license.map License.toJson)]) := by
    simp [toJson, entries, entry]
  exact hP.record hrows (by simp)
    ⟨everywhere_some (hP.text _), everywhere_some (hP.text _), hP.textValue, hP.textValue,
      hP.textValue, everywhere_map fun c _ => c.everywhere_toJson hP,
      everywhere_map fun l _ => l.everywhere_toJson hP⟩

theorem Server.everywhere_toJson (hP : Lenient P) (s : Server) :
    Everywhere P s.toJson := by
  have hrows : s.toJson = .obj (entries [("url", some (.str s.url)),
        ("description", s.description.map .str)]) := by
    simp [toJson, entries, entry]
  exact hP.record hrows (by simp) ⟨everywhere_some (hP.text _), hP.textValue⟩

theorem Tag.everywhere_toJson (hP : Lenient P) (t : Tag) :
    Everywhere P t.toJson := by
  have hrows : t.toJson = .obj (entries [("name", some (.str t.name)),
        ("description", t.description.map .str),
        ("externalDocs", t.externalDocs.map ExternalDocs.toJson)]) := by
    simp [toJson, entries, entry]
  exact hP.record hrows (by simp)
    ⟨everywhere_some (hP.text _), hP.textValue, everywhere_map fun d _ => d.everywhere_toJson hP⟩

theorem SecurityScheme.everywhere_toJson (hP : Lenient P) (s : SecurityScheme) :
    Everywhere P s.toJson := by
  have hrows : s.toJson = .obj (entries [("type", some (.str s.type)),
        ("description", s.description.map .str),
        ("name", s.name.map .str),
        ("in", s.location.map .str),
        ("scheme", s.scheme.map .str),
        ("bearerFormat", s.bearerFormat.map .str)]) := by
    simp [toJson, entries, entry]
  exact hP.record hrows (by simp)
    ⟨everywhere_some (hP.text _), hP.textValue, hP.textValue, hP.textValue, hP.textValue,
      hP.textValue⟩

/-- A schema that may be absent. -/
theorem everywhere_schema (hP : Lenient P) {v : Option Schema}
    (h : ∀ s ∈ v, s.Meets (.fitting P)) : ∀ j ∈ v.map Schema.toJson, Everywhere P j :=
  everywhere_map fun s hs => (h s hs).everywhere_toJson hP

theorem Parameter.everywhere_toJson (hP : Lenient P) {p : Parameter}
    (hschema : ∀ s ∈ p.schema, s.Meets (.fitting P)) (h : p.Meets (.fitting P)) :
    Everywhere P p.toJson := by
  have hrows : p.toJson = .obj (entries [("name", some (.str p.name)),
        ("in", some (.str p.location)),
        ("description", p.description.map .str),
        ("required", some (.bool p.required)),
        ("deprecated", flagValue p.deprecated),
        ("allowEmptyValue", flagValue p.allowEmptyValue),
        ("style", p.style.map .str),
        ("explode", p.explode.map .bool),
        ("schema", p.schema.map Schema.toJson),
        ("example", p.exampleValue)]) := by
    simp [toJson, entries, entry]
  exact hP.record hrows (by simp)
    ⟨everywhere_some (hP.text _), everywhere_some (hP.text _), hP.textValue,
      everywhere_some (hP.truth _), hP.flagValue, hP.flagValue, hP.textValue,
      everywhere_map fun b _ => hP.truth b, everywhere_schema hP hschema, h⟩

theorem MediaType.everywhere_toJson (hP : Lenient P) {m : MediaType}
    (hschema : m.AllSchemas (Schema.Meets (.fitting P))) (h : m.Meets (.fitting P)) :
    Everywhere P m.toJson := by
  have hrows : m.toJson = .obj (entries [("schema", m.schema.map Schema.toJson),
        ("example", m.exampleValue)]) := by
    simp [toJson, entries, entry]
  exact hP.record hrows (by simp) ⟨everywhere_schema hP hschema, h⟩

theorem RequestBody.everywhere_toJson (hP : Lenient P) {b : RequestBody}
    (hschemas : ∀ e ∈ b.content, e.2.AllSchemas (Schema.Meets (.fitting P)))
    (h : ContentMeets (.fitting P) b.content) :
    Everywhere P b.toJson := by
  have hrows : b.toJson = .obj (entries [("description", b.description.map .str),
        ("required", some (.bool b.required)),
        ("content", some (ofAssoc MediaType.toJson b.content))]) := by
    simp [toJson, entries, entry]
  have hmedia : ∀ e ∈ b.content, Everywhere P e.2.toJson :=
    fun e he => MediaType.everywhere_toJson hP (hschemas e he) (h.media e he)
  exact hP.record hrows (by simp)
    ⟨hP.textValue, everywhere_some (hP.truth _), everywhere_some (everywhere_ofAssoc h.types hmedia)⟩

theorem Header.everywhere_toJson (hP : Lenient P) {h : Header}
    (hschema : h.AllSchemas (Schema.Meets (.fitting P))) :
    Everywhere P h.toJson := by
  have hrows : h.toJson = .obj (entries [("description", h.description.map .str),
        ("schema", h.schema.map Schema.toJson)]) := by
    simp [toJson, entries, entry]
  exact hP.record hrows (by simp) ⟨hP.textValue, everywhere_schema hP hschema⟩

theorem Response.everywhere_toJson (hP : Lenient P) {r : Response}
    (hschemas : r.AllSchemas (Schema.Meets (.fitting P))) (h : r.Meets (.fitting P)) :
    Everywhere P r.toJson := by
  have hrows : r.toJson = .obj (entries [("description", some (.str r.description)),
        ("headers", mapValue Header.toJson r.headers),
        ("content", mapValue MediaType.toJson r.content)]) := by
    simp [toJson, entries, entry]
  have hheaders : ∀ e ∈ r.headers, Everywhere P e.2.toJson :=
    fun e he => Header.everywhere_toJson hP (hschemas.headers e he)
  have hmedia : ∀ e ∈ r.content, Everywhere P e.2.toJson :=
    fun e he => MediaType.everywhere_toJson hP (hschemas.content e he) (h.content.media e he)
  exact hP.record hrows (by simp)
    ⟨everywhere_some (hP.text _), everywhere_mapValue h.headers hheaders,
      everywhere_mapValue h.content.types hmedia⟩

theorem Operation.everywhere_toJson (hP : Lenient P) {op : Operation}
    (hschemas : op.AllSchemas (Schema.Meets (.fitting P))) (h : op.Meets (.fitting P)) :
    Everywhere P op.toJson := by
  have hrows : op.ownRows.Forall fun row => ∀ j ∈ row.2, Everywhere P j := by
    refine ⟨hP.listValue fun s _ => hP.text s, hP.textValue, hP.textValue, hP.textValue, ?_, ?_, ?_,
      ?_, hP.flagValue⟩
    · exact hP.listValue fun p hp =>
        Parameter.everywhere_toJson hP (hschemas.parameters p hp) (h.parameters p hp)
    · exact everywhere_map fun b hb =>
        RequestBody.everywhere_toJson hP (hschemas.requestBody b hb) (h.requestBody b hb)
    · exact everywhere_some (everywhere_ofAssoc h.statuses fun e he =>
        Response.everywhere_toJson hP (hschemas.responses e he) (h.responses e he))
    · exact hP.listValue fun r hr => everywhere_ofAssoc (h.security r hr) fun e _ =>
        hP.list fun s _ => hP.text s
  have hkeys : (Assoc.keys (entries op.ownRows)).Sublist fieldNames := keys_entries_sublist op.ownRows
  rw [toJson_eq, everywhere_obj]
  refine ⟨h.names _ hkeys _ (List.map_append ..), fun e he => ?_⟩
  rcases List.mem_append.mp he with he | he
  · exact everywhere_entries (List.forall_iff_forall_mem.mp hrows) e he
  · exact h.extensions e he

theorem PathItem.everywhere_toJson (hP : Lenient P) {item : PathItem}
    (h : ∀ m op, item.slot m = some op → Everywhere P op.toJson) : Everywhere P item.toJson := by
  have hrows : item.toJson = .obj (entries (HttpMethod.all.map fun m =>
      (m.key, (item.slot m).map Operation.toJson))) := by
    simp [toJson, entries, List.flatMap_map]
  have hkeys : (HttpMethod.all.map HttpMethod.key).Nodup := by decide
  refine hP.record hrows ?_ (List.forall_iff_forall_mem.mpr (List.forall_mem_map.mpr fun m _ => ?_))
  · rw [List.map_map]
    exact hkeys
  · exact everywhere_map fun op hop => h m op hop

theorem Components.everywhere_toJson (hP : Lenient P) {c : Components}
    (hschemas : ∀ e ∈ c.schemas, e.2.Meets (.fitting P))
    (hnames : AllowsKeys P (Assoc.keys c.schemas))
    (hsecurity : AllowsKeys P (Assoc.keys c.securitySchemes)) : Everywhere P c.toJson := by
  have hrows : c.toJson = .obj (entries [("schemas", mapValue Schema.toJson c.schemas),
      ("securitySchemes", mapValue SecurityScheme.toJson c.securitySchemes)]) := by
    simp [toJson, entries, entry]
  exact hP.record hrows (by simp)
    ⟨everywhere_mapValue hnames fun e he => (hschemas e he).everywhere_toJson hP,
      everywhere_mapValue hsecurity fun e _ => e.2.everywhere_toJson hP⟩

/-- **What the demands make hold everywhere in the tree of a document.** -/
theorem Document.Meets.everywhere_toJson {d : Document} (hP : Lenient P) (h : d.Meets (.fitting P)) :
    Everywhere P d.toJson := by
  have hpaths : ∀ e ∈ d.paths, Everywhere P e.2.toJson := by
    refine fun e he => PathItem.everywhere_toJson hP fun m op hop => ?_
    exact Operation.everywhere_toJson hP (h.allSchemas ⟨e.2, he, hop⟩)
      (h.operations e.1 m op ⟨e.2, he, hop⟩)
  have hcomponents : ∀ j ∈ d.components.value, Everywhere P j := by
    unfold Components.value
    split
    · simp
    · exact everywhere_some (Components.everywhere_toJson hP
        (fun e he => h.schemas e.2 (.component he)) h.components h.securitySchemes)
  exact hP.record d.toJson_eq (by simp)
    ⟨everywhere_some (hP.text _), hP.textValue, everywhere_some (d.info.everywhere_toJson hP),
      hP.listValue fun s _ => s.everywhere_toJson hP,
      everywhere_some (everywhere_ofAssoc h.paths hpaths), hcomponents,
      hP.listValue fun t _ => t.everywhere_toJson hP,
      everywhere_map fun e _ => e.everywhere_toJson hP⟩

end Fitting

/-! ### Weaker demands -/

/-- Whatever satisfies the first demands satisfies the second ones, but perhaps for the bounds and the
example of a schema. -/
structure Demands.ImpliesApart (D E : Demands) : Prop where
  limit : ∀ n, D.limit n → E.limit n
  single : ∀ v, D.single v → E.single v
  item : ∀ v, D.item v → E.item v
  keys : ∀ keys, D.keys keys → E.keys keys
  schemaNames : ∀ keys, D.names Schema.fieldNames keys → E.names Schema.fieldNames keys
  operationNames : ∀ keys, D.names Operation.fieldNames keys → E.names Operation.fieldNames keys

/-- Whatever satisfies the first demands satisfies the second ones. -/
structure Demands.Implies (D E : Demands) : Prop extends Demands.ImpliesApart D E where
  bound : ∀ x, D.bound x → E.bound x
  sample : ∀ v, D.sample v → E.sample v

section Weakening

variable {D E : Demands}

theorem Facets.Meets.of_apart {f : Facets} (hDE : D.ImpliesApart E) (h : f.Meets D)
    (hbounds : ∀ x ∈ f.bounds, E.bound x) (hsample : ∀ v ∈ f.exampleValue, E.sample v) :
    f.Meets E where
  bounds := hbounds
  limits n hn := hDE.limit n (h.limits n hn)
  default v hv := hDE.single v (h.default v hv)
  constValue v hv := hDE.single v (h.constValue v hv)
  sample := hsample
  enumValues v hv := hDE.item v (h.enumValues v hv)
  extensions e he := hDE.item e.2 (h.extensions e he)
  names := hDE.schemaNames _ h.names

theorem Schema.Meets.of_apart {s : Schema} (hDE : D.ImpliesApart E) (h : s.Meets D)
    (hrest : ∀ t, s.Within t → (∀ x ∈ t.bounds, E.bound x) ∧ ∀ v ∈ t.exampleValue, E.sample v) :
    s.Meets E :=
  fun t ht => ⟨(h t ht).facets.of_apart hDE (hrest t ht).1 (hrest t ht).2,
    hDE.keys _ (h t ht).properties⟩

theorem Schema.Meets.mono {s : Schema} (hDE : D.Implies E) (h : s.Meets D) : s.Meets E := by
  refine h.of_apart hDE.toImpliesApart fun t ht => ⟨fun x hx => ?_, fun v hv => ?_⟩
  · exact hDE.bound x ((h t ht).facets.bounds x hx)
  · exact hDE.sample v ((h t ht).facets.sample v hv)

theorem ContentMeets.mono {content : Assoc MediaType} (hDE : D.ImpliesApart E)
    (h : ContentMeets D content) : ContentMeets E content :=
  ⟨fun e he v hv => hDE.single v (h.media e he v hv), hDE.keys _ h.types⟩

theorem Operation.Meets.mono {op : Operation} (hDE : D.ImpliesApart E) (h : op.Meets D) :
    op.Meets E where
  parameters p hp v hv := hDE.single v (h.parameters p hp v hv)
  requestBody b hb := (h.requestBody b hb).mono hDE
  responses e he := ⟨hDE.keys _ (h.responses e he).headers, (h.responses e he).content.mono hDE⟩
  statuses := hDE.keys _ h.statuses
  security r hr := hDE.keys _ (h.security r hr)
  extensions e he := hDE.item e.2 (h.extensions e he)
  names := hDE.operationNames _ h.names

theorem Operation.AllSchemas.mono {Q R : Schema → Prop} {op : Operation} (hQR : ∀ s, Q s → R s)
    (h : op.AllSchemas Q) : op.AllSchemas R :=
  .of_carries (fun s hs => hQR s (h.carries hs)) fun s hs => hQR s (h.hasHeader hs)

theorem Document.Meets.of_apart {d : Document} (hDE : D.ImpliesApart E) (h : d.Meets D)
    (hschemas : ∀ s, d.Holds s → s.Meets E) : d.Meets E where
  schemas := hschemas
  operations path method op hop := (h.operations path method op hop).mono hDE
  paths := hDE.keys _ h.paths
  components := hDE.keys _ h.components
  securitySchemes := hDE.keys _ h.securitySchemes

theorem Document.Meets.mono {d : Document} (hDE : D.Implies E) (h : d.Meets D) : d.Meets E :=
  h.of_apart hDE.toImpliesApart fun s hs => (h.schemas s hs).mono hDE

end Weakening

/-- What can be stored has finite doubles only. -/
theorem Demands.storable_implies_finite : storable.Implies (.fitting FiniteTop) where
  bound _ hx := hx
  limit _ _ := trivial
  single _ hv := hv.1
  sample _ hv := hv.1
  item _ hv := hv
  keys _ _ _ _ := trivial
  schemaNames _ _ _ _ _ _ := trivial
  operationNames _ _ _ _ _ _ := trivial

/-! ### Stored and read again -/

theorem Schema.written_toJson {s : Schema} (h : s.Meets .storable) : s.toJson.written = s.toJson :=
  written_of_finite
    ((h.mono Demands.storable_implies_finite).everywhere_toJson lenient_finiteTop)

theorem Operation.written_toJson {op : Operation} (hschemas : op.AllSchemas (Schema.Meets .storable))
    (h : op.Meets .storable) : op.toJson.written = op.toJson :=
  written_of_finite (Operation.everywhere_toJson lenient_finiteTop
    (hschemas.mono fun _ hs => hs.mono Demands.storable_implies_finite)
    (h.mono Demands.storable_implies_finite.toImpliesApart))

theorem Document.written_toJson {d : Document} (h : d.Meets .storable) :
    d.toJson.written = d.toJson :=
  written_of_finite
    ((h.mono Demands.storable_implies_finite).everywhere_toJson lenient_finiteTop)

/-- **What is stored can be read again.**  A schema, an operation and a document whose doubles are
finite, whose fields for values of any kind do not hold `null`, and whose extensions do not have the
names of fields, are what is read from what is written of them, with the order of all their maps.
Whatever is read from a tree with proper numbers, as the trees of JSON texts are, is of this kind, so
it is the same when it is written and read once more. -/
theorem read_of_written :
    (∀ s : Schema, s.Meets .storable → Schema.ofJson? s.toJson.written = some s) ∧
    (∀ op : Operation, op.AllSchemas (Schema.Meets .storable) → op.Meets .storable →
      Operation.ofJson? op.toJson.written = some op) ∧
    (∀ d : Document, d.Meets .storable → Document.ofJson? d.toJson.written = some d) ∧
    (∀ text t, Json.read? text = some t → t.Proper) ∧
    ∀ t : Json, t.Proper →
      (∀ s, Schema.ofJson? t = some s →
        s.Meets .storable ∧ Schema.ofJson? s.toJson.written = some s) ∧
      (∀ op, Operation.ofJson? t = some op →
        (op.AllSchemas (Schema.Meets .storable) ∧ op.Meets .storable) ∧
          Operation.ofJson? op.toJson.written = some op) ∧
      ∀ d, Document.ofJson? t = some d →
        d.Meets .storable ∧ Document.ofJson? d.toJson.written = some d := by
  have hschema : ∀ s : Schema, s.Meets .storable → Schema.ofJson? s.toJson.written = some s := by
    intro s h
    rw [Schema.written_toJson h, Schema.ofJson?_toJson h]
  have hoperation : ∀ op : Operation, op.AllSchemas (Schema.Meets .storable) → op.Meets .storable →
      Operation.ofJson? op.toJson.written = some op := by
    intro op hschemas h
    rw [Operation.written_toJson hschemas h, Operation.ofJson?_toJson hschemas h]
  have hdocument : ∀ d : Document, d.Meets .storable →
      Document.ofJson? d.toJson.written = some d := by
    intro d h
    rw [Document.written_toJson h, Document.ofJson?_toJson h]
  refine ⟨hschema, hoperation, hdocument, fun text t => proper_of_read?, fun t ht => ⟨?_, ?_, ?_⟩⟩
  · intro s hs
    have h := Schema.yields_storable t s ht hs
    exact ⟨h, hschema s h⟩
  · intro op hop
    have h := Operation.yields_storable t op ht hop
    exact ⟨h, hoperation op h.1 h.2⟩
  · intro d hd
    have h := Document.yields_storable t d ht hd
    exact ⟨h, hdocument d h⟩

/-- A schema with an extension, in front of its own fields, and a list with an absent default. -/
theorem schema_with_extensions_is_read_again :
    let t : Json := .obj [("x-order", .int 2), ("minimum", .int 3),
      ("items", .obj [("default", .null), ("x-none", .null), ("enum", .arr [.null])])]
    ∃ s, Schema.ofJson? t = some s ∧ s.Meets .storable ∧
      Schema.ofJson? s.toJson.written = some s := by
  intro t
  have hproper : t.Proper := by simp [t, Proper, ProperTop, FiniteTop, WordTop]
  have hread : (Schema.ofJson? t).isSome = true := by decide +kernel
  obtain ⟨s, hs⟩ := Option.isSome_iff_exists.mp hread
  exact ⟨s, hs, (read_of_written.2.2.2.2 t hproper).1 s hs⟩

end AnnotatedApi
