import AnnotatedApi.Document.Validity
import AnnotatedApi.Proofs.Document.Schemas
import AnnotatedApi.Proofs.Text

/-!
What the check of a document finds.

`Document.Valid` says what a valid document is, without reference to any order.  The places where
something can be wrong, in the order in which they count, are `Document.checkpoints`, and
`Checkpoint.Fails` says what is wrong at a place.  Main statement: the check accepts exactly the
valid documents, and its error is that of the first checkpoint that fails
(`validate_iff_valid_and_first_problem`).

The way there: the search through a schema is a search through its list of references
(`Schema.refProblem?_eq_findSome?`), the search through a document one through its checkpoints
(`Document.problem?_eq_findSome?`).
-/

namespace AnnotatedApi

open Text

/-! ### Validity -/

/-- The text has a character that is no blank. -/
def HasInk (text : String) : Prop :=
  ∃ c ∈ text.toList, isBlank c = false

/-- A document that says what it is, whose operations all have responses, and whose operations lead
to no reference that does not name a component. -/
structure Document.Valid (d : Document) : Prop where
  title : HasInk d.info.title
  version : HasInk d.info.version
  responses : ∀ path method op, d.Attached path method op → op.responses ≠ []
  references : ∀ path method op s t reference, d.Attached path method op → op.Carries s →
    s.Reaches t → t.reference = some reference → Resolves d.components.schemas reference

/-! ### Checkpoints -/

/-- A place of a document where something can be wrong. -/
inductive Checkpoint where
  | title (text : String)
  | version (text : String)
  | parameter (path reference : String)
  | requestBody (path contentType reference : String)
  | responses (path : String) (method : HttpMethod) (responses : Assoc Response)
  | response (path status contentType reference : String)

/-- The references in the schemas of some media types, each with its content type. -/
def contentReferences (content : Assoc MediaType) : List (String × String) :=
  content.flatMap fun (contentType, media) =>
    (media.schema.toList.flatMap Schema.references).map (contentType, ·)

/-- The checkpoints of an operation: parameters, request body, the presence of responses, responses. -/
def Operation.checkpoints (op : Operation) (path : String) (method : HttpMethod) :
    List Checkpoint :=
  (op.parameters.flatMap fun p =>
    (p.schema.toList.flatMap Schema.references).map (.parameter path ·)) ++
  ((op.requestBody.toList.flatMap fun body =>
    (contentReferences body.content).map fun (contentType, reference) =>
      .requestBody path contentType reference) ++
  (.responses path method op.responses ::
  op.responses.flatMap fun (status, response) =>
    (contentReferences response.content).map fun (contentType, reference) =>
      .response path status contentType reference))

/-- The checkpoints of a document: title, version, then path by path and method by method the
operations. -/
def Document.checkpoints (d : Document) : List Checkpoint :=
  .title d.info.title :: .version d.info.version ::
  d.paths.flatMap fun (path, item) =>
    [HttpMethod.get, .put, .post, .delete, .options, .head, .patch, .trace].flatMap fun method =>
      (item.slot method).toList.flatMap (·.checkpoints path method)

/-- What is wrong with a reference. -/
inductive RefError.Describes (components : Assoc Schema) : RefError → String → Prop
  | malformed {reference : String} : (∀ name, reference ≠ refStart ++ name) →
      Describes components (.malformed reference) reference
  | notFound {name : String} : name ∉ Assoc.keys components →
      Describes components (.notFound name) (refStart ++ name)

/-- What is wrong at a checkpoint. -/
inductive Checkpoint.Fails (components : Assoc Schema) : Checkpoint → ValidationError → Prop
  | title {text : String} : ¬ HasInk text → Fails components (.title text) .missingTitle
  | version {text : String} : ¬ HasInk text → Fails components (.version text) .missingVersion
  | parameter {path reference : String} {cause : RefError} : cause.Describes components reference →
      Fails components (.parameter path reference) (.parameterRef path cause)
  | requestBody {path contentType reference : String} {cause : RefError} :
      cause.Describes components reference →
      Fails components (.requestBody path contentType reference)
        (.requestBodyRef path contentType cause)
  | responses {path : String} {method : HttpMethod} :
      Fails components (.responses path method []) (.noResponses path method)
  | response {path status contentType reference : String} {cause : RefError} :
      cause.Describes components reference →
      Fails components (.response path status contentType reference)
        (.responseRef path status contentType cause)

/-! ### References -/

/-- Searching lists one after another is searching all of them. -/
theorem findSome?_flatMap {α β γ : Type} (f : α → List β) (g : β → Option γ) (l : List α) :
    (l.flatMap f).findSome? g = l.findSome? fun a => (f a).findSome? g := by
  induction l with
  | nil => rfl
  | cons a rest ih =>
    rw [List.flatMap_cons, List.findSome?_append, ih, List.findSome?_cons]
    cases (f a).findSome? g <;> rfl

theorem findSome?_congr {α β : Type} {f g : α → Option β} {l : List α}
    (h : ∀ a ∈ l, f a = g a) : l.findSome? f = l.findSome? g := by
  induction l with
  | nil => rfl
  | cons a rest ih =>
    rw [List.forall_mem_cons] at h
    rw [List.findSome?_cons, List.findSome?_cons, h.1, ih h.2]

theorem findSome?_toList {α β : Type} (f : α → Option β) (o : Option α) :
    o.toList.findSome? f = o.bind f := by
  cases o <;> simp

theorem refProblem?_start_append (components : Assoc Schema) (name : String) :
    refProblem? components (refStart ++ name) =
      if name ∈ Assoc.keys components then none else some (.notFound name) := by
  have hname : componentName? (refStart ++ name) = some name := dropStart?_eq_some_iff.mpr rfl
  rw [refProblem?, hname]
  simp only [Assoc.containsKey_iff]

theorem refProblem?_of_forall_ne (components : Assoc Schema) {reference : String}
    (h : ∀ name, reference ≠ refStart ++ name) :
    refProblem? components reference = some (.malformed reference) := by
  have hname : componentName? reference = none := by
    rw [componentName?, Option.eq_none_iff_forall_ne_some]
    exact fun name heq => h name (dropStart?_eq_some_iff.mp heq)
  rw [refProblem?, hname]

theorem refProblem?_eq_none_iff {components : Assoc Schema} {reference : String} :
    refProblem? components reference = none ↔ Resolves components reference := by
  -- With the common start the rest of the text decides; without it nothing can resolve.
  by_cases h : ∃ name, reference = refStart ++ name
  · obtain ⟨name, rfl⟩ := h
    rw [refProblem?_start_append, ite_eq_left_iff]
    simp [Resolves, String.append_right_inj]
  · rw [not_exists] at h
    rw [refProblem?_of_forall_ne components h]
    refine ⟨fun h' => absurd h' (by simp), ?_⟩
    rintro ⟨name, -, heq⟩
    exact absurd heq (h name)

theorem refProblem?_eq_some_iff {components : Assoc Schema} {reference : String}
    {cause : RefError} :
    refProblem? components reference = some cause ↔ cause.Describes components reference := by
  constructor
  · intro h
    by_cases hstart : ∃ name, reference = refStart ++ name
    · obtain ⟨name, rfl⟩ := hstart
      rw [refProblem?_start_append] at h
      split at h
      · exact absurd h (by simp)
      · next hkey =>
        obtain rfl := Option.some_inj.mp h
        exact .notFound hkey
    · rw [not_exists] at hstart
      rw [refProblem?_of_forall_ne components hstart] at h
      obtain rfl := Option.some_inj.mp h
      exact .malformed hstart
  · rintro (hstart | hkey)
    · exact refProblem?_of_forall_ne components hstart
    · rw [refProblem?_start_append, if_neg hkey]

/-! ### The search through a schema -/

theorem Schema.firstRefProblem?_eq (components : Assoc Schema) (l : List Schema) :
    Schema.firstRefProblem? components l = l.findSome? (Schema.refProblem? components) := by
  induction l with
  | nil => rfl
  | cons s rest ih =>
    rw [Schema.firstRefProblem?, ih, List.findSome?_cons]
    cases s.refProblem? components <;> rfl

/-- The search looks at the schema itself, then goes on to its children. -/
theorem Schema.refProblem?_eq (components : Assoc Schema) (s : Schema) :
    s.refProblem? components =
      (s.reference.bind (AnnotatedApi.refProblem? components)).or
        (s.children.findSome? (Schema.refProblem? components)) := by
  obtain ⟨facets, items, properties, additional, allOf, oneOf, anyOf, excluded⟩ := s
  rcases items with _ | items <;> rcases additional with _ | (_ | values) <;>
    simp only [Schema.refProblem?, Schema.firstRefProblem?_eq, children, additionalSchema?,
      List.findSome?_append, findSome?_toList, Option.bind_some, Option.bind_none]

/-- The search through a schema is a search through its references in order. -/
theorem Schema.refProblem?_eq_findSome? (components : Assoc Schema) (s : Schema) :
    s.refProblem? components = s.references.findSome? (AnnotatedApi.refProblem? components) := by
  induction s using Schema.induction_on_parts with
  | h s ih =>
    rw [Schema.refProblem?_eq, Schema.references_eq, List.findSome?_append, findSome?_toList,
      findSome?_flatMap]
    congr 1
    -- The children are parts, so the induction hypothesis covers them.
    exact findSome?_congr fun t ht => ih t (mem_parts_of_mem_children ht)

/-! ### The search through a document -/

/-- The problem at a checkpoint, if there is one. -/
def Checkpoint.problem? (components : Assoc Schema) : Checkpoint → Option ValidationError
  | .title text => if (trim text).isEmpty then some .missingTitle else none
  | .version text => if (trim text).isEmpty then some .missingVersion else none
  | .parameter path reference => (refProblem? components reference).map (.parameterRef path ·)
  | .requestBody path contentType reference =>
    (refProblem? components reference).map (.requestBodyRef path contentType ·)
  | .responses path method declared =>
    if declared.isEmpty then some (.noResponses path method) else none
  | .response path status contentType reference =>
    (refProblem? components reference).map (.responseRef path status contentType ·)

theorem trim_isEmpty_iff_not_hasInk {text : String} : (trim text).isEmpty = true ↔ ¬ HasInk text := by
  rw [trim_isEmpty_iff, HasInk]
  simp

theorem Checkpoint.problem?_eq_some_iff {components : Assoc Schema} {c : Checkpoint}
    {e : ValidationError} : c.problem? components = some e ↔ c.Fails components e := by
  constructor
  · intro h
    cases c with
    | title text =>
      rw [Checkpoint.problem?, Option.ite_none_right_eq_some, trim_isEmpty_iff_not_hasInk,
        Option.some_inj] at h
      obtain ⟨hink, rfl⟩ := h
      exact .title hink
    | version text =>
      rw [Checkpoint.problem?, Option.ite_none_right_eq_some, trim_isEmpty_iff_not_hasInk,
        Option.some_inj] at h
      obtain ⟨hink, rfl⟩ := h
      exact .version hink
    | parameter path reference =>
      obtain ⟨cause, hcause, rfl⟩ := Option.map_eq_some_iff.mp h
      exact .parameter (refProblem?_eq_some_iff.mp hcause)
    | requestBody path contentType reference =>
      obtain ⟨cause, hcause, rfl⟩ := Option.map_eq_some_iff.mp h
      exact .requestBody (refProblem?_eq_some_iff.mp hcause)
    | responses path method declared =>
      rw [Checkpoint.problem?, Option.ite_none_right_eq_some, List.isEmpty_iff, Option.some_inj] at h
      obtain ⟨rfl, rfl⟩ := h
      exact .responses
    | response path status contentType reference =>
      obtain ⟨cause, hcause, rfl⟩ := Option.map_eq_some_iff.mp h
      exact .response (refProblem?_eq_some_iff.mp hcause)
  · intro h
    cases h with
    | title hink => exact if_pos (trim_isEmpty_iff_not_hasInk.mpr hink)
    | version hink => exact if_pos (trim_isEmpty_iff_not_hasInk.mpr hink)
    | parameter hcause =>
      exact Option.map_eq_some_iff.mpr ⟨_, refProblem?_eq_some_iff.mpr hcause, rfl⟩
    | requestBody hcause =>
      exact Option.map_eq_some_iff.mpr ⟨_, refProblem?_eq_some_iff.mpr hcause, rfl⟩
    | responses => rfl
    | response hcause =>
      exact Option.map_eq_some_iff.mpr ⟨_, refProblem?_eq_some_iff.mpr hcause, rfl⟩

/-- The search through a schema that may be absent, with its finding put into `g`. -/
theorem findSome?_optional_schema {γ : Type} (components : Assoc Schema) (o : Option Schema)
    (g : RefError → γ) :
    (o.toList.flatMap Schema.references).findSome? (fun r => (refProblem? components r).map g) =
      (o.bind (·.refProblem? components)).map g := by
  cases o with
  | none => rfl
  | some s =>
    rw [Option.bind_some, Schema.refProblem?_eq_findSome?, List.map_findSome?]
    simp [Function.comp_def]

/-- The search through contents, with its finding put into `g`. -/
theorem findSome?_contentReferences {γ : Type} (components : Assoc Schema)
    (content : Assoc MediaType) (g : String → RefError → γ) :
    (contentReferences content).findSome?
        (fun (contentType, r) => (refProblem? components r).map (g contentType)) =
      (contentProblem? components content).map fun (contentType, cause) => g contentType cause := by
  rw [contentReferences, findSome?_flatMap, contentProblem?, List.map_findSome?]
  refine findSome?_congr fun ⟨contentType, media⟩ _ => ?_
  rw [List.findSome?_map]
  refine (findSome?_optional_schema components media.schema (g contentType)).trans ?_
  simp [Function.comp_def]

theorem Operation.problem?_eq_findSome? (components : Assoc Schema) (path : String)
    (method : HttpMethod) (op : Operation) :
    op.problem? components path method =
      (op.checkpoints path method).findSome? (Checkpoint.problem? components) := by
  -- Three searches; whether there are responses is asked between the last two.
  have hparameters : (op.parameters.flatMap fun p =>
      (p.schema.toList.flatMap Schema.references).map (Checkpoint.parameter path ·)).findSome?
        (Checkpoint.problem? components) =
      op.parameters.findSome? fun p =>
        (p.schema.bind (·.refProblem? components)).map (ValidationError.parameterRef path ·) := by
    rw [findSome?_flatMap]
    refine findSome?_congr fun p _ => ?_
    rw [List.findSome?_map]
    exact findSome?_optional_schema components p.schema (ValidationError.parameterRef path)
  have hbody : (op.requestBody.toList.flatMap fun body =>
      (contentReferences body.content).map fun (contentType, reference) =>
        Checkpoint.requestBody path contentType reference).findSome?
        (Checkpoint.problem? components) =
      op.requestBody.bind fun body =>
        (contentProblem? components body.content).map fun (contentType, cause) =>
          ValidationError.requestBodyRef path contentType cause := by
    rw [findSome?_flatMap, findSome?_toList]
    refine Option.bind_congr fun body _ => ?_
    rw [List.findSome?_map]
    exact findSome?_contentReferences components body.content (ValidationError.requestBodyRef path)
  have hresponses : (op.responses.flatMap fun (status, response) =>
      (contentReferences response.content).map fun (contentType, reference) =>
        Checkpoint.response path status contentType reference).findSome?
        (Checkpoint.problem? components) =
      op.responses.findSome? fun (status, response) =>
        (contentProblem? components response.content).map fun (contentType, cause) =>
          ValidationError.responseRef path status contentType cause := by
    rw [findSome?_flatMap]
    refine findSome?_congr fun ⟨status, response⟩ _ => ?_
    rw [List.findSome?_map]
    exact findSome?_contentReferences components response.content
      (ValidationError.responseRef path status)
  rw [Operation.problem?, Operation.checkpoints, List.findSome?_append, List.findSome?_append,
    List.findSome?_cons, hparameters, hbody, hresponses, Checkpoint.problem?]
  congr 2
  split <;> rfl

theorem PathItem.findSome?_operations {γ : Type} (item : PathItem)
    (f : HttpMethod → Operation → Option γ) :
    item.operations.findSome? (fun (method, op) => f method op) =
      HttpMethod.all.findSome? fun method => (item.slot method).bind (f method) := by
  rw [PathItem.operations, ← List.head?_filterMap, List.filterMap_filterMap, List.head?_filterMap]
  refine findSome?_congr fun method _ => ?_
  cases item.slot method <;> rfl

theorem Document.problem?_eq (d : Document) :
    d.problem? =
      if (trim d.info.title).isEmpty then some .missingTitle
      else if (trim d.info.version).isEmpty then some .missingVersion
      else d.operations.findSome? fun e => e.2.2.problem? d.components.schemas e.1 e.2.1 := rfl

/-- The search through a document is a search through its checkpoints in order. -/
theorem Document.problem?_eq_findSome? (d : Document) :
    d.problem? = d.checkpoints.findSome? (Checkpoint.problem? d.components.schemas) := by
  -- Both searches go path by path and then slot by slot.
  have hoperations : (d.paths.flatMap fun e =>
      HttpMethod.all.flatMap fun method =>
        (e.2.slot method).toList.flatMap (·.checkpoints e.1 method)).findSome?
        (Checkpoint.problem? d.components.schemas) =
      d.operations.findSome? fun e => e.2.2.problem? d.components.schemas e.1 e.2.1 := by
    rw [findSome?_flatMap, Document.operations, findSome?_flatMap]
    refine findSome?_congr fun e _ => ?_
    obtain ⟨path, item⟩ := e
    rw [findSome?_flatMap, List.findSome?_map]
    refine Eq.trans (findSome?_congr fun method _ => ?_)
      (PathItem.findSome?_operations item
        fun method op => op.problem? d.components.schemas path method).symm
    rw [findSome?_flatMap, findSome?_toList]
    exact Option.bind_congr fun op _ => (Operation.problem?_eq_findSome? _ path method op).symm
  rw [Document.problem?_eq, Document.checkpoints, List.findSome?_cons, List.findSome?_cons,
    Checkpoint.problem?, Checkpoint.problem?, ← hoperations]
  by_cases htitle : (trim d.info.title).isEmpty
  · rw [if_pos htitle, if_pos htitle]
  · rw [if_neg htitle, if_neg htitle]
    by_cases hversion : (trim d.info.version).isEmpty
    · rw [if_pos hversion, if_pos hversion]
    · rw [if_neg hversion, if_neg hversion]
      rfl

/-! ### What the check says -/

/-- Nothing is found in a schema iff every reference that it leads to names a component. -/
theorem Schema.refProblem?_eq_none_iff {components : Assoc Schema} {s : Schema} :
    s.refProblem? components = none ↔
      ∀ t reference, s.Reaches t → t.reference = some reference →
        Resolves components reference := by
  rw [Schema.refProblem?_eq_findSome?, List.findSome?_eq_none_iff]
  simp only [Schema.mem_references, AnnotatedApi.refProblem?_eq_none_iff]
  constructor
  · intro h t reference ht href
    exact h reference ⟨t, ht, href⟩
  · rintro h reference ⟨t, ht, href⟩
    exact h t reference ht href

theorem contentProblem?_eq_none_iff {components : Assoc Schema} {content : Assoc MediaType} :
    contentProblem? components content = none ↔
      ∀ contentType media s, (contentType, media) ∈ content → media.schema = some s →
        s.refProblem? components = none := by
  rw [contentProblem?, List.findSome?_eq_none_iff]
  simp only [Prod.forall, Option.map_eq_none_iff, Option.bind_eq_none_iff]
  constructor
  · intro h contentType media s hmem hs
    exact h contentType media hmem s hs
  · intro h contentType media hmem s hs
    exact h contentType media s hmem hs

theorem Operation.problem?_eq_none_iff {components : Assoc Schema} {path : String}
    {method : HttpMethod} {op : Operation} :
    op.problem? components path method = none ↔
      op.responses ≠ [] ∧ ∀ s, op.Carries s → s.refProblem? components = none := by
  rw [Operation.problem?, Option.or_eq_none_iff, Option.or_eq_none_iff,
    List.findSome?_eq_none_iff, Option.bind_eq_none_iff]
  simp only [Option.map_eq_none_iff, Option.bind_eq_none_iff, contentProblem?_eq_none_iff]
  constructor
  · rintro ⟨hparameters, hbody, hresponses⟩
    -- Without responses the search would have ended with their lack.
    split at hresponses
    · exact absurd hresponses (by simp)
    · next hne =>
      rw [List.findSome?_eq_none_iff] at hresponses
      refine ⟨fun h => hne (List.isEmpty_iff.mpr h), ?_⟩
      rintro s (⟨hp, hs⟩ | ⟨hb, hmem, hs⟩ | ⟨hr, hmem, hs⟩)
      · exact hparameters _ hp s hs
      · exact hbody _ hb _ _ s hmem hs
      · have := Option.map_eq_none_iff.mp (hresponses _ hr)
        exact contentProblem?_eq_none_iff.mp this _ _ s hmem hs
  · rintro ⟨hne, hall⟩
    refine ⟨fun p hp s hs => hall s (.parameter hp hs),
      fun body hb contentType media s hmem hs => hall s (.requestBody hb hmem hs), ?_⟩
    rw [if_neg (by simpa using hne), List.findSome?_eq_none_iff]
    rintro ⟨status, response⟩ hr
    rw [Option.map_eq_none_iff, contentProblem?_eq_none_iff]
    exact fun contentType media s hmem hs => hall s (.response hr hmem hs)

theorem Document.mem_operations {d : Document} {path : String} {method : HttpMethod}
    {op : Operation} : (path, method, op) ∈ d.operations ↔ d.Attached path method op := by
  simp only [Document.operations, PathItem.operations, Document.Attached, List.mem_flatMap,
    List.mem_map, List.mem_filterMap, HttpMethod.mem_all, true_and, Option.map_eq_some_iff,
    Prod.exists, Prod.mk.injEq]
  constructor
  · rintro ⟨_, item, hitem, _, _, ⟨_, _, hslot, rfl, rfl⟩, rfl, rfl, rfl⟩
    exact ⟨item, hitem, hslot⟩
  · rintro ⟨item, hitem, hslot⟩
    exact ⟨path, item, hitem, method, op, ⟨method, op, hslot, rfl, rfl⟩, rfl, rfl, rfl⟩

theorem Document.problem?_eq_none_iff {d : Document} : d.problem? = none ↔ d.Valid := by
  have hops : (d.operations.findSome? fun e =>
      e.2.2.problem? d.components.schemas e.1 e.2.1) = none ↔
      ∀ path method op, d.Attached path method op →
        op.problem? d.components.schemas path method = none := by
    rw [List.findSome?_eq_none_iff]
    simp only [Prod.forall, Document.mem_operations]
  rw [Document.problem?_eq]
  constructor
  · intro h
    split at h
    · exact absurd h (by simp)
    · next htitle =>
      split at h
      · exact absurd h (by simp)
      · next hversion =>
        rw [trim_isEmpty_iff_not_hasInk, not_not] at htitle hversion
        rw [hops] at h
        refine ⟨htitle, hversion, fun path method op hop => ?_,
          fun path method op s t reference hop hs ht href => ?_⟩
        · exact (Operation.problem?_eq_none_iff.mp (h path method op hop)).1
        · have hnone := (Operation.problem?_eq_none_iff.mp (h path method op hop)).2 s hs
          exact Schema.refProblem?_eq_none_iff.mp hnone t reference ht href
  · intro h
    rw [if_neg (by rw [trim_isEmpty_iff_not_hasInk]; exact not_not.mpr h.title),
      if_neg (by rw [trim_isEmpty_iff_not_hasInk]; exact not_not.mpr h.version), hops]
    intro path method op hop
    rw [Operation.problem?_eq_none_iff]
    refine ⟨h.responses path method op hop, fun s hs => ?_⟩
    rw [Schema.refProblem?_eq_none_iff]
    exact fun t reference ht href => h.references path method op s t reference hop hs ht href

theorem Document.validate_eq_ok_iff {d : Document} : d.validate = .ok () ↔ d.problem? = none := by
  rw [Document.validate]
  cases d.problem? <;> simp

theorem Document.validate_eq_error_iff {d : Document} {e : ValidationError} :
    d.validate = .error e ↔ d.problem? = some e := by
  rw [Document.validate]
  cases d.problem? <;> simp

/-! ### References at checkpoints -/

/-- The reference that stands at a checkpoint. -/
def Checkpoint.reference? : Checkpoint → Option String
  | .parameter _ reference => some reference
  | .requestBody _ _ reference => some reference
  | .response _ _ _ reference => some reference
  | _ => none

theorem exists_mem_of_mem_contentReferences {content : Assoc MediaType}
    {e : String × String} (h : e ∈ contentReferences content) :
    ∃ media s, (e.1, media) ∈ content ∧ media.schema = some s ∧ e.2 ∈ s.references := by
  obtain ⟨⟨contentType, media⟩, hmedia, he⟩ := List.mem_flatMap.mp h
  obtain ⟨reference, hreference, rfl⟩ := List.mem_map.mp he
  obtain ⟨s, hs, hreference⟩ := List.mem_flatMap.mp hreference
  exact ⟨media, s, hmedia, Option.mem_toList.mp hs, hreference⟩

/-- A reference at a checkpoint of an operation is one of a schema that the operation carries. -/
theorem Operation.exists_carries_of_mem_checkpoints {op : Operation} {path : String}
    {method : HttpMethod} {c : Checkpoint} {reference : String}
    (hc : c ∈ op.checkpoints path method) (href : c.reference? = some reference) :
    ∃ s, op.Carries s ∧ reference ∈ s.references := by
  simp only [Operation.checkpoints, List.mem_append, List.mem_cons, List.mem_flatMap] at hc
  rcases hc with ⟨p, hp, hc⟩ | ⟨body, hbody, hc⟩ | rfl | ⟨⟨status, response⟩, hresponse, hc⟩
  · obtain ⟨r, ⟨s, hs, hr⟩, rfl⟩ : ∃ r, (∃ s ∈ p.schema.toList, r ∈ s.references) ∧
        Checkpoint.parameter path r = c := by
      simpa only [List.mem_map, List.mem_flatMap] using hc
    obtain rfl : r = reference := Option.some_inj.mp href
    exact ⟨s, .parameter hp (Option.mem_toList.mp hs), hr⟩
  · obtain ⟨⟨contentType, r⟩, hr, rfl⟩ := List.mem_map.mp hc
    obtain rfl : r = reference := Option.some_inj.mp href
    obtain ⟨media, s, hmedia, hs, hr⟩ := exists_mem_of_mem_contentReferences hr
    exact ⟨s, .requestBody (Option.mem_toList.mp hbody) hmedia hs, hr⟩
  · exact absurd href (by simp [Checkpoint.reference?])
  · obtain ⟨⟨contentType, r⟩, hr, rfl⟩ := List.mem_map.mp hc
    obtain rfl : r = reference := Option.some_inj.mp href
    obtain ⟨media, s, hmedia, hs, hr⟩ := exists_mem_of_mem_contentReferences hr
    exact ⟨s, .response hresponse hmedia hs, hr⟩

/-- A reference at a checkpoint stands in the document. -/
theorem Document.mentions_of_mem_checkpoints {d : Document} {c : Checkpoint} {reference : String}
    (hc : c ∈ d.checkpoints) (href : c.reference? = some reference) : d.Mentions reference := by
  simp only [Document.checkpoints, List.mem_cons, List.mem_flatMap] at hc
  rcases hc with rfl | rfl | ⟨⟨path, item⟩, hitem, method, -, op, hop, hc⟩
  · exact absurd href (by simp [Checkpoint.reference?])
  · exact absurd href (by simp [Checkpoint.reference?])
  · obtain ⟨s, hs, hreference⟩ := Operation.exists_carries_of_mem_checkpoints hc href
    obtain ⟨t, ht, hreference⟩ := Schema.mem_references.mp hreference
    have hattached : d.Attached path method op := ⟨item, hitem, Option.mem_toList.mp hop⟩
    exact ⟨s, t, .carried hattached hs, ht.within, hreference⟩

/-- An error about a reference is about one that stands in the document. -/
theorem Document.exists_mentions_of_validate_eq_error {d : Document} {e : ValidationError}
    {cause : RefError} (h : d.validate = .error e) (hcause : e.cause? = some cause) :
    ∃ reference, d.Mentions reference ∧ cause.Describes d.components.schemas reference := by
  rw [Document.validate_eq_error_iff, Document.problem?_eq_findSome?] at h
  obtain ⟨c, hc, hproblem⟩ := List.exists_of_findSome?_eq_some h
  cases Checkpoint.problem?_eq_some_iff.mp hproblem with
  | title | version | responses => exact absurd hcause (by simp [ValidationError.cause?])
  | parameter hdescribes | requestBody hdescribes | response hdescribes =>
    obtain rfl := Option.some_inj.mp hcause
    exact ⟨_, mentions_of_mem_checkpoints hc rfl, hdescribes⟩

/-- **The check is exact, and reports the first problem.**  A document passes iff it is valid; it is
refused with the error of the first checkpoint that fails, when those before it are all fine. -/
theorem validate_iff_valid_and_first_problem (d : Document) :
    (d.validate = .ok () ↔ d.Valid) ∧
    ∀ e, d.validate = .error e ↔
      ∃ before checkpoint after, d.checkpoints = before ++ checkpoint :: after ∧
        checkpoint.Fails d.components.schemas e ∧
        ∀ c ∈ before, ∀ e', ¬ c.Fails d.components.schemas e' := by
  refine ⟨Document.validate_eq_ok_iff.trans Document.problem?_eq_none_iff, fun e => ?_⟩
  rw [Document.validate_eq_error_iff, Document.problem?_eq_findSome?, List.findSome?_eq_some_iff]
  simp only [Checkpoint.problem?_eq_some_iff, Option.eq_none_iff_forall_ne_some, Ne]

end AnnotatedApi
