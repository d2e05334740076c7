import AnnotatedApi.Proofs.Directive.Steps

/-!
The shape of operations.

`Operation.WellShaped` says what every operation that a comment describes is like: which fields its
parameters, its body and its responses have, and which extensions there are.  Of a recognised line
it is enough to know that a status is made of digits and that a response has a description
(`wellFormed_of_parse?`).  One such line keeps the shape (`WellShaped.apply`), so all lines of a
comment do.  Main statement: a comment with a directive describes an operation, and that is well
shaped (`described_operation_is_well_shaped`).
-/

namespace AnnotatedApi

open Text Directive

/-- A non-empty text of decimal digits. -/
def IsStatus (s : String) : Prop :=
  s ≠ "" ∧ ∀ c ∈ s.toList, isDecimalDigit c = true

namespace Parameter

/-- An array at a location where the items of an array are written out. -/
def WritesItems (p : Parameter) : Prop :=
  (∃ s, p.schema = some s ∧ s.typeName? = some "array") ∧
    p.location ∈ ["query", "header", "path", "cookie"]

/-- Style and explosion are set together, and exactly where items are written out. -/
structure WellShaped (p : Parameter) : Prop where
  schema : ∃ s, p.schema = some s
  location : p.location ≠ "body"
  description : p.description ≠ some ""
  styled : p.WritesItems → p.style.isSome ∧ p.explode.isSome
  plain : ¬p.WritesItems → p.style = none ∧ p.explode = none

end Parameter

structure RequestBody.WellShaped (body : RequestBody) : Prop where
  content : body.content ≠ []
  schemas : ∀ e ∈ body.content, ∃ s, e.2.schema = some s

/-- All content of a response has one schema. -/
structure Response.WellShaped (response : Response) : Prop where
  description : response.description ≠ ""
  schema : ∃ s, ∀ e ∈ response.content, e.2.schema = some s

structure Operation.WellShaped (op : Operation) : Prop where
  parameters : ∀ p ∈ op.parameters, p.WellShaped
  requestBody : ∀ body, op.requestBody = some body → body.WellShaped
  statuses : ∀ e ∈ op.responses, IsStatus e.1
  responses : ∀ e ∈ op.responses, e.2.WellShaped
  extensions : ∀ e ∈ op.extensions,
    e.1 = "x-state" ∨ e.1 = "x-codeSamples" ∧ ∃ samples, samples ≠ [] ∧ e.2 = .arr samples

/-! ### Recognised lines -/

/-- A run has characters, and all of them are of its class. -/
theorem Directive.of_run? {p : Char → Bool} {cs run rest : List Char}
    (h : run? p cs = some (run, rest)) : run ≠ [] ∧ ∀ c ∈ run, p c = true := by
  simp only [run?] at h
  split at h
  · simp at h
  · next hne =>
    obtain ⟨rfl, rfl⟩ := Prod.mk.inj (Option.some_inj.mp h)
    exact ⟨by simpa using hne, List.all_eq_true.mp List.all_takeWhile⟩

theorem isStatus_of_statusAndWord? {cs rest : List Char} {status word : String}
    (h : statusAndWord? cs = some (status, word, rest)) : IsStatus status := by
  simp only [statusAndWord?, Option.bind_eq_bind, Option.pure_def] at h
  obtain ⟨⟨digits, afterDigits⟩, hdigits, h⟩ := Option.bind_eq_some_iff.mp h
  obtain ⟨⟨letters, afterLetters⟩, -, h⟩ := Option.bind_eq_some_iff.mp h
  obtain ⟨rfl, -, -⟩ := h
  obtain ⟨start, -, hrun⟩ := Option.bind_eq_some_iff.mp hdigits
  obtain ⟨hne, hall⟩ := of_run? hrun
  exact ⟨by simpa using hne, by simpa using hall⟩

theorem responseLine?_wellFormed {cs : List Char} {line : ResponseLine}
    (h : responseLine? cs = some line) : IsStatus line.status ∧ line.description ≠ "" := by
  simp only [responseLine?, Option.bind_eq_bind, Option.pure_def] at h
  obtain ⟨⟨status, kind, rest⟩, hstatus, h⟩ := Option.bind_eq_some_iff.mp h
  obtain ⟨⟨type, afterType⟩, -, h⟩ := Option.bind_eq_some_iff.mp h
  obtain rfl := Option.some_inj.mp h
  refine ⟨isStatus_of_statusAndWord? hstatus, ?_⟩
  dsimp only
  split
  · split
    · decide
    · next hne => simpa using hne
  · decide

theorem headerLine?_wellFormed {cs : List Char} {line : HeaderLine}
    (h : headerLine? cs = some line) : IsStatus line.status := by
  simp only [headerLine?, Option.bind_eq_bind, Option.pure_def] at h
  obtain ⟨⟨status, type, rest⟩, hstatus, h⟩ := Option.bind_eq_some_iff.mp h
  obtain ⟨⟨name, afterName⟩, -, h⟩ := Option.bind_eq_some_iff.mp h
  obtain ⟨⟨description, afterDescription⟩, -, h⟩ := Option.bind_eq_some_iff.mp h
  obtain rfl := Option.some_inj.mp h
  exact isStatus_of_statusAndWord? hstatus

/-- What the form of a line promises about its arguments. -/
def OperationLine.WellFormed : OperationLine → Prop
  | .response _ line => IsStatus line.status ∧ line.description ≠ ""
  | .header line => IsStatus line.status
  | _ => True

theorem OperationLine.wellFormed_of_parse? {text : String} {line : OperationLine}
    (h : parse? text = some line) : line.WellFormed := by
  simp only [parse?] at h
  split at h
  -- Responses and headers start with a status; nothing is asked of the other lines.
  case h_8 | h_9 | h_10 =>
    obtain ⟨arguments, harguments, rfl⟩ := Option.map_eq_some_iff.mp h
    exact responseLine?_wellFormed harguments
  case h_11 =>
    obtain ⟨arguments, harguments, rfl⟩ := Option.map_eq_some_iff.mp h
    exact headerLine?_wellFormed harguments
  case h_13 =>
    split at h
    · obtain rfl := Option.some_inj.mp h
      trivial
    · simp at h
  case h_17 => simp at h
  all_goals
    obtain ⟨arguments, -, rfl⟩ := Option.map_eq_some_iff.mp h
    trivial

/-! ### Parameters -/

namespace Parameter

variable {p : Parameter}

/-- What attributes leave as it is. -/
structure SameUse (p p' : Parameter) : Prop where
  location : p'.location = p.location
  description : p'.description = p.description
  style : p'.style = p.style
  explode : p'.explode = p.explode
  schema : p.schema.isSome → p'.schema.isSome

theorem sameUse_applyAttribute (p : Parameter) (key value : String) :
    p.SameUse (p.applyAttribute key value) := by
  unfold applyAttribute
  split
  -- Two attributes are flags of the parameter itself, and an example is stored beside the schema; all
  -- others are about the schema, which is added if need be.
  case h_1 | h_2 => exact ⟨rfl, rfl, rfl, rfl, id⟩
  case h_19 =>
    dsimp only
    split <;> exact ⟨rfl, rfl, rfl, rfl, fun _ => rfl⟩
  all_goals exact ⟨rfl, rfl, rfl, rfl, fun _ => rfl⟩

theorem sameUse_applyAttributes (p : Parameter) (attributes : List (String × String)) :
    p.SameUse (p.applyAttributes attributes) := by
  unfold applyAttributes
  induction attributes.filter (·.1 != formatKey) generalizing p with
  | nil => exact ⟨rfl, rfl, rfl, rfl, id⟩
  | cons first rest ih =>
    have hfirst := p.sameUse_applyAttribute first.1 first.2
    have hrest := ih (p.applyAttribute first.1 first.2)
    exact ⟨hrest.location.trans hfirst.location, hrest.description.trans hfirst.description,
      hrest.style.trans hfirst.style, hrest.explode.trans hfirst.explode,
      fun h => hrest.schema (hfirst.schema h)⟩

theorem writesItems_iff : p.WritesItems ↔
    ((p.schema.bind (·.typeName?)) == some "array" && takesStyle p.location) = true := by
  simp [WritesItems, takesStyle, Option.bind_eq_some_iff]

/-- The collection format completes a parameter that has neither style nor explosion. -/
theorem wellShaped_applyFormat (format : CollectionFormat) (hschema : p.schema.isSome)
    (hlocation : p.location ≠ "body") (hdescription : p.description ≠ some "")
    (hstyle : p.style = none) (hexplode : p.explode = none) :
    (p.applyFormat format).WellShaped := by
  have hsome : ∃ s, p.schema = some s := Option.isSome_iff_exists.mp hschema
  unfold applyFormat
  split
  · next hwrites =>
    have hitems : p.WritesItems := writesItems_iff.mpr hwrites
    exact ⟨hsome, hlocation, hdescription, fun _ => ⟨rfl, rfl⟩, fun hnot => absurd hitems hnot⟩
  · next hwrites =>
    have hitems : ¬p.WritesItems := fun h => hwrites (writesItems_iff.mp h)
    exact ⟨hsome, hlocation, hdescription, fun h => absurd h hitems, fun _ => ⟨hstyle, hexplode⟩⟩

end Parameter

theorem nonEmpty?_ne_some_empty (s : String) : nonEmpty? s ≠ some "" := by
  unfold nonEmpty?
  split
  · simp
  · next hne =>
    rintro ⟨⟩
    simp at hne

theorem Operation.wellShaped_parameterOf (ctx : OperationContext) {line : ParamLine}
    (hlocation : line.location ≠ "body") : (parameterOf ctx line).WellShaped := by
  have huse := Parameter.sameUse_applyAttributes
    { name := line.name, location := line.location, description := nonEmpty? line.description
      required := line.required, schema := some (ctx.resolver.resolveText line.type) }
    line.attributes
  refine Parameter.wellShaped_applyFormat _ (huse.schema rfl) ?_ ?_ huse.style huse.explode
  · rw [huse.location]
    exact hlocation
  · rw [huse.description]
    exact nonEmpty?_ne_some_empty line.description

/-! ### Contents -/

theorem Operation.wellShaped_responseOf (r : Resolver) {line : ResponseLine}
    (hdescription : line.description ≠ "") : (responseOf r line).WellShaped := by
  unfold responseOf
  split
  · exact ⟨hdescription, r.resolveText line.type, by simp⟩
  · exact ⟨hdescription, .array (r.resolveText line.type), by simp⟩
  · exact ⟨hdescription, {}, by simp⟩

/-! ### One line -/

namespace Operation.WellShaped

variable {ctx : OperationContext} {op : Operation}

theorem addBody (r : Resolver) (line : ParamLine) (h : op.WellShaped) :
    (op.addBody r line).WellShaped := by
  refine { h with requestBody := fun body hbody => ?_ }
  obtain rfl := Option.some_inj.mp hbody
  refine ⟨Assoc.insert_ne_nil _ _ _, fun e he => ?_⟩
  rcases Assoc.mem_insert he with hold | rfl
  · cases hdeclared : op.requestBody with
    | none => simp [hdeclared] at hold
    | some body =>
      rw [hdeclared, Option.getD_some] at hold
      exact (h.requestBody body hdeclared).schemas e hold
  · exact ⟨_, rfl⟩

theorem addParam (ctx : OperationContext) (line : ParamLine) (h : op.WellShaped) :
    (op.addParam ctx line).WellShaped := by
  unfold Operation.addParam
  split
  · exact h.addBody ctx.resolver line
  · next hlocation =>
    refine { h with parameters := fun p hp => ?_ }
    rcases List.mem_append.mp hp with hold | hnew
    · exact h.parameters p hold
    · obtain rfl := List.mem_singleton.mp hnew
      exact wellShaped_parameterOf ctx (by simpa using hlocation)

theorem addHeader (r : Resolver) {line : HeaderLine} (hstatus : IsStatus line.status)
    (h : op.WellShaped) : (op.addHeader r line).WellShaped := by
  have hblank : Response.WellShaped { description := "Response " ++ line.status } :=
    ⟨by simp [← String.toList_inj], {}, by simp⟩
  refine { h with statuses := fun e he => ?_, responses := ?_ }
  · rcases Assoc.mem_insert he with hold | rfl
    · exact h.statuses e hold
    · exact hstatus
  · dsimp only [Operation.addHeader]
    refine Assoc.forall_mem_alter h.responses hblank fun response hresponse => ?_
    exact ⟨hresponse.description, hresponse.schema⟩

theorem addCodeSample (content : ContentStore) (text : String) (h : op.WellShaped) :
    (op.addCodeSample content text).WellShaped := by
  rcases addCodeSample_cases content text op with hsame | ⟨value, hnew, hvalue⟩
  · rwa [hsame]
  · rw [hnew]
    refine { h with extensions := fun e he => ?_ }
    rcases Assoc.mem_insert he with hold | rfl
    · exact h.extensions e hold
    · refine .inr ⟨rfl, ?_⟩
      rcases hvalue with hvalue | ⟨items, language, source, rfl, -⟩
      · -- What stands under the name already is an array with samples.
        have hkey : codeSamplesKey ≠ "x-state" := by decide
        exact ((h.extensions _ (Assoc.mem_of_get? hvalue)).resolve_left hkey).2
      · exact ⟨_, by simp, rfl⟩

/-- One line keeps the shape. -/
theorem apply {line : OperationLine} (hline : line.WellFormed) (h : op.WellShaped) :
    (line.apply ctx op).WellShaped := by
  cases line with
  | accept types =>
    refine { h with requestBody := fun body hbody => ?_ }
    obtain ⟨old, hold, rfl⟩ := Option.map_eq_some_iff.mp hbody
    have hshape := h.requestBody old hold
    exact ⟨retype_ne_nil hshape.content,
      forall_mem_retype (P := fun m => ∃ s, m.schema = some s) types hshape.schemas hshape.schemas⟩
  | produce types =>
    refine { h with statuses := fun e he => ?_, responses := fun e he => ?_ }
    · obtain ⟨old, hold, rfl⟩ := List.mem_map.mp he
      exact h.statuses old hold
    · obtain ⟨old, hold, rfl⟩ := List.mem_map.mp he
      have hshape := h.responses old hold
      obtain ⟨schema, hsame⟩ := hshape.schema
      exact ⟨hshape.description, schema,
        forall_mem_retype (P := fun m => m.schema = schema) types hsame hsame⟩
  | param line => exact h.addParam ctx line
  | response keyword line =>
    refine { h with statuses := fun e he => ?_, responses := ?_ }
    · rcases Assoc.mem_insert he with hold | rfl
      · exact h.statuses e hold
      · exact hline.1
    · exact Assoc.forall_mem_insert h.responses (wellShaped_responseOf ctx.resolver hline.2)
  | header line => exact h.addHeader ctx.resolver hline
  | state text =>
    refine { h with extensions := fun e he => ?_ }
    rcases Assoc.mem_insert he with hold | rfl
    · exact h.extensions e hold
    · exact .inl rfl
  | codeSamples text => exact h.addCodeSample ctx.content text
  | _ => exact { h with }

/-! ### Comments -/

theorem applyComment (doc : CommentGroup) (h : op.WellShaped) :
    (op.applyComment ctx doc).WellShaped :=
  applyComment_induction
    (fun _ _ _ hline hop => hop.apply (OperationLine.wellFormed_of_parse? hline)) doc h

end Operation.WellShaped

theorem Operation.wellShaped_empty : ({} : Operation).WellShaped :=
  ⟨by simp, by simp, by simp, by simp, by simp⟩

/-- **The operation of a comment is well shaped.**  Only a comment without directives has none. -/
theorem Operation.described_operation_is_well_shaped (ctx : OperationContext) (doc : CommentGroup) :
    match ofComment? ctx doc with
    | some op => op.WellShaped
    | none => ∀ line ∈ doc.lines, CommentGroup.isDirective line = false := by
  unfold ofComment?
  by_cases hdoc : doc.directives.isEmpty = true
  · rw [if_pos hdoc]
    intro line hline
    have hnone := List.filter_eq_nil_iff.mp (List.isEmpty_iff.mp hdoc)
    simpa using hnone line hline
  · rw [if_neg hdoc]
    exact wellShaped_empty.applyComment doc

end AnnotatedApi
