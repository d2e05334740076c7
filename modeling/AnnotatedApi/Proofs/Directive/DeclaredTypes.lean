import AnnotatedApi.Proofs.Directive.Attributes
import AnnotatedApi.Proofs.Directive.Schemas
import AnnotatedApi.Proofs.Resolution.Replacement
import AnnotatedApi.Proofs.Text

/-!
Defaults and examples of parameters.

A text is coerced to the type that the schema declares, and what comes out is a value of that type
(`hasType_of_coerce?`).  The schema of a type text brings no default along
(`Resolver.default_resolveText`), so the default and the example of a parameter come from its
attributes, and those leave the type alone.  Main statement:
`defaults_and_examples_have_declared_type`.
-/

namespace AnnotatedApi

open Text

/-! ### Values of declared types -/

/-- The value is one that a schema of the type declares.  Without a type, and for a type that is not
listed here, values are texts. -/
def Json.HasType (type : Option String) (v : Json) : Prop :=
  match type.getD "string" with
  | "integer" => ∃ n, v = .int n ∧ -2 ^ 63 ≤ n ∧ n < 2 ^ 63
  | "number" => ∃ x, v = .float x ∧ x.isFinite = true
  | "boolean" => ∃ b, v = .bool b
  | "array" => ∃ items : List String, v = .arr (items.map .str) ∧ ∀ item ∈ items, trim item = item
  | _ => ∃ text, v = .str text ∧ trim text = text

/-- The text spells a value of the type. -/
def SpellsValue (type : Option String) (text : String) : Prop :=
  match type.getD "string" with
  | "integer" => ∃ n, readInt64? text = some n
  | "number" => ∃ x, Decimal.read? text = some x ∧ x.isFinite = true
  | "boolean" => text ∈ ["1", "t", "T", "true", "TRUE", "True"] ∨
      text ∈ ["0", "f", "F", "false", "FALSE", "False"]
  | _ => True

variable {type : Option String} {raw : String}

theorem hasType_of_coerce? {v : Json} (h : coerce? type raw = some v) : v.HasType type := by
  unfold Json.HasType
  dsimp only [coerce?] at h
  generalize type.getD "string" = name at h ⊢
  split at h
  · obtain ⟨n, hn, rfl⟩ := Option.map_eq_some_iff.mp h
    exact ⟨n, rfl, readInt64?_range hn⟩
  · obtain ⟨x, hx, rfl⟩ := Option.map_eq_some_iff.mp h
    exact ⟨x, rfl, (Option.filter_eq_some_iff.mp hx).2⟩
  · obtain ⟨b, -, rfl⟩ := Option.map_eq_some_iff.mp h
    exact ⟨b, rfl⟩
  · obtain rfl := Option.some_inj.mp h
    refine ⟨_, rfl, fun item hitem => ?_⟩
    obtain ⟨piece, -, rfl⟩ := List.mem_map.mp hitem
    exact trim_trim piece
  · obtain rfl := Option.some_inj.mp h
    have htext : ∃ text, Json.str (trim raw) = .str text ∧ trim text = text :=
      ⟨_, rfl, trim_trim raw⟩
    -- Any other name is that of a text.
    simpa [*] using htext

theorem isSome_truth?_iff {s : String} : (truth? s).isSome = true ↔
    s ∈ ["1", "t", "T", "true", "TRUE", "True"] ∨
      s ∈ ["0", "f", "F", "false", "FALSE", "False"] := by
  rw [truth?, ← List.contains_iff_mem, ← List.contains_iff_mem]
  split
  · next h => simp only [Option.isSome_some, h, true_or]
  · next h =>
    split
    · next h' => simp only [Option.isSome_some, h', or_true]
    · next h' => simp only [Option.isSome_none, h, h', or_self, Bool.false_eq_true]

/-- A text is coerced if it spells a value of the type. -/
theorem isSome_coerce?_iff : (coerce? type raw).isSome = true ↔ SpellsValue type (trim raw) := by
  unfold SpellsValue
  dsimp only [coerce?]
  generalize type.getD "string" = name
  split
  · rw [Option.isSome_map, Option.isSome_iff_exists]
    exact Iff.rfl
  · rw [finiteNumber?, Option.isSome_map, Option.isSome_iff_exists]
    simp only [Option.filter_eq_some_iff]
  · rw [Option.isSome_map, isSome_truth?_iff]
    exact Iff.rfl
  · exact ⟨fun _ => trivial, fun _ => rfl⟩
  · simp

/-! ### Resolved types -/

theorem Schema.default_untyped (s : Schema) : s.untyped.default = s.default := rfl

/-- The schema of a type text has no default. -/
theorem Resolver.default_resolveText (r : Resolver) (text : String) :
    (r.resolveText text).default = none := by
  rw [resolveText, ← Schema.default_untyped, untyped_resolve, leftover]
  split
  · rfl
  · split <;> rfl

theorem Schema.same_type_of_skeleton {s s' : Schema} (h : s'.skeleton = s.skeleton) :
    s'.type = s.type ∧ s'.reference = s.reference ∧ s'.items = s.items := by
  have htype := congrArg (fun s : Schema => s.type) h
  have hreference := congrArg (fun s : Schema => s.reference) h
  have hitems := congrArg (fun s : Schema => s.items) h
  exact ⟨htype, hreference, hitems⟩

/-! ### Parameters -/

namespace Parameter

variable {p : Parameter} {s : Schema}

/-- A default or an example that does not spell a value of the type is passed over. -/
theorem applyAttribute_of_not_spellsValue (hs : p.schema = some s) {key value : String}
    (hkey : key = "default" ∨ key = "example") (h : ¬SpellsValue s.typeName? (trim value)) :
    p.applyAttribute key value = p := by
  have hnone : (coerce? s.typeName? value).isSome = false := by
    rw [← Bool.not_eq_true, isSome_coerce?_iff]
    exact h
  refine applyAttribute_of_not_reads hs fun t ht => ?_
  rcases hkey with rfl | rfl
  · cases ht
    exact hnone
  · cases ht
    exact hnone

/-- An attribute leaves the type, the reference and the items of the schema alone. -/
theorem same_type_applyAttribute (p : Parameter) (key value : String) :
    let before := p.schema.getD {}
    let after := (p.applyAttribute key value).schema.getD {}
    after.type = before.type ∧ after.reference = before.reference ∧ after.items = before.items :=
  Schema.same_type_of_skeleton (p.schemaSkeleton_applyAttribute key value)

/-- What the texts of attributes make of the default and of the example. -/
theorem values_withTexts (hs : p.schema = some s) (texts : AttributeTarget → Option String) :
    ∃ s', (p.withTexts texts).schema = some s' ∧ s'.typeName? = s.typeName? ∧
      s'.default = ((texts .defaultValue).bind (coerce? s.typeName?)).or s.default ∧
      (p.withTexts texts).exampleValue =
        ((texts .exampleValue).bind (coerce? s.typeName?)).or p.exampleValue := by
  cases p
  subst hs
  exact ⟨_, rfl, rfl, rfl, rfl⟩

/-- The collection format is about style and explosion only. -/
theorem applyFormat_eq (p : Parameter) (format : CollectionFormat) :
    ∃ style explode, p.applyFormat format = { p with style, explode } := by
  unfold applyFormat
  split
  · exact ⟨_, _, rfl⟩
  · exact ⟨p.style, p.explode, rfl⟩

end Parameter

namespace Operation

open Parameter

variable {ctx : OperationContext} {op : Operation} {line : String} {l : ParamLine}

theorem applyLine_of_param (hline : OperationLine.parse? line = some (.param l))
    (hlocation : l.location ≠ "body") :
    op.applyLine ctx line = { op with parameters := op.parameters ++ [parameterOf ctx l] } := by
  rw [applyLine, hline]
  exact if_neg (by simpa using hlocation)

/-- The default and the example of a parameter are values of the type that its schema declares. -/
theorem hasType_parameterOf (ctx : OperationContext) (l : ParamLine) :
    ∃ s, (parameterOf ctx l).schema = some s ∧
      (∀ v, s.default = some v → v.HasType s.typeName?) ∧
      ∀ v, (parameterOf ctx l).exampleValue = some v → v.HasType s.typeName? := by
  have hbare : (bare ctx.resolver l).schema = some (ctx.resolver.resolveText l.type) := rfl
  -- Neither the resolved type nor the bare parameter has a value, so both values are coerced texts.
  have hcoerced : ∀ {type : Option String} {text : Option String} {v : Json},
      (text.bind (coerce? type)).or none = some v → v.HasType type := by
    intro type text v hv
    rw [Option.or_none] at hv
    obtain ⟨raw, -, hread⟩ := Option.bind_eq_some_iff.mp hv
    exact hasType_of_coerce? hread
  obtain ⟨s, hs, htype, hdefault, hexample⟩ :=
    values_withTexts hbare
      (AttributeTarget.lastText? (ctx.resolver.resolveText l.type).typeName? l.attributes)
  have hnone : (bare ctx.resolver l).exampleValue = none := rfl
  rw [ctx.resolver.default_resolveText] at hdefault
  rw [hnone] at hexample
  obtain ⟨style, explode, hformat⟩ := applyFormat_eq
    ((bare ctx.resolver l).withTexts
      (AttributeTarget.lastText? (ctx.resolver.resolveText l.type).typeName? l.attributes))
    ((collectionFormat? l.attributes).getD ctx.collectionFormat)
  rw [parameterOf_eq_foldl, foldl_applyAttribute_eq hbare, hformat]
  refine ⟨s, hs, ?_, ?_⟩
  · rw [hdefault, htype]
    exact fun v => hcoerced
  · rw [hexample, htype]
    exact fun v => hcoerced

/-- **Defaults and examples of parameters have the declared type.**  The parameter that a line adds
has the type, the reference and the items of its type text whatever its attributes are, and its
default and its example are absent or values of that type.  A text that spells none is passed
over. -/
theorem defaults_and_examples_have_declared_type (ctx : OperationContext) (op : Operation) :
    (∀ (line : String) (l : ParamLine), OperationLine.parse? line = some (.param l) →
      l.location ≠ "body" →
      ∃ (p : Parameter) (s : Schema),
        op.applyLine ctx line = { op with parameters := op.parameters ++ [p] } ∧
        p.schema = some s ∧
        (∀ v, s.default = some v → v.HasType s.typeName?) ∧
        (∀ v, p.exampleValue = some v → v.HasType s.typeName?) ∧
        s.type = (ctx.resolver.resolveText l.type).type ∧
        s.reference = (ctx.resolver.resolveText l.type).reference ∧
        s.items = (ctx.resolver.resolveText l.type).items) ∧
    (∀ (p : Parameter) (s : Schema) (key value : String), p.schema = some s →
      key = "default" ∨ key = "example" → ¬SpellsValue s.typeName? (trim value) →
      p.applyAttribute key value = p) ∧
    ∀ (p : Parameter) (key value : String),
      let before := p.schema.getD {}
      let after := (p.applyAttribute key value).schema.getD {}
      after.type = before.type ∧ after.reference = before.reference ∧ after.items = before.items := by
  refine ⟨fun line l hline hlocation => ?_, fun p s key value hs => ?_, same_type_applyAttribute⟩
  · obtain ⟨s, hs, hdefault, hexample⟩ := hasType_parameterOf ctx l
    exact ⟨parameterOf ctx l, s, applyLine_of_param hline hlocation, hs, hdefault, hexample,
      Schema.same_type_of_skeleton (skeleton_parameterOf hs)⟩
  · exact applyAttribute_of_not_spellsValue hs

/-- A page number with a default that is too large for 64 bits, and an example behind it. -/
theorem page_number_with_oversized_default :
    let line := "@Param page query int false \"Page\" default(9223372036854775808) example( 12 )"
    let l : ParamLine :=
      { name := "page", location := "query", type := "int", required := false, description := "Page"
        attributes := [("default", "9223372036854775808"), ("example", " 12 ")] }
    let page : Parameter := { name := "page", location := "query", schema := some (.typed "integer") }
    OperationLine.parse? line = some (.param l) ∧ l.location ≠ "body" ∧
    (∃ (p : Parameter) (s : Schema),
      applyLine {} {} line = { parameters := [p] } ∧ p.schema = some s ∧
      (∀ v, p.exampleValue = some v → v.HasType s.typeName?) ∧
      s.type = (({} : OperationContext).resolver.resolveText l.type).type) ∧
    ¬SpellsValue (some "integer") (trim "9223372036854775808") ∧
    page.applyAttribute "default" "9223372036854775808" = page := by
  intro line l page
  have hline : OperationLine.parse? line = some (.param l) := by decide +kernel
  have hlocation : l.location ≠ "body" := by decide
  have hspells : ¬SpellsValue (some "integer") (trim "9223372036854775808") := by
    rintro ⟨n, hn⟩
    have hnone : readInt64? (trim "9223372036854775808") = none := by decide +kernel
    rw [hnone] at hn
    cases hn
  obtain ⟨hparameter, huncoerced, -⟩ := defaults_and_examples_have_declared_type {} {}
  obtain ⟨p, s, hop, hs, -, hexample, htype, -, -⟩ := hparameter line l hline hlocation
  exact ⟨hline, hlocation, ⟨p, s, hop, hs, hexample, htype⟩, hspells,
    huncoerced page (.typed "integer") "default" _ rfl (.inl rfl) hspells⟩

end Operation

end AnnotatedApi
