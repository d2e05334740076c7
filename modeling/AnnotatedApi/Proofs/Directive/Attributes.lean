import AnnotatedApi.Directive.Operation
import AnnotatedApi.Proofs.Schema.Skeleton
import Mathlib.Data.List.Induction

/-!
The targets of attributes.

Every attribute of a parameter is about one target (`AttributeTarget.ofKey?`), and it sets it if
its text can be read as a value of the target (`AttributeTarget.text?`).  So all that attributes do
to a parameter can be told from one text for each target: `Parameter.withTexts` says how.  One more
attribute is one more text (`applyAttribute_withTexts`), and after a list of them each target has
the last text that could be read (`foldl_applyAttribute_eq`).  Main statement: attributes of
different targets commute, numbers that do not read are without effect, and only the last attribute
of a target that does read counts (`attributes_act_on_their_targets_only`).
-/

namespace AnnotatedApi

open Text

/-! ### Targets -/

/-- What an attribute of a parameter sets. -/
inductive AttributeTarget where
  | deprecated
  | allowEmptyValue
  | minimum
  | maximum
  | exclusiveMinimum
  | exclusiveMaximum
  | multipleOf
  | minLength
  | maxLength
  | minItems
  | maxItems
  | pattern
  | format
  | uniqueItems
  | readOnly
  | writeOnly
  | nullable
  | enumValues
  | defaultValue
  | exampleValue
deriving DecidableEq, Repr

namespace AttributeTarget

/-- The target of a key.  Three targets have two keys each; other keys have none. -/
def ofKey? : String → Option AttributeTarget
  | "deprecated" => some .deprecated
  | "allowemptyvalue" => some .allowEmptyValue
  | "minimum" | "min" => some .minimum
  | "maximum" | "max" => some .maximum
  | "exclusiveminimum" => some .exclusiveMinimum
  | "exclusivemaximum" => some .exclusiveMaximum
  | "multipleof" => some .multipleOf
  | "minlength" => some .minLength
  | "maxlength" => some .maxLength
  | "minitems" => some .minItems
  | "maxitems" => some .maxItems
  | "pattern" => some .pattern
  | "format" => some .format
  | "uniqueitems" => some .uniqueItems
  | "readonly" => some .readOnly
  | "writeonly" => some .writeOnly
  | "nullable" => some .nullable
  | "enum" | "enums" => some .enumValues
  | "default" => some .defaultValue
  | "example" => some .exampleValue
  | _ => none

/-- Whether a text can be read as a value of the target, for a schema of the given type.  Flags and
texts take any text, and so do lists of allowed values. -/
def reads (type : Option String) (value : String) : AttributeTarget → Bool
  | .minimum | .maximum | .exclusiveMinimum | .exclusiveMaximum | .multipleOf =>
    (readBound? value).isSome
  | .minLength | .maxLength | .minItems | .maxItems => (readCount? value).isSome
  | .defaultValue | .exampleValue => (coerce? type value).isSome
  | _ => true

/-- The text that an attribute gives the target, if the attribute is about it and can be read. -/
def text? (type : Option String) (t : AttributeTarget) (a : String × String) : Option String :=
  if ofKey? a.1 = some t ∧ t.reads type a.2 = true then some a.2 else none

/-- The last text that some attributes give the target. -/
def lastText? (type : Option String) (attributes : List (String × String)) (t : AttributeTarget) :
    Option String :=
  (attributes.filterMap (t.text? type)).getLast?

variable {type : Option String} {t : AttributeTarget} {a b : String × String}

theorem text?_eq_none_of_not_reads
    (h : ∀ t, ofKey? a.1 = some t → t.reads type a.2 = false) : t.text? type a = none := by
  rw [text?, if_neg]
  rintro ⟨hkey, hreads⟩
  rw [h t hkey] at hreads
  cases hreads

theorem lastText?_append_singleton (attributes : List (String × String)) :
    lastText? type (attributes ++ [a]) t = (t.text? type a).or (lastText? type attributes t) := by
  rw [lastText?, lastText?, List.filterMap_append, List.getLast?_append]
  cases htext : t.text? type a with
  | none => rw [List.filterMap_cons_none htext]; rfl
  | some text => rw [List.filterMap_cons_some htext]; rfl

/-- The collection format is no target, so it does not matter whether its attributes are there. -/
theorem lastText?_filter_formatKey (attributes : List (String × String)) :
    lastText? type (attributes.filter (·.1 != Parameter.formatKey)) = lastText? type attributes := by
  funext t
  rw [lastText?, lastText?, List.filterMap_filter]
  congr 2
  funext a
  split
  · rfl
  · next hkey =>
    obtain hkey : a.1 = Parameter.formatKey := by simpa using hkey
    refine (text?_eq_none_of_not_reads fun t ht => ?_).symm
    rw [hkey] at ht
    cases ht

end AttributeTarget

namespace Parameter

open AttributeTarget

variable {p q : Parameter} {s : Schema}

/-! ### One text for each target -/

/-- The parameter after its targets were given these texts.  A target without a text is as before,
and so is one whose text cannot be read. -/
def withTexts (p : Parameter) (texts : AttributeTarget → Option String) : Parameter :=
  let s := p.schema.getD {}
  let isOn := fun (value : String) => trim value == "true"
  { p with
    deprecated := ((texts .deprecated).map isOn).getD p.deprecated
    allowEmptyValue := ((texts .allowEmptyValue).map isOn).getD p.allowEmptyValue
    exampleValue := ((texts .exampleValue).bind (coerce? s.typeName?)).or p.exampleValue
    schema := some { s with
      minimum := ((texts .minimum).bind readBound?).or s.minimum
      maximum := ((texts .maximum).bind readBound?).or s.maximum
      exclusiveMinimum := ((texts .exclusiveMinimum).bind readBound?).or s.exclusiveMinimum
      exclusiveMaximum := ((texts .exclusiveMaximum).bind readBound?).or s.exclusiveMaximum
      multipleOf := ((texts .multipleOf).bind readBound?).or s.multipleOf
      minLength := ((texts .minLength).bind readCount?).or s.minLength
      maxLength := ((texts .maxLength).bind readCount?).or s.maxLength
      minItems := ((texts .minItems).bind readCount?).or s.minItems
      maxItems := ((texts .maxItems).bind readCount?).or s.maxItems
      pattern := (texts .pattern).or s.pattern
      format := (texts .format).or s.format
      uniqueItems := ((texts .uniqueItems).map isOn).getD s.uniqueItems
      readOnly := ((texts .readOnly).map isOn).getD s.readOnly
      writeOnly := ((texts .writeOnly).map isOn).getD s.writeOnly
      nullable := ((texts .nullable).map isOn).getD s.nullable
      enumValues := ((texts .enumValues).map fun value =>
        (splitOn ',' value).map (coerce (enumType? s))).getD s.enumValues
      default := ((texts .defaultValue).bind (coerce? s.typeName?)).or s.default } }

theorem withTexts_none (hs : p.schema = some s) : p.withTexts (fun _ => none) = p := by
  cases p
  cases s
  subst hs
  rfl

/-- **One more attribute is one more text.** -/
theorem applyAttribute_withTexts (p : Parameter) (texts : AttributeTarget → Option String)
    (key value : String) : (p.withTexts texts).applyAttribute key value =
      p.withTexts fun t => (t.text? (p.schema.getD {}).typeName? (key, value)).or (texts t) := by
  unfold applyAttribute
  dsimp only
  -- One case for each key.  On either side all targets but that of the key have their old texts.
  split
  case h_3 | h_4 | h_5 | h_6 | h_7 | h_8 | h_12 =>
    -- A bound is set if it is a number.
    cases hv : readBound? value <;> simp [withTexts, updateSchema, text?, ofKey?, reads, hv]
  case h_9 | h_10 | h_13 | h_14 =>
    -- So is a count.
    cases hv : readCount? value <;> simp [withTexts, updateSchema, text?, ofKey?, reads, hv]
  case h_16 | h_17 =>
    -- Allowed values have the type of the schema or of its items, and those stay.
    have htype : enumType? ((p.withTexts texts).schema.getD {}) = enumType? (p.schema.getD {}) :=
      rfl
    rw [updateSchema, htype]
    simp [withTexts, text?, ofKey?, reads]
  case h_18 =>
    have htype : ((p.withTexts texts).schema.getD {}).typeName? = (p.schema.getD {}).typeName? :=
      rfl
    rw [updateSchema, setDefault, htype]
    cases hv : coerce? (p.schema.getD {}).typeName? value <;>
      simp [withTexts, text?, ofKey?, reads, hv]
  case h_19 =>
    have htype : ((p.withTexts texts).updateSchema id).schema.bind (·.typeName?) =
        (p.schema.getD {}).typeName? := rfl
    rw [htype]
    cases hv : coerce? (p.schema.getD {}).typeName? value <;>
      simp [withTexts, updateSchema, text?, ofKey?, reads, hv]
  all_goals
    -- Flags and texts are set in any case, and an unknown key is the text of no target.
    simp [withTexts, updateSchema, text?, ofKey?, reads]

/-- After many attributes every target has the last text that could be read. -/
theorem foldl_applyAttribute_eq (hs : p.schema = some s) (attributes : List (String × String)) :
    attributes.foldl (fun p a => p.applyAttribute a.1 a.2) p =
      p.withTexts (lastText? s.typeName? attributes) := by
  induction attributes using List.reverseRecOn with
  | nil => exact (withTexts_none hs).symm
  | append_singleton attributes a ih =>
    rw [List.foldl_append, ih, List.foldl_cons, List.foldl_nil, applyAttribute_withTexts, hs,
      Option.getD_some]
    congr 1
    funext t
    exact (lastText?_append_singleton attributes).symm

theorem applyAttributes_eq (hs : p.schema = some s) (attributes : List (String × String)) :
    p.applyAttributes attributes = p.withTexts (lastText? s.typeName? attributes) := by
  rw [applyAttributes, ← lastText?_filter_formatKey]
  exact foldl_applyAttribute_eq hs _

/-- A single attribute. -/
theorem applyAttribute_eq (hs : p.schema = some s) (key value : String) :
    p.applyAttribute key value = p.withTexts fun t => t.text? s.typeName? (key, value) := by
  have hstep := applyAttribute_withTexts p (fun _ => none) key value
  simpa [withTexts_none hs, hs] using hstep

/-- An attribute that cannot be read, or has no target, changes nothing. -/
theorem applyAttribute_of_not_reads (hs : p.schema = some s) {key value : String}
    (h : ∀ t, ofKey? key = some t → t.reads s.typeName? value = false) :
    p.applyAttribute key value = p := by
  have hnone : (fun t : AttributeTarget => t.text? s.typeName? (key, value)) = fun _ => none := by
    funext t
    exact text?_eq_none_of_not_reads h
  rw [applyAttribute_eq hs, hnone, withTexts_none hs]

/-! ### Order -/

/-- Of two attributes with different targets, each target gets at most one of the texts. -/
theorem or_text?_comm {type : Option String} {a b : String × String}
    (hne : ∀ t, ofKey? a.1 = some t → ofKey? b.1 ≠ some t) (t : AttributeTarget) :
    (t.text? type b).or (t.text? type a) = (t.text? type a).or (t.text? type b) := by
  by_cases hkey : ofKey? a.1 = some t
  · have hother : t.text? type b = none := by
      rw [text?, if_neg]
      exact fun h => hne t hkey h.1
    rw [hother, Option.none_or, Option.or_none]
  · have hother : t.text? type a = none := by
      rw [text?, if_neg]
      exact fun h => hkey h.1
    rw [hother, Option.none_or, Option.or_none]

/-- Whether the attribute is about the schema, so that the parameter has one afterwards. -/
def touchesSchema (key : String) : Bool :=
  key != "deprecated" && key != "allowemptyvalue"

theorem isSome_schema_applyAttribute (p : Parameter) (key value : String) :
    (p.applyAttribute key value).schema.isSome = (p.schema.isSome || touchesSchema key) := by
  unfold applyAttribute
  dsimp only
  split
  case h_1 | h_2 => exact (Bool.or_false _).symm
  case h_19 => split <;> simp [updateSchema, touchesSchema]
  all_goals simp_all [updateSchema, touchesSchema]

/-- It makes no difference whether the empty schema is added before an attribute or after it. -/
theorem updateSchema_id_applyAttribute (p : Parameter) (key value : String) :
    (p.updateSchema id).applyAttribute key value =
      (p.applyAttribute key value).updateSchema id := by
  unfold applyAttribute
  dsimp only
  split
  case h_19 =>
    have htwice : (p.updateSchema id).updateSchema id = p.updateSchema id := rfl
    rw [htwice]
    split <;> rfl
  all_goals rfl

theorem updateSchema_id (h : p.schema.isSome = true) : p.updateSchema id = p := by
  obtain ⟨s, hs⟩ := Option.isSome_iff_exists.mp h
  cases p
  subst hs
  rfl

/-- Parameters that differ at most in having a schema at all. -/
theorem eq_of_updateSchema_id (h : p.updateSchema id = q.updateSchema id)
    (hschema : p.schema.isSome = q.schema.isSome) : p = q := by
  cases hp : p.schema with
  | some s =>
    rw [hp, Option.isSome_some] at hschema
    rw [updateSchema_id (by simp [hp]), updateSchema_id hschema.symm] at h
    exact h
  | none =>
    have hq : q.schema = none := by simpa [hp] using hschema.symm
    have hrest := congrArg (fun r : Parameter => { r with schema := none }) h
    cases p
    cases q
    subst hp hq
    exact hrest

theorem applyAttribute_comm (p : Parameter) {key key' : String} (value value' : String)
    (hne : ∀ t, ofKey? key = some t → ofKey? key' ≠ some t) :
    (p.applyAttribute key value).applyAttribute key' value' =
      (p.applyAttribute key' value').applyAttribute key value := by
  have hsome : ∀ {p : Parameter} {s}, p.schema = some s →
      (p.applyAttribute key value).applyAttribute key' value' =
        (p.applyAttribute key' value').applyAttribute key value := by
    intro p s hs
    rw [applyAttribute_eq hs, applyAttribute_eq hs, applyAttribute_withTexts,
      applyAttribute_withTexts, hs, Option.getD_some]
    congr 1
    funext t
    exact or_text?_comm hne t
  -- Without a schema the two orders are compared once an empty one is there.
  refine eq_of_updateSchema_id ?_ ?_
  · simp only [← updateSchema_id_applyAttribute]
    exact hsome rfl
  · simp only [isSome_schema_applyAttribute, Bool.or_assoc]
    rw [Bool.or_comm (touchesSchema key)]

/-! ### Lines -/

/-- The parameter that a line declares, before its attributes are applied. -/
def bare (r : Resolver) (line : ParamLine) : Parameter :=
  { name := line.name, location := line.location, description := nonEmpty? line.description
    required := line.required, schema := some (r.resolveText line.type) }

/-- Attributes act on the bare parameter one after another; style and explosion come last. -/
theorem parameterOf_eq_foldl (ctx : OperationContext) (line : ParamLine) :
    Operation.parameterOf ctx line =
      (line.attributes.foldl (fun p a => p.applyAttribute a.1 a.2)
        (bare ctx.resolver line)).applyFormat
          ((collectionFormat? line.attributes).getD ctx.collectionFormat) := by
  have hbare : (bare ctx.resolver line).schema = some (ctx.resolver.resolveText line.type) := rfl
  rw [foldl_applyAttribute_eq hbare, ← applyAttributes_eq hbare]
  rfl

/-! ### Numbers -/

/-- The keys of attributes that take a number. -/
def boundKeys : List String :=
  ["minimum", "min", "maximum", "max", "exclusiveminimum", "exclusivemaximum", "multipleof"]

/-- The keys of attributes that take a natural number. -/
def countKeys : List String :=
  ["minlength", "maxlength", "minitems", "maxitems"]

theorem reads_of_mem_boundKeys {type : Option String} {key value : String}
    (hkey : key ∈ boundKeys) :
    ∀ t, ofKey? key = some t → t.reads type value = (readBound? value).isSome := by
  revert key
  simp only [boundKeys, List.forall_mem_cons, List.not_mem_nil, false_imp_iff, implies_true,
    and_true]
  and_intros <;> rintro t ⟨⟩ <;> rfl

theorem reads_of_mem_countKeys {type : Option String} {key value : String}
    (hkey : key ∈ countKeys) :
    ∀ t, ofKey? key = some t → t.reads type value = (readCount? value).isSome := by
  revert key
  simp only [countKeys, List.forall_mem_cons, List.not_mem_nil, false_imp_iff, implies_true,
    and_true]
  and_intros <;> rintro t ⟨⟩ <;> rfl

/-- A number that does not read has no effect. -/
theorem applyAttribute_of_no_number (hschema : p.schema.isSome = true) {key value : String}
    (h : key ∈ boundKeys ∧ Decimal.read? (trim value) = none ∨
      key ∈ countKeys ∧ readNat64? (trim value) = none) :
    p.applyAttribute key value = p := by
  obtain ⟨s, hs⟩ := Option.isSome_iff_exists.mp hschema
  refine applyAttribute_of_not_reads hs fun t ht => ?_
  rcases h with ⟨hkey, hnone⟩ | ⟨hkey, hnone⟩
  · rw [reads_of_mem_boundKeys hkey t ht, readBound?, hnone]
    rfl
  · rw [reads_of_mem_countKeys hkey t ht, readCount?, hnone]
    rfl

/-- **Attributes act on their targets only.**  Two attributes without a common target can change
places.  An attribute that takes a number leaves a parameter as it is if its text is none.  So only
the last attribute of each target counts, among those that can be read, and for the parameter of a
whole line the last collection format as well. -/
theorem attributes_act_on_their_targets_only :
    (∀ (p : Parameter) (key value key' value' : String),
      (∀ t, ofKey? key = some t → ofKey? key' ≠ some t) →
      (p.applyAttribute key value).applyAttribute key' value' =
        (p.applyAttribute key' value').applyAttribute key value) ∧
    (∀ (p : Parameter) (key value : String), p.schema.isSome = true →
      (key ∈ boundKeys ∧ Decimal.read? (trim value) = none ∨
        key ∈ countKeys ∧ readNat64? (trim value) = none) →
      p.applyAttribute key value = p) ∧
    (∀ (p : Parameter) (s : Schema) (attributes attributes' : List (String × String)),
      p.schema = some s →
      (∀ t, lastText? s.typeName? attributes t = lastText? s.typeName? attributes' t) →
      p.applyAttributes attributes = p.applyAttributes attributes') ∧
    ∀ (ctx : OperationContext) (line : ParamLine) (attributes : List (String × String)),
      (∀ t, lastText? (ctx.resolver.resolveText line.type).typeName? line.attributes t =
        lastText? (ctx.resolver.resolveText line.type).typeName? attributes t) →
      collectionFormat? line.attributes = collectionFormat? attributes →
      Operation.parameterOf ctx line = Operation.parameterOf ctx { line with attributes } := by
  have hlast : ∀ (p : Parameter) (s : Schema) (attributes attributes' : List (String × String)),
      p.schema = some s →
      (∀ t, lastText? s.typeName? attributes t = lastText? s.typeName? attributes' t) →
      p.applyAttributes attributes = p.applyAttributes attributes' := by
    intro p s attributes attributes' hs hsame
    rw [applyAttributes_eq hs, applyAttributes_eq hs, funext hsame]
  refine ⟨fun p key value key' value' => p.applyAttribute_comm value value',
    fun p key value hschema => applyAttribute_of_no_number hschema, hlast, ?_⟩
  intro ctx line attributes hsame hformat
  rw [Operation.parameterOf, Operation.parameterOf, ← hformat]
  dsimp only
  rw [hlast _ _ _ attributes rfl hsame]

/-- Of a page number, a bound and a default can change places, a length of `-1` is passed over, and
of repeated attributes the last ones that can be read are left. -/
theorem attributes_of_page_number :
    let page : Parameter := { name := "page", location := "query", schema := some (.typed "integer") }
    let written := [("min", "x"), ("default", "7"), ("minimum", " 1 "), ("default", "many")]
    let readable := [("minimum", " 1 "), ("default", "7")]
    let line : ParamLine :=
      { name := "page", location := "query", type := "integer", required := false, description := ""
        attributes := written }
    ((∀ t, ofKey? "min" = some t → ofKey? "default" ≠ some t) ∧
      (page.applyAttribute "min" "1").applyAttribute "default" "7" =
        (page.applyAttribute "default" "7").applyAttribute "min" "1") ∧
    (readNat64? (trim "-1") = none ∧ page.applyAttribute "minlength" "-1" = page) ∧
    ((∀ t, lastText? (some "integer") written t = lastText? (some "integer") readable t) ∧
      page.applyAttributes written = page.applyAttributes readable) ∧
    Operation.parameterOf {} line = Operation.parameterOf {} { line with attributes := readable } := by
  intro page written readable line
  obtain ⟨hcomm, hnumber, hlast, hline⟩ := attributes_act_on_their_targets_only
  have htargets : ∀ t, ofKey? "min" = some t → ofKey? "default" ≠ some t := by
    rintro t ⟨⟩
    decide
  have hnone : readNat64? (trim "-1") = none := by decide
  have hsame : ∀ t,
      lastText? (some "integer") written t = lastText? (some "integer") readable t := by
    intro t
    cases t <;> decide
  have htype : (Resolver.resolveText {} "integer").typeName? = some "integer" := by decide +kernel
  have hformat : collectionFormat? written = collectionFormat? readable := by decide
  have hresolved : ∀ t, lastText? (Resolver.resolveText {} "integer").typeName? written t =
      lastText? (Resolver.resolveText {} "integer").typeName? readable t := by
    rw [htype]
    exact hsame
  exact ⟨⟨htargets, hcomm page "min" "1" "default" "7" htargets⟩,
    ⟨hnone, hnumber page "minlength" "-1" rfl (.inr ⟨by decide, hnone⟩)⟩,
    ⟨hsame, hlast page (.typed "integer") written readable rfl hsame⟩,
    hline {} line readable hresolved hformat⟩

end Parameter

end AnnotatedApi
