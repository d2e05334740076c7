import AnnotatedApi.Proofs.Assoc
import AnnotatedApi.Proofs.Schema.Skeleton
import AnnotatedApi.Proofs.Text
import AnnotatedApi.StructTag.Rules

/-!
Tags decorate a schema and leave its structure alone.

`Schema.Decorated s s'` says what all parts of a tag have in common: `s'` agrees with `s` on what is
settled, has at least the enum values and the extensions of `s`, and is read-only or write-only where
`s` is.  It is a preorder, so it holds along any list of rules (`decorated_applyRules`) and through
all parts of a tag (`StructTags.decorated_apply`).

The type, the reference and the items are the business of `swaggertype` alone, and only of those
values that name a type (`NamesType`).  Rules and bounds that do not read as numbers can be left out:
the tag without them (`StructTags.legible`) does the same (`StructTags.apply_legible`).  Main statement:
`StructTags.tags_decorate_without_restructuring`.
-/

namespace AnnotatedApi

open Text

/-! ### Decorated schemas -/

namespace Schema

/-- Rebuilding a schema from its fields changes nothing. -/
theorem eta (s : Schema) :
    { s.toFacets with
      items := s.items, properties := s.properties, additional := s.additional
      allOf := s.allOf, oneOf := s.oneOf, anyOf := s.anyOf, excluded := s.excluded } = s := by
  cases s
  rfl

/-- What no part of a tag changes, and nothing else. -/
def settled (s : Schema) : Schema :=
  { title := s.title, description := s.description, constValue := s.constValue
    multipleOf := s.multipleOf, uniqueItems := s.uniqueItems, required := s.required
    maxProperties := s.maxProperties, minProperties := s.minProperties
    nullable := s.nullable, deprecated := s.deprecated
    properties := s.properties, additional := s.additional
    allOf := s.allOf, oneOf := s.oneOf, anyOf := s.anyOf, excluded := s.excluded }

/-- What parts of a tag do not change, or add to without taking anything away. -/
def framed (s : Schema) : Schema :=
  { s.settled with
    enumValues := s.enumValues, extensions := s.extensions
    readOnly := s.readOnly, writeOnly := s.writeOnly }

/-- `s'` is `s` with more decoration. -/
structure Decorated (s s' : Schema) : Prop where
  settled : s'.settled = s.settled
  enumValues : s.enumValues <+: s'.enumValues
  extensions : Assoc.keys s.extensions <+: Assoc.keys s'.extensions
  readOnly : s.readOnly = true → s'.readOnly = true
  writeOnly : s.writeOnly = true → s'.writeOnly = true

namespace Decorated

variable {s s' s'' : Schema}

protected theorem refl (s : Schema) : Decorated s s :=
  ⟨rfl, List.prefix_refl _, List.prefix_refl _, id, id⟩

protected theorem trans (h : Decorated s s') (h' : Decorated s' s'') : Decorated s s'' where
  settled := h'.settled.trans h.settled
  enumValues := h.enumValues.trans h'.enumValues
  extensions := h.extensions.trans h'.extensions
  readOnly hs := h'.readOnly (h.readOnly hs)
  writeOnly hs := h'.writeOnly (h.writeOnly hs)

instance : Trans Decorated Decorated Decorated where
  trans := Decorated.trans

/-- A change of other fields only. -/
theorem of_framed (h : s'.framed = s.framed) : Decorated s s' := by
  have hsettled : s'.settled = s.settled := congrArg (fun u => u.settled) h
  have henum : s'.enumValues = s.enumValues := congrArg (fun u => u.enumValues) h
  have hextensions : s'.extensions = s.extensions := congrArg (fun u => u.extensions) h
  have hreadOnly : s'.readOnly = s.readOnly := congrArg (fun u => u.readOnly) h
  have hwriteOnly : s'.writeOnly = s.writeOnly := congrArg (fun u => u.writeOnly) h
  exact {
    settled := hsettled
    enumValues := henum ▸ List.prefix_refl _
    extensions := hextensions ▸ List.prefix_refl _
    readOnly := fun hs => hreadOnly.trans hs
    writeOnly := fun hs => hwriteOnly.trans hs }

theorem withEnumValues (s : Schema) (values : List Json) :
    Decorated s { s with enumValues := s.enumValues ++ values } :=
  { Decorated.refl s with enumValues := List.prefix_append _ _ }

theorem withExtension (s : Schema) (key : String) (value : Json) :
    Decorated s { s with extensions := Assoc.insert s.extensions key value } := by
  refine { Decorated.refl s with extensions := ?_ }
  show Assoc.keys s.extensions <+: Assoc.keys (Assoc.insert s.extensions key value)
  rw [Assoc.keys_insert]
  split
  · exact List.prefix_refl _
  · exact List.prefix_append _ _

theorem withReadOnly (s : Schema) : Decorated s { s with readOnly := true } :=
  { Decorated.refl s with readOnly := fun _ => rfl }

theorem withWriteOnly (s : Schema) : Decorated s { s with writeOnly := true } :=
  { Decorated.refl s with writeOnly := fun _ => rfl }

/-- Decoration after decoration is decoration. -/
theorem foldl {α : Type} {f : Schema → α → Schema} (h : ∀ s a, Decorated s (f s a)) (l : List α)
    (s : Schema) : Decorated s (l.foldl f s) := by
  induction l generalizing s with
  | nil => exact .refl s
  | cons a rest ih => exact (h s a).trans (ih (f s a))

theorem withPart {part : Option String} {f : String → Schema → Schema}
    (h : ∀ value s, Decorated s (f value s)) (s : Schema) : Decorated s (withPart part f s) := by
  cases part with
  | none => exact .refl s
  | some value => exact h value s

theorem withPart_of_framed {part : Option String} {f : String → Schema → Schema}
    (h : ∀ value s, (f value s).framed = s.framed) (s : Schema) :
    Decorated s (AnnotatedApi.withPart part f s) :=
  withPart (fun value s => of_framed (h value s)) s

theorem ite {flag : Bool} (h : Decorated s s') : Decorated s (if flag then s' else s) := by
  split
  · exact h
  · exact .refl s

end Decorated

end Schema

open Schema (Decorated)

/-! ### Rules -/

theorem decorated_applyBareRule (dialect : RuleDialect) (rule : String) (s : Schema) :
    Decorated s (applyBareRule dialect rule s) := by
  unfold applyBareRule
  split <;> exact .of_framed rfl

theorem decorated_applyBound (b : Bound) (value : String) (s : Schema) :
    Decorated s (applyBound b value s) := by
  unfold applyBound Bound.setLength Bound.setItems Bound.setNumber
  cases b <;> (dsimp only; split <;> exact .of_framed rfl)

theorem decorated_applyValueRule (name value : String) (s : Schema) :
    Decorated s (applyValueRule name value s) := by
  unfold applyValueRule
  split
  · exact decorated_applyBound .lower value s
  · exact decorated_applyBound .upper value s
  · split
    · exact .of_framed rfl
    · exact .refl s
  -- Of all rules only `oneof` touches a list.
  case h_8 => exact .withEnumValues s _
  all_goals exact .of_framed rfl

theorem decorated_applyRule (dialect : RuleDialect) (s : Schema) (rule : String) :
    Decorated s (applyRule dialect s rule) := by
  unfold applyRule
  split
  · exact decorated_applyValueRule _ _ s
  · exact decorated_applyBareRule dialect rule s

theorem decorated_applyRules (dialect : RuleDialect) (rules : String) (s : Schema) :
    Decorated s (applyRules dialect rules s) :=
  .foldl (decorated_applyRule dialect) _ s

/-! ### The other parts of a tag -/

theorem decorated_applySwaggerType (value : String) (s : Schema) :
    Decorated s (applySwaggerType value s) := by
  have hnamed : ∀ name, Decorated s { s.setType name with reference := none } :=
    fun _ => .of_framed rfl
  unfold applySwaggerType
  split
  · split
    · exact hnamed _
    · exact .refl s
  · split
    · exact hnamed _
    · exact .refl s
  · dsimp only
    split
    · exact (hnamed "array").trans (.of_framed rfl)
    · exact hnamed "array"
  · exact .refl s

theorem decorated_applyExtensions (entries : String) (s : Schema) :
    Decorated s (applyExtensions entries s) := by
  refine .foldl (fun s entry => ?_) _ s
  split
  · exact .withExtension s _ _
  · exact .refl s

/-- All parts of a tag together decorate. -/
theorem StructTags.decorated_apply (t : StructTags) (s : Schema) : Decorated s (t.apply s) := by
  unfold StructTags.apply
  extract_lets typed extended exemplified formatted defaulted enumerated bounded₁ bounded₂ bounded₃
    bounded₄ patterned readable writable bound
  -- Examples, formats, defaults, bounds and patterns are outside the frame.
  calc Decorated s typed := .withPart decorated_applySwaggerType s
    Decorated _ extended := .withPart decorated_applyExtensions typed
    Decorated _ exemplified := .withPart_of_framed (by intros; rfl) extended
    Decorated _ formatted := .withPart_of_framed (by intros; rfl) exemplified
    Decorated _ defaulted := .withPart_of_framed (by intros; rfl) formatted
    Decorated _ enumerated := .withPart (fun _ s => .withEnumValues s _) defaulted
    Decorated _ bounded₁ := .withPart_of_framed (by intros; rfl) enumerated
    Decorated _ bounded₂ := .withPart_of_framed (by intros; rfl) bounded₁
    Decorated _ bounded₃ := .withPart_of_framed (by intros; rfl) bounded₂
    Decorated _ bounded₄ := .withPart_of_framed (by intros; rfl) bounded₃
    Decorated _ patterned := .withPart_of_framed (by intros; rfl) bounded₄
    Decorated _ readable := .ite (.withReadOnly patterned)
    Decorated _ writable := .ite (.withWriteOnly readable)
    Decorated _ bound := .withPart (decorated_applyRules .binding) writable
    Decorated _ _ := .withPart (decorated_applyRules .validate) bound

/-! ### The type -/

/-- The values of `swaggertype` that name a type: `t`, `primitive,t` and `array,t`.  An array may have
items of any name, although only those of a known type are then set. -/
def NamesType (value : String) : Prop :=
  (∃ name, commaItems value = [name] ∧
    (isPrimitiveType name = true ∨ name = "object" ∨ name = "array")) ∨
  (∃ name, commaItems value = ["primitive", name] ∧ isPrimitiveType name = true) ∨
  ∃ name, commaItems value = ["array", name]

theorem applySwaggerType_of_not_namesType {value : String} (h : ¬ NamesType value) (s : Schema) :
    applySwaggerType value s = s := by
  unfold applySwaggerType
  split
  · next name hitems =>
    rw [if_neg]
    intro hname
    exact h (.inl ⟨name, hitems, by simpa [or_assoc] using hname⟩)
  · next name hitems =>
    rw [if_neg]
    intro hname
    exact h (.inr (.inl ⟨name, hitems, hname⟩))
  · next name hitems => exact absurd (.inr (.inr ⟨name, hitems⟩)) h
  · rfl

/-- The type, the reference and the items are as they were, unless `swaggertype` names a type. -/
theorem StructTags.type_apply (t : StructTags) (s : Schema) :
    (∃ value, t.swaggerType = some value ∧ NamesType value) ∨
      (t.apply s).type = s.type ∧ (t.apply s).reference = s.reference ∧
        (t.apply s).items = s.items := by
  by_cases hnames : ∃ value, t.swaggerType = some value ∧ NamesType value
  · exact .inl hnames
  have htyped : withPart t.swaggerType applySwaggerType s = s := by
    cases htype : t.swaggerType with
    | none => rfl
    | some value =>
      exact applySwaggerType_of_not_namesType (fun h => hnames ⟨value, htype, h⟩) s
  have hskeleton : (t.apply s).skeleton = s.skeleton := by rw [t.skeleton_apply, htyped]
  exact .inr ⟨congrArg (fun u => u.type) hskeleton, congrArg (fun u => u.reference) hskeleton,
    congrArg (fun u => u.items) hskeleton⟩

/-! ### Texts that do not read as numbers -/

/-- Whether the value of `min` or `max` reads as a number of the kind that the type asks for: texts
and lists are bounded in length. -/
def limitReads (type : Option String) (value : String) : Bool :=
  if type = some "string" ∨ type = some "array" then (readCount? value).isSome
  else (readBound? value).isSome

/-- Whether the value of a rule reads as the number that the rule asks for.  Rules that ask for no
number have nothing to read. -/
def valueReads (type : Option String) (name value : String) : Bool :=
  match name with
  | "min" | "max" => limitReads type value
  | "len" => (readCount? value).isSome
  | "gte" | "lte" | "gt" | "lt" => (readBound? value).isSome
  | _ => true

/-- The same for the text of a rule. -/
def ruleReads (type : Option String) (rule : String) : Bool :=
  match cut '=' rule with
  | some (name, value) => valueReads type name value
  | none => true

/-- The rules whose values read. -/
def legibleRules (type : Option String) (rules : String) : String :=
  join "," ((commaList rules).filter (ruleReads type))

/-- The tag without the bounds and rules that do not read, for a schema of the given type. -/
def StructTags.legible (t : StructTags) (type : Option String) : StructTags :=
  { t with
    minimum := t.minimum.filter fun value => (readBound? value).isSome
    maximum := t.maximum.filter fun value => (readBound? value).isSome
    minLength := t.minLength.filter fun value => (readCount? value).isSome
    maxLength := t.maxLength.filter fun value => (readCount? value).isSome
    binding := t.binding.map (legibleRules type)
    validate := t.validate.map (legibleRules type) }

theorem readCount?_or_of_unread {value : String} (h : (readCount? value).isSome = false)
    (n : Option Nat) : (readCount? value).or n = n := by
  rw [Option.isSome_eq_false_iff, Option.isNone_iff_eq_none] at h
  rw [h, Option.none_or]

theorem readBound?_or_of_unread {value : String} (h : (readBound? value).isSome = false)
    (b : Option Decimal.Binary64) : (readBound? value).or b = b := by
  rw [Option.isSome_eq_false_iff, Option.isNone_iff_eq_none] at h
  rw [h, Option.none_or]

namespace Bound

@[simp] theorem setLength_none (b : Bound) (s : Schema) : b.setLength none s = s := by
  cases b <;> exact s.eta

@[simp] theorem setItems_none (b : Bound) (s : Schema) : b.setItems none s = s := by
  cases b <;> exact s.eta

@[simp] theorem setNumber_none (b : Bound) (s : Schema) : b.setNumber none s = s := by
  cases b <;> exact s.eta

end Bound

/-- A bound that does not read changes nothing. -/
theorem applyBound_of_unread {b : Bound} {value : String} {s : Schema}
    (h : limitReads s.typeName? value = false) : applyBound b value s = s := by
  unfold applyBound
  split
  case h_1 htype =>
    have hunread : readCount? value = none := by simpa [limitReads, htype] using h
    rw [hunread, Bound.setLength_none]
  case h_2 htype =>
    have hunread : readCount? value = none := by simpa [limitReads, htype] using h
    rw [hunread, Bound.setItems_none]
  case h_3 htype | h_4 htype =>
    have hunread : readBound? value = none := by simpa [limitReads, htype] using h
    rw [hunread, Bound.setNumber_none]
  case h_5 => rfl

/-- A rule whose value does not read changes nothing. -/
theorem applyValueRule_of_unread {name value : String} {s : Schema}
    (h : valueReads s.typeName? name value = false) : applyValueRule name value s = s := by
  unfold applyValueRule
  split
  · exact applyBound_of_unread h
  · exact applyBound_of_unread h
  · have hnone : readCount? value = none := by simpa [valueReads] using h
    rw [hnone]
  case h_4 | h_5 | h_6 | h_7 =>
    have hunread : (readBound? value).isSome = false := by simpa [valueReads] using h
    rw [readBound?_or_of_unread hunread]
    exact s.eta
  case h_8 => simp [valueReads] at h
  case h_9 => rfl

theorem applyRule_of_unread {dialect : RuleDialect} {rule : String} {s : Schema}
    (h : ruleReads s.typeName? rule = false) : applyRule dialect s rule = s := by
  cases hcut : cut '=' rule with
  | none =>
    rw [ruleReads, hcut] at h
    cases h
  | some parts =>
    rw [ruleReads, hcut] at h
    rw [applyRule, hcut]
    exact applyValueRule_of_unread h

/-- Steps that change nothing can be left out, if the steps keep what makes them so. -/
theorem foldl_filter_of_idle {σ α : Type} {step : σ → α → σ} {counts : α → Bool} {P : σ → Prop}
    (hstep : ∀ s a, P s → P (step s a)) (hidle : ∀ s a, P s → counts a = false → step s a = s)
    (l : List α) {s : σ} (hs : P s) : (l.filter counts).foldl step s = l.foldl step s := by
  induction l generalizing s with
  | nil => rfl
  | cons a rest ih =>
    rw [List.filter_cons, List.foldl_cons]
    cases hcounts : counts a with
    | true => exact ih (hstep s a hs)
    | false =>
      rw [hidle s a hs hcounts]
      exact ih hs

/-- Rules that do not read can be left out of a list of rules. -/
theorem applyRules_legibleRules (dialect : RuleDialect) (rules : String) (s : Schema) :
    applyRules dialect (legibleRules s.typeName? rules) s = applyRules dialect rules s := by
  have hitems : ∀ rule ∈ (commaList rules).filter (ruleReads s.typeName?), IsItem rule :=
    fun rule hrule => isItem_of_mem_commaList (List.mem_of_mem_filter hrule)
  unfold applyRules legibleRules
  rw [commaList_join hitems]
  -- The rules leave the type alone, so what reads for one of them reads for all.
  refine foldl_filter_of_idle (P := fun u => u.typeName? = s.typeName?) (fun u rule hu => ?_)
    (fun u rule hu hrule => ?_) _ rfl
  · exact (Schema.typeName?_of_skeleton (skeleton_applyRule dialect u rule)).trans hu
  · exact applyRule_of_unread (hu ▸ hrule)

theorem withPart_some (value : String) (f : String → Schema → Schema) (s : Schema) :
    withPart (some value) f s = f value s :=
  rfl

/-- A part that is dropped where its text changes nothing. -/
theorem withPart_filter (part : Option String) {reads : String → Bool}
    {f : String → Schema → Schema} (h : ∀ value s, reads value = false → f value s = s)
    (s : Schema) : withPart (part.filter reads) f s = withPart part f s := by
  cases part with
  | none => rfl
  | some value =>
    cases hreads : reads value with
    | true => rw [Option.filter_some_pos hreads]
    | false =>
      rw [Option.filter_some_neg (by simp [hreads])]
      exact (h value s hreads).symm

/-- The tag without its validation. -/
def StructTags.withoutRules (t : StructTags) : StructTags :=
  { t with binding := none, validate := none }

/-- The two validation tags come last. -/
theorem StructTags.apply_eq_rules (t : StructTags) (s : Schema) :
    t.apply s = withPart t.validate (applyRules .validate)
      (withPart t.binding (applyRules .binding) (t.withoutRules.apply s)) :=
  rfl

/-- The bounds of a tag that do not read can be left out. -/
theorem StructTags.apply_withoutRules_legible (t : StructTags) (type : Option String) (s : Schema) :
    (t.legible type).withoutRules.apply s = t.withoutRules.apply s := by
  unfold apply withoutRules legible
  dsimp only
  rw [withPart_filter t.maxLength, withPart_filter t.minLength, withPart_filter t.maximum,
    withPart_filter t.minimum]
  · intro value s h
    rw [readBound?_or_of_unread h]
    exact s.eta
  · intro value s h
    rw [readBound?_or_of_unread h]
    exact s.eta
  · intro value s h
    rw [readCount?_or_of_unread h]
    exact s.eta
  · intro value s h
    rw [readCount?_or_of_unread h]
    exact s.eta

/-- Rules of a tag that do not read can be left out. -/
theorem withPart_legibleRules (dialect : RuleDialect) (part : Option String) (s : Schema) :
    withPart (part.map (legibleRules s.typeName?)) (applyRules dialect) s =
      withPart part (applyRules dialect) s := by
  cases part with
  | none => rfl
  | some rules => rw [Option.map_some, withPart_some, withPart_some, applyRules_legibleRules]

/-- Bounds and rules that do not read can be left out of a tag. -/
theorem StructTags.apply_legible (t : StructTags) (s : Schema) :
    (t.legible (t.apply s).typeName?).apply s = t.apply s := by
  -- No part of a tag but the first changes the type, so both lists of rules see the final one.
  have hplain : (t.withoutRules.apply s).typeName? = (t.apply s).typeName? :=
    Schema.typeName?_of_skeleton ((skeleton_apply _ s).trans (t.skeleton_apply s).symm)
  have hbound : (withPart t.binding (applyRules .binding) (t.withoutRules.apply s)).typeName? =
      (t.apply s).typeName? :=
    (Schema.typeName?_of_skeleton (skeleton_withPart (skeleton_applyRules .binding) _)).trans hplain
  have hbinding := withPart_legibleRules .binding t.binding (t.withoutRules.apply s)
  have hvalidate := withPart_legibleRules .validate t.validate
    (withPart t.binding (applyRules .binding) (t.withoutRules.apply s))
  rw [hplain] at hbinding
  rw [hbound, ← apply_eq_rules] at hvalidate
  rw [apply_eq_rules, apply_withoutRules_legible]
  show withPart (t.validate.map (legibleRules (t.apply s).typeName?)) (applyRules .validate)
    (withPart (t.binding.map (legibleRules (t.apply s).typeName?)) (applyRules .binding)
      (t.withoutRules.apply s)) = t.apply s
  rw [hbinding, hvalidate]

/-- **Tags decorate a schema and do not restructure it.**  Unless `swaggertype` names a type, the type,
the reference and the items stay as they were, and bounds and rules that do not read do nothing. -/
theorem StructTags.tags_decorate_without_restructuring (tag : String) (s : Schema) :
    let t := parse tag
    let s' := t.apply s
    Decorated s s' ∧
    ((∃ value, tagValue? tag "swaggertype" = some value ∧ NamesType value) ∨
      s'.type = s.type ∧ s'.reference = s.reference ∧ s'.items = s.items) ∧
    (t.legible s'.typeName?).apply s = s' := by
  refine ⟨decorated_apply _ s, ?_, apply_legible _ s⟩
  rcases type_apply (parse tag) s with ⟨value, hvalue, hnames⟩ | hsame
  · exact .inl ⟨value, (Option.filter_eq_some_iff.mp hvalue).1, hnames⟩
  · exact .inr hsame

end AnnotatedApi
