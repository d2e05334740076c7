import AnnotatedApi.Directive.Parameter
import AnnotatedApi.Resolution
import AnnotatedApi.Proofs.Schema.Parts

/-!
What decorating a schema leaves alone.

The skeleton of a schema is its reference, its type, its required properties and the schemas inside
it.  Comment lines, validation rules, struct tags other than `swaggertype` and the attributes of
parameters change only what is not in the skeleton.
-/

namespace AnnotatedApi

open Text

namespace Schema

/-- The reference, the type, the required properties and the schemas inside, and nothing else. -/
def skeleton (s : Schema) : Schema :=
  { reference := s.reference, type := s.type, required := s.required
    items := s.items, properties := s.properties, additional := s.additional
    allOf := s.allOf, oneOf := s.oneOf, anyOf := s.anyOf, excluded := s.excluded }

theorem parts_skeleton (s : Schema) : s.skeleton.parts = s.parts := rfl

/-- The type can be told from the skeleton. -/
theorem typeName?_of_skeleton {s s' : Schema} (h : s'.skeleton = s.skeleton) :
    s'.typeName? = s.typeName? := by
  have htype : s'.type = s.type := congrArg (fun u => u.type) h
  rw [typeName?, typeName?, htype]

/-- What can be told from skeletons holds everywhere in schemas with the same skeleton. -/
theorem Everywhere.of_skeleton {P : Schema → Prop} (hP : ∀ s, P s.skeleton ↔ P s) {s s' : Schema}
    (hsame : s'.skeleton = s.skeleton) (h : Everywhere P s) : Everywhere P s' := by
  refine h.congr ?_ fun hs => ?_
  · rw [← parts_skeleton s', hsame, parts_skeleton]
  · rw [← hP, hsame, hP]
    exact hs

end Schema

/-! ### Comment lines -/

theorem skeleton_applyStructLine (s : Schema) (line : String) :
    (applyStructLine s line).skeleton = s.skeleton := by
  unfold applyStructLine
  split
  · rfl
  · rfl
  · rfl
  · split
    · rfl
    · split <;> rfl

theorem skeleton_applyFieldLine (s : Schema) (line : String) :
    (applyFieldLine s line).skeleton = s.skeleton := by
  unfold applyFieldLine
  split
  · rfl
  · rfl
  · split
    · rfl
    · split <;> rfl

/-- A change that keeps the skeleton keeps it when made again and again. -/
theorem skeleton_foldl {α : Type} {f : Schema → α → Schema}
    (h : ∀ s a, (f s a).skeleton = s.skeleton) (l : List α) (s : Schema) :
    (l.foldl f s).skeleton = s.skeleton := by
  induction l generalizing s with
  | nil => rfl
  | cons a rest ih => rw [List.foldl_cons, ih, h]

/-! ### Rules and tags -/

theorem skeleton_applyBareRule (dialect : RuleDialect) (rule : String) (s : Schema) :
    (applyBareRule dialect rule s).skeleton = s.skeleton := by
  unfold applyBareRule
  split <;> rfl

theorem skeleton_applyBound (b : Bound) (value : String) (s : Schema) :
    (applyBound b value s).skeleton = s.skeleton := by
  unfold applyBound Bound.setLength Bound.setItems Bound.setNumber
  cases b <;> (dsimp only; split <;> rfl)

theorem skeleton_applyValueRule (name value : String) (s : Schema) :
    (applyValueRule name value s).skeleton = s.skeleton := by
  unfold applyValueRule
  split
  · exact skeleton_applyBound .lower value s
  · exact skeleton_applyBound .upper value s
  · split <;> rfl
  all_goals rfl

theorem skeleton_applyRule (dialect : RuleDialect) (s : Schema) (rule : String) :
    (applyRule dialect s rule).skeleton = s.skeleton := by
  unfold applyRule
  split
  · exact skeleton_applyValueRule _ _ s
  · exact skeleton_applyBareRule _ _ s

theorem skeleton_applyRules (dialect : RuleDialect) (rules : String) (s : Schema) :
    (applyRules dialect rules s).skeleton = s.skeleton :=
  skeleton_foldl (skeleton_applyRule dialect) _ s

theorem skeleton_applyExtensions (entries : String) (s : Schema) :
    (applyExtensions entries s).skeleton = s.skeleton := by
  refine skeleton_foldl (fun s entry => ?_) _ s
  split <;> rfl

theorem skeleton_withPart {part : Option String} {f : String → Schema → Schema}
    (h : ∀ value s, (f value s).skeleton = s.skeleton) (s : Schema) :
    (withPart part f s).skeleton = s.skeleton := by
  cases part with
  | none => rfl
  | some value => exact h value s

theorem skeleton_ite {flag : Bool} {s s' : Schema} (h : s'.skeleton = s.skeleton) :
    (if flag then s' else s).skeleton = s.skeleton := by
  split
  · exact h
  · rfl

/-- Of a tag only the part that names a type changes the skeleton. -/
theorem StructTags.skeleton_apply (t : StructTags) (s : Schema) :
    (t.apply s).skeleton = (withPart t.swaggerType applySwaggerType s).skeleton := by
  unfold StructTags.apply
  extract_lets typed extended exemplified formatted defaulted enumerated bounded₁ bounded₂ bounded₃
    bounded₄ patterned readable writable bound
  -- One step for each part of the tag, from the last one back to the extensions.
  calc (withPart t.validate (applyRules .validate) bound).skeleton
      = bound.skeleton := skeleton_withPart (skeleton_applyRules .validate) bound
    _ = writable.skeleton := skeleton_withPart (skeleton_applyRules .binding) writable
    _ = readable.skeleton := skeleton_ite rfl
    _ = patterned.skeleton := skeleton_ite rfl
    _ = bounded₄.skeleton := skeleton_withPart (by intros; rfl) bounded₄
    _ = bounded₃.skeleton := skeleton_withPart (by intros; rfl) bounded₃
    _ = bounded₂.skeleton := skeleton_withPart (by intros; rfl) bounded₂
    _ = bounded₁.skeleton := skeleton_withPart (by intros; rfl) bounded₁
    _ = enumerated.skeleton := skeleton_withPart (by intros; rfl) enumerated
    _ = defaulted.skeleton := skeleton_withPart (by intros; rfl) defaulted
    _ = formatted.skeleton := skeleton_withPart (by intros; rfl) formatted
    _ = exemplified.skeleton := skeleton_withPart (by intros; rfl) exemplified
    _ = extended.skeleton := skeleton_withPart (by intros; rfl) extended
    _ = typed.skeleton := skeleton_withPart skeleton_applyExtensions typed

/-- A property that survives the replacement of a type, and that new items do not disturb, holds
everywhere in a schema also after a tag has named its type. -/
theorem Schema.Everywhere.applySwaggerType {P : Schema → Prop}
    (hretyped : ∀ s name, P s → P { s.setType name with reference := none })
    (hitems : ∀ s items, P s → P { s with items := some items }) (htyped : ∀ name, P (.typed name))
    {s : Schema} (h : Everywhere P s) (value : String) :
    Everywhere P (AnnotatedApi.applySwaggerType value s) := by
  have hnamed : ∀ name, Everywhere P { s.setType name with reference := none } :=
    fun name => h.congr (s := s) rfl (hretyped s name)
  unfold AnnotatedApi.applySwaggerType
  split
  · split
    · exact hnamed _
    · exact h
  · split
    · exact hnamed _
    · exact h
  · dsimp only
    split
    · refine (hnamed "array").extend (hitems _ _) fun u hu => ?_
      rcases mem_parts_withItems hu with hold | rfl
      · exact .inl hold
      · exact .inr (everywhere_of_parts_eq_nil rfl (htyped _))
    · exact hnamed "array"
  · exact h

/-- The same for all parts of a tag, if the property can be told from the skeleton. -/
theorem Schema.Everywhere.applyTags {P : Schema → Prop} (hskeleton : ∀ s, P s.skeleton ↔ P s)
    (hretyped : ∀ s name, P s → P { s.setType name with reference := none })
    (hitems : ∀ s items, P s → P { s with items := some items }) (htyped : ∀ name, P (.typed name))
    {s : Schema} (h : Everywhere P s) (tags : StructTags) : Everywhere P (tags.apply s) := by
  refine of_skeleton hskeleton (tags.skeleton_apply s) ?_
  cases tags.swaggerType with
  | none => exact h
  | some value => exact h.applySwaggerType hretyped hitems htyped value

/-! ### Attributes of parameters -/

namespace Parameter

/-- The skeleton of the schema of a parameter; no schema counts as the empty one. -/
def schemaSkeleton (p : Parameter) : Schema :=
  (p.schema.getD {}).skeleton

theorem schemaSkeleton_updateSchema (p : Parameter) {f : Schema → Schema}
    (h : ∀ s, (f s).skeleton = s.skeleton) :
    (p.updateSchema f).schemaSkeleton = p.schemaSkeleton :=
  h _

theorem skeleton_setDefault (value : String) (s : Schema) :
    (setDefault value s).skeleton = s.skeleton := by
  unfold setDefault
  split <;> rfl

theorem schemaSkeleton_applyAttribute (p : Parameter) (key value : String) :
    (p.applyAttribute key value).schemaSkeleton = p.schemaSkeleton := by
  unfold applyAttribute
  split
  case h_1 | h_2 => rfl
  case h_18 => exact p.schemaSkeleton_updateSchema (skeleton_setDefault value)
  case h_19 =>
    -- The example is a field of the parameter; the schema stays as it was.
    have hid := p.schemaSkeleton_updateSchema (f := id) fun _ => rfl
    dsimp only
    split
    · exact hid
    · exact hid
  all_goals exact p.schemaSkeleton_updateSchema fun _ => rfl

theorem schemaSkeleton_applyAttributes (p : Parameter) (attributes : List (String × String)) :
    (p.applyAttributes attributes).schemaSkeleton = p.schemaSkeleton := by
  unfold applyAttributes
  induction attributes.filter (·.1 != formatKey) generalizing p with
  | nil => rfl
  | cons a rest ih => rw [List.foldl_cons, ih, schemaSkeleton_applyAttribute]

theorem schema_applyFormat (p : Parameter) (format : CollectionFormat) :
    (p.applyFormat format).schema = p.schema := by
  unfold applyFormat
  split <;> rfl

end Parameter

end AnnotatedApi
