import AnnotatedApi.Proofs.Json.Reader
import AnnotatedApi.Proofs.Resolution.References
import AnnotatedApi.Proofs.Schema.Encoding
import AnnotatedApi.Proofs.Text

/-!
What decorating a schema brings in.

Comment lines, rules, tags and attributes turn texts into values.  `Demands.sound` collects what is
true of all of them: counts and whole numbers have 64 bits, doubles inside values are finite, no
object repeats a key, and extensions have distinct names that start with `x-`.  A value is never
`null`, except for the example of a struct, and a double among the constraints may be infinite.
-/

namespace AnnotatedApi

open Json Text

/-- What is true of all values that decorations bring in. -/
def Demands.sound : Demands where
  bound _ := True
  limit n := n < 2 ^ 64
  single v := (v.Proper ∧ v.DistinctKeys) ∧ v ≠ .null
  sample v := v.Proper ∧ v.DistinctKeys
  item v := v.Proper ∧ v.DistinctKeys
  keys ks := ks.Nodup
  names _ ks := ks.Nodup ∧ ∀ key ∈ ks, startsWith "x-" key = true

/-! ### Values of texts -/

theorem sound_str (s : String) : Demands.sound.single (.str s) :=
  ⟨⟨everywhere_str.mpr ⟨trivial, trivial⟩, everywhere_str.mpr trivial⟩, by simp⟩

theorem sound_bool (b : Bool) : Demands.sound.single (.bool b) :=
  ⟨⟨everywhere_bool.mpr ⟨trivial, trivial⟩, everywhere_bool.mpr trivial⟩, by simp⟩

theorem sound_strings (l : List String) : Demands.sound.single (.arr (l.map .str)) := by
  refine ⟨⟨everywhere_arr.mpr ⟨⟨trivial, trivial⟩, ?_⟩, everywhere_arr.mpr ⟨trivial, ?_⟩⟩, by simp⟩
  · exact List.forall_mem_map.mpr fun s _ => (sound_str s).1.1
  · exact List.forall_mem_map.mpr fun s _ => (sound_str s).1.2

theorem sound_int {s : String} {n : Int} (h : readInt64? s = some n) :
    Demands.sound.single (.int n) := by
  have hrange : -(2 ^ 63) ≤ n ∧ n < 2 ^ 64 := by
    have := readInt64?_range h
    omega
  exact ⟨⟨everywhere_int.mpr ⟨trivial, hrange⟩, everywhere_int.mpr trivial⟩, by simp⟩

theorem sound_of_finiteNumber? {s : String} {v : Json} (h : finiteNumber? s = some v) :
    Demands.sound.single v := by
  obtain ⟨x, hx, rfl⟩ := Option.map_eq_some_iff.mp h
  have hfinite : x.isFinite = true := (Option.filter_eq_some_iff.mp hx).2
  exact ⟨⟨everywhere_float.mpr ⟨hfinite, trivial⟩, everywhere_float.mpr trivial⟩, by simp⟩

/-- A text as a value of a type. -/
theorem sound_of_coerce? {type : Option String} {raw : String} {v : Json}
    (h : coerce? type raw = some v) : Demands.sound.single v := by
  simp only [coerce?] at h
  split at h
  · obtain ⟨n, hn, rfl⟩ := Option.map_eq_some_iff.mp h
    exact sound_int hn
  · exact sound_of_finiteNumber? h
  · obtain ⟨b, -, rfl⟩ := Option.map_eq_some_iff.mp h
    exact sound_bool b
  · cases h
    exact sound_strings _
  · cases h
    exact sound_str _

theorem sound_coerce (type : Option String) (raw : String) :
    Demands.sound.single (coerce type raw) := by
  unfold coerce
  cases h : coerce? type raw with
  | none => exact sound_str _
  | some v => exact sound_of_coerce? h

theorem sound_extensionValue (value : String) : Demands.sound.item (extensionValue value) := by
  unfold extensionValue
  split
  · next hn => exact (sound_int hn).1
  · split
    · next hx => exact (sound_of_finiteNumber? hx).1
    · split
      · exact (sound_bool true).1
      · exact (sound_bool false).1
      · exact (sound_str _).1

/-- The example of a struct: a JSON text in order, or else the text itself. -/
theorem sound_structExample (value : String) :
    Demands.sound.sample (((Json.read? value).map Json.sorted).getD (.str value)) := by
  cases h : Json.read? value with
  | none => exact (sound_str value).1
  | some j => exact ⟨proper_sorted (proper_of_read? h), distinctKeys_sorted j⟩

theorem readCount?_lt {s : String} {n : Nat} (h : readCount? s = some n) : n < 2 ^ 64 :=
  natural?_lt h

/-- A count that is read, or else the one that was there. -/
theorem forall_mem_or {α : Type} {P : α → Prop} {v w : Option α} (hv : ∀ a, v = some a → P a)
    (hw : ∀ a ∈ w, P a) : ∀ a ∈ v.or w, P a := by
  intro a ha
  rcases Option.or_eq_some_iff.mp ha with h | ⟨-, h⟩
  · exact hv a h
  · exact hw a h

/-- One more extension. -/
theorem sound_names_insert {fields : List String} {extensions : Assoc Json}
    (h : Demands.sound.names fields (Assoc.keys extensions)) {key : String} {value : Json}
    (hkey : startsWith "x-" key = true) :
    Demands.sound.names fields (Assoc.keys (Assoc.insert extensions key value)) := by
  refine ⟨Assoc.nodup_keys_insert _ _ _ h.1, fun k hk => ?_⟩
  obtain ⟨e, he, rfl⟩ := List.mem_map.mp hk
  rcases Assoc.mem_insert he with hold | rfl
  · exact h.2 e.1 (List.mem_map_of_mem hold)
  · exact hkey

/-! ### Single constraints -/

namespace Facets.Meets

variable {f : Facets} (h : f.Meets .sound)

include h

theorem withMaxLength {v : Option Nat} (hv : ∀ n, v = some n → n < 2 ^ 64) :
    Meets .sound { f with maxLength := v.or f.maxLength } :=
  have hlimits := forall_mem_limits.mp h.limits
  { h with limits := forall_mem_limits.mpr ⟨forall_mem_or hv hlimits.1, hlimits.2⟩ }

theorem withMinLength {v : Option Nat} (hv : ∀ n, v = some n → n < 2 ^ 64) :
    Meets .sound { f with minLength := v.or f.minLength } :=
  have ⟨hmaxLength, hminLength, hrest⟩ := forall_mem_limits.mp h.limits
  { h with limits := forall_mem_limits.mpr ⟨hmaxLength, forall_mem_or hv hminLength, hrest⟩ }

theorem withMaxItems {v : Option Nat} (hv : ∀ n, v = some n → n < 2 ^ 64) :
    Meets .sound { f with maxItems := v.or f.maxItems } :=
  have ⟨hmaxLength, hminLength, hmaxItems, hrest⟩ := forall_mem_limits.mp h.limits
  { h with limits :=
      forall_mem_limits.mpr ⟨hmaxLength, hminLength, forall_mem_or hv hmaxItems, hrest⟩ }

theorem withMinItems {v : Option Nat} (hv : ∀ n, v = some n → n < 2 ^ 64) :
    Meets .sound { f with minItems := v.or f.minItems } :=
  have ⟨hmaxLength, hminLength, hmaxItems, hminItems, hrest⟩ := forall_mem_limits.mp h.limits
  { h with limits :=
      forall_mem_limits.mpr ⟨hmaxLength, hminLength, hmaxItems, forall_mem_or hv hminItems, hrest⟩ }

/-- Nothing is asked of bounds. -/
theorem withBounds (multipleOf maximum exclusiveMaximum minimum exclusiveMinimum :
      Option Decimal.Binary64) :
    Meets .sound
      { f with multipleOf, maximum, exclusiveMaximum, minimum, exclusiveMinimum } :=
  { h with bounds := fun _ _ => trivial }

/-- Constraints without values: a format, a pattern and flags. -/
theorem withMarks (format pattern : Option String) (uniqueItems readOnly writeOnly nullable : Bool) :
    Meets .sound { f with format, pattern, uniqueItems, readOnly, writeOnly, nullable } :=
  { h with }

theorem withDefault {v : Json} (hv : Demands.sound.single v) :
    Meets .sound { f with default := some v } :=
  { h with default := fun _ ha => Option.some_inj.mp ha ▸ hv }

theorem withExample {v : Json} (hv : Demands.sound.sample v) :
    Meets .sound { f with exampleValue := some v } :=
  { h with sample := fun _ ha => Option.some_inj.mp ha ▸ hv }

theorem withEnum {values : List Json} (hvalues : ∀ v ∈ values, Demands.sound.item v) :
    Meets .sound { f with enumValues := values } :=
  { h with enumValues := hvalues }

theorem appendEnum {values : List Json} (hvalues : ∀ v ∈ values, Demands.sound.item v) :
    Meets .sound { f with enumValues := f.enumValues ++ values } :=
  { h with enumValues := List.forall_mem_append.mpr ⟨h.enumValues, hvalues⟩ }

theorem insertExtension {key : String} {value : Json} (hkey : startsWith "x-" key = true)
    (hvalue : Demands.sound.item value) :
    Meets .sound { f with extensions := Assoc.insert f.extensions key value } :=
  { h with
    extensions := Assoc.forall_mem_insert h.extensions hvalue
    names := sound_names_insert h.names hkey }

end Facets.Meets

/-! ### Comment lines -/

theorem sound_applyStructLine {s : Schema} (h : s.toFacets.Meets .sound) (line : String) :
    (applyStructLine s line).toFacets.Meets .sound := by
  unfold applyStructLine
  split
  · exact { h with }
  · exact { h with }
  · exact h.withExample (sound_structExample _)
  · split
    · exact { h with }
    · split
      · exact { h with }
      · exact h

theorem sound_applyFieldLine {s : Schema} (h : s.toFacets.Meets .sound) (line : String) :
    (applyFieldLine s line).toFacets.Meets .sound := by
  unfold applyFieldLine
  split
  · exact { h with }
  · exact h.withExample (sound_coerce _ _).1
  · split
    · exact { h with }
    · split
      · exact { h with }
      · exact h

/-- What one step keeps, any number of steps keep. -/
theorem sound_foldl {α : Type} {step : Schema → α → Schema}
    (hstep : ∀ s a, s.toFacets.Meets .sound → (step s a).toFacets.Meets .sound) (l : List α)
    {s : Schema} (h : s.toFacets.Meets .sound) : (l.foldl step s).toFacets.Meets .sound := by
  induction l generalizing s with
  | nil => exact h
  | cons a rest ih => exact ih (hstep s a h)

/-! ### Rules and tags -/

theorem sound_applyBareRule (dialect : RuleDialect) (rule : String) {s : Schema}
    (h : s.toFacets.Meets .sound) : (applyBareRule dialect rule s).toFacets.Meets .sound := by
  unfold applyBareRule
  split
  case h_10 => exact h
  all_goals exact { h with }

theorem sound_applyBound (b : Bound) (value : String) {s : Schema}
    (h : s.toFacets.Meets .sound) : (applyBound b value s).toFacets.Meets .sound := by
  unfold applyBound
  split
  · cases b
    · exact h.withMinLength fun _ => readCount?_lt
    · exact h.withMaxLength fun _ => readCount?_lt
  · cases b
    · exact h.withMinItems fun _ => readCount?_lt
    · exact h.withMaxItems fun _ => readCount?_lt
  · cases b <;> exact h.withBounds _ _ _ _ _
  · cases b <;> exact h.withBounds _ _ _ _ _
  · exact h

theorem sound_applyValueRule (name value : String) {s : Schema} (h : s.toFacets.Meets .sound) :
    (applyValueRule name value s).toFacets.Meets .sound := by
  unfold applyValueRule
  split
  · exact sound_applyBound .lower value h
  · exact sound_applyBound .upper value h
  · split
    · next n hn =>
      have hlimit : ∀ m, some n = some m → m < 2 ^ 64 :=
        fun m hm => Option.some_inj.mp hm ▸ readCount?_lt hn
      exact (h.withMinLength hlimit).withMaxLength hlimit
    · exact h
  · exact h.withBounds _ _ _ _ _
  · exact h.withBounds _ _ _ _ _
  · exact h.withBounds _ _ _ _ _
  · exact h.withBounds _ _ _ _ _
  · exact h.appendEnum (List.forall_mem_map.mpr fun word _ => (sound_str word).1)
  · exact h

theorem sound_applyRules (dialect : RuleDialect) (rules : String) {s : Schema}
    (h : s.toFacets.Meets .sound) : (applyRules dialect rules s).toFacets.Meets .sound := by
  refine sound_foldl (fun s rule hs => ?_) _ h
  unfold applyRule
  split
  · exact sound_applyValueRule _ _ hs
  · exact sound_applyBareRule _ _ hs

/-- Only names that start with `x-` become extensions. -/
theorem sound_of_extensionOf? {entry key : String} {value : Json}
    (h : extensionOf? entry = some (key, value)) :
    startsWith "x-" key = true ∧ Demands.sound.item value := by
  have hkeyed : ∀ {k : String} {v : Json}, Demands.sound.item v →
      (if startsWith "x-" k then some (k, v) else none) = some (key, value) →
      startsWith "x-" key = true ∧ Demands.sound.item value := by
    intro k v hv hsome
    split at hsome
    · next hk =>
      cases hsome
      exact ⟨hk, hv⟩
    · cases hsome
  simp only [extensionOf?] at h
  split at h
  · exact hkeyed (sound_bool false).1 h
  · split at h
    · exact hkeyed (sound_extensionValue _) h
    · exact hkeyed (sound_bool true).1 h

theorem sound_applyExtensions (entries : String) {s : Schema} (h : s.toFacets.Meets .sound) :
    (applyExtensions entries s).toFacets.Meets .sound := by
  refine sound_foldl (fun s entry hs => ?_) _ h
  split
  · next hentry =>
    obtain ⟨hkey, hvalue⟩ := sound_of_extensionOf? hentry
    exact hs.insertExtension hkey hvalue
  · exact hs

theorem sound_withPart {part : Option String} {f : String → Schema → Schema} {s : Schema}
    (hf : ∀ value, (f value s).toFacets.Meets .sound) (h : s.toFacets.Meets .sound) :
    (withPart part f s).toFacets.Meets .sound := by
  cases part with
  | none => exact h
  | some value => exact hf value

theorem sound_applySwaggerType (value : String) {s : Schema} (h : s.toFacets.Meets .sound) :
    (applySwaggerType value s).toFacets.Meets .sound := by
  unfold applySwaggerType
  split
  · split
    · exact { h with }
    · exact h
  · split
    · exact { h with }
    · exact h
  · dsimp only
    split
    · exact { h with }
    · exact { h with }
  · exact h

theorem sound_ite {flag : Bool} {s s' : Schema} (h' : s'.toFacets.Meets .sound)
    (h : s.toFacets.Meets .sound) : (if flag then s' else s).toFacets.Meets .sound := by
  split
  · exact h'
  · exact h

theorem StructTags.sound_apply (t : StructTags) {s : Schema} (h : s.toFacets.Meets .sound) :
    (t.apply s).toFacets.Meets .sound := by
  unfold StructTags.apply
  extract_lets typed extended exemplified formatted defaulted enumerated bounded₁ bounded₂ bounded₃
    bounded₄ patterned readable writable bound
  -- One step for each part of the tag.
  have h : typed.toFacets.Meets .sound := sound_withPart (fun v => sound_applySwaggerType v h) h
  have h : extended.toFacets.Meets .sound := sound_withPart (fun v => sound_applyExtensions v h) h
  have h : exemplified.toFacets.Meets .sound :=
    sound_withPart (fun _ => h.withExample (sound_coerce _ _).1) h
  have h : formatted.toFacets.Meets .sound := sound_withPart (fun _ => { h with }) h
  have h : defaulted.toFacets.Meets .sound :=
    sound_withPart (fun _ => h.withDefault (sound_coerce _ _)) h
  have h : enumerated.toFacets.Meets .sound := sound_withPart (fun _ =>
    h.appendEnum (List.forall_mem_map.mpr fun _ _ => (sound_coerce _ _).1)) h
  have h : bounded₁.toFacets.Meets .sound := sound_withPart (fun _ => h.withBounds _ _ _ _ _) h
  have h : bounded₂.toFacets.Meets .sound := sound_withPart (fun _ => h.withBounds _ _ _ _ _) h
  have h : bounded₃.toFacets.Meets .sound :=
    sound_withPart (fun _ => h.withMinLength fun _ => readCount?_lt) h
  have h : bounded₄.toFacets.Meets .sound :=
    sound_withPart (fun _ => h.withMaxLength fun _ => readCount?_lt) h
  have h : patterned.toFacets.Meets .sound := sound_withPart (fun _ => { h with }) h
  have h : readable.toFacets.Meets .sound := sound_ite { h with } h
  have h : writable.toFacets.Meets .sound := sound_ite { h with } h
  have h : bound.toFacets.Meets .sound := sound_withPart (fun _ => sound_applyRules _ _ h) h
  exact sound_withPart (fun _ => sound_applyRules _ _ h) h

/-! ### Schemas of types -/

namespace Schema

theorem sound_plain (reference : Option String) (type : Option SchemaType) (format : Option String) :
    Facets.Meets .sound { reference, type, format } where
  bounds _ _ := trivial
  limits := by simp [Facets.limits]
  default := by simp
  constValue := by simp
  sample := by simp
  enumValues := by simp
  extensions := by simp
  names := ⟨List.nodup_nil, by simp [Assoc.keys]⟩

theorem IsPlain.meets {s : Schema} (h : s.IsPlain) : s.Meets .sound := by
  obtain ⟨hleaf, hform⟩ := h
  rw [hform] at hleaf ⊢
  exact everywhere_of_parts_eq_nil hleaf.1 ⟨sound_plain _ _ _, List.nodup_nil⟩

theorem isPlain_typed (name : String) : (typed name).IsPlain := ⟨isLeaf_typed name, rfl⟩

theorem isPlain_ref (name : String) : (ref name).IsPlain := ⟨isLeaf_ref name, rfl⟩

/-- Where the skeleton stays the same, only the constraints at the top matter. -/
theorem Meets.of_skeleton {s s' : Schema} (h : s.Meets .sound) (hsame : s'.skeleton = s.skeleton)
    (hfacets : s'.toFacets.Meets .sound) : s'.Meets .sound := by
  have hparts : s'.parts = s.parts := by rw [← parts_skeleton s', hsame, parts_skeleton]
  have hproperties : s'.skeleton.properties = s.skeleton.properties := by rw [hsame]
  refine h.congr hparts fun htop => ⟨hfacets, ?_⟩
  change (Assoc.keys s'.skeleton.properties).Nodup
  rw [hproperties]
  exact htop.properties

theorem Meets.top {s : Schema} (h : s.Meets .sound) : s.MeetsTop .sound :=
  h s .refl

theorem Meets.sound_top {s : Schema} (h : s.Meets .sound) : s.toFacets.Meets .sound :=
  h.top.facets

theorem Meets.applySwaggerType {s : Schema} (h : s.Meets .sound) (value : String) :
    (applySwaggerType value s).Meets .sound :=
  Everywhere.applySwaggerType (fun _ _ htop => ⟨{ htop.facets with }, htop.properties⟩)
    (fun _ _ htop => ⟨{ htop.facets with }, htop.properties⟩)
    (fun _ => (isPlain_typed _).meets.top) h value

theorem Meets.applyTags {s : Schema} (h : s.Meets .sound) (tags : StructTags) :
    (tags.apply s).Meets .sound := by
  have htyped : (withPart tags.swaggerType AnnotatedApi.applySwaggerType s).Meets .sound := by
    cases tags.swaggerType with
    | none => exact h
    | some value => exact h.applySwaggerType value
  exact htyped.of_skeleton (tags.skeleton_apply s) (tags.sound_apply h.sound_top)

theorem Meets.addProperty {s t : Schema} (h : s.Meets .sound) (ht : t.Meets .sound)
    (rules : RecordRules) (tags : StructTags) (pointer : Bool) (name : String) :
    (addProperty rules tags pointer t s name).Meets .sound := by
  refine h.extend (fun htop => ⟨{ htop.facets with }, ?_⟩) fun u hu => ?_
  · exact Assoc.nodup_keys_insert _ _ _ htop.properties
  · rcases mem_parts_addProperty hu with hold | rfl
    · exact .inl hold
    · exact .inr ht

/-- An embedded field adds a reference, any other field its decorated schema. -/
theorem Meets.addField {typeSchema s : Schema} (h : s.Meets .sound)
    (htype : typeSchema.Meets .sound) (rules : RecordRules) (field : Field) :
    (addField rules typeSchema field s).Meets .sound := by
  have hlines : (field.doc.lines.foldl applyFieldLine typeSchema).Meets .sound :=
    htype.of_skeleton (skeleton_foldl skeleton_applyFieldLine _ _)
      (sound_foldl (fun _ line hs => sound_applyFieldLine hs line) _ htype.sound_top)
  refine addField_keeps h (fun s name hs => ?_)
    fun s tags pointer name hs => hs.addProperty (hlines.applyTags tags) rules tags pointer name
  refine hs.extend (fun htop => ⟨{ htop.facets with }, htop.properties⟩) fun u hu => ?_
  rcases mem_parts_addAllOf hu with hold | rfl
  · exact .inl hold
  · exact .inr (isPlain_ref name).meets

end Schema

namespace Resolver

theorem keeps_sound (r : Resolver) (v : Vocabulary) : r.Keeps v (Schema.Meets .sound) where
  empty := Schema.IsPlain.meets ⟨Schema.isLeaf_empty, rfl⟩
  object := (Schema.isPlain_typed _).meets
  named name := (r.isPlain_named v name).meets
  array h := Schema.Everywhere.of_parts_eq_singleton h rfl
    ⟨Schema.sound_plain none _ none, List.nodup_nil⟩
  mapOf h := Schema.Everywhere.of_parts_eq_singleton h rfl
    ⟨Schema.sound_plain none _ none, List.nodup_nil⟩
  field field _ htype h := h.addField htype _ field

theorem sound_resolveText (r : Resolver) (text : String) : (r.resolveText text).Meets .sound :=
  (r.keeps_sound .directive).resolve _ 0

/-- The schema of a struct holds sound values only. -/
theorem sound_structSchema (r : Resolver) (rules : RecordRules) (fields : List Field)
    (doc : Option CommentGroup) (depth : Nat) :
    (r.structSchema rules fields doc depth).Meets .sound := by
  have hobject := (Schema.isPlain_typed "object").meets
  refine (r.keeps_sound (.source rules)).addFields fields depth ?_
  exact hobject.of_skeleton (skeleton_foldl skeleton_applyStructLine _ _)
    (sound_foldl (fun _ line hs => sound_applyStructLine hs line) _ hobject.sound_top)

end Resolver

end AnnotatedApi
