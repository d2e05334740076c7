import AnnotatedApi.Proofs.Schema.Skeleton

/-!
References in the schemas of types.

`Resolver.Keeps` collects what has to be shown of a property of schemas so that every schema of a
type has it, and `Resolver.KeepsAt` does so for a property that depends on the depth; the induction
over types and their fields is done once, in `KeepsAt.resolve_and_addFields`.  Two properties are
shown this way:

* `wellReferenced_resolve`, `wellReferenced_structSchema` — every reference starts as a reference to a
  component does, in both vocabularies and at any depth;
* `searchable_resolve` — the schemas of directives have no properties, so the search for references
  sees all of them.
-/

namespace AnnotatedApi

open Text

/-! ### Induction over types -/

/-- At every depth, `Q` holds of what the schema of a type starts from and is kept by what resolution
does with it, and `S` does so for structs whose fields are being added. -/
structure Resolver.KeepsAt (r : Resolver) (v : Vocabulary) (Q S : Nat → Schema → Prop) : Prop where
  empty : ∀ depth, Q depth {}
  named : ∀ depth name, Q depth (r.named v name)
  array : ∀ {depth s}, ¬ r.isExhausted depth = true → Q (depth + 1) s → Q depth (.array s)
  mapOf : ∀ {depth s}, ¬ r.isExhausted depth = true → Q (depth + 1) s → Q depth (.mapOf s)
  object : ∀ {depth}, ¬ r.isExhausted depth = true → S (depth + 1) (.typed "object")
  struct : ∀ {depth s}, ¬ r.isExhausted depth = true → S (depth + 1) s → Q depth s
  field : ∀ {rules depth typeSchema s} (field : Field), v = .source rules → Q depth typeSchema →
    S depth s → S depth (addField rules typeSchema field s)

/-- Schemas of types have the property of their depth, and adding fields keeps that of structs. -/
theorem Resolver.KeepsAt.resolve_and_addFields {r : Resolver} {v : Vocabulary}
    {Q S : Nat → Schema → Prop} (h : r.KeepsAt v Q S) :
    (∀ e depth, Q depth (r.resolve v e depth)) ∧
    ∀ rules fields depth s, v = .source rules → S depth s →
      S depth (r.addFields v rules fields depth s) := by
  apply Resolver.resolve.mutual_induct r v (fun e depth => Q depth (r.resolve v e depth))
    (fun rules fields depth s => v = .source rules → S depth s →
      S depth (r.addFields v rules fields depth s))
  · intro e depth hend
    unfold Resolver.resolve
    rw [if_pos hend]
    exact h.empty depth
  · intro depth hgo name
    rw [Resolver.resolve, if_neg hgo]
    exact h.named depth name
  · intro depth hgo package name
    rw [Resolver.resolve, if_neg hgo]
    exact h.named depth _
  · intro depth hgo target ih
    rw [Resolver.resolve, if_neg hgo]
    exact ih
  · intro depth hgo element ih
    rw [Resolver.resolve, if_neg hgo]
    exact h.array hgo ih
  · intro depth hgo key value ih
    rw [Resolver.resolve, if_neg hgo]
    exact h.mapOf hgo ih
  -- Inline structs: nothing in directives, the fields in source files.
  · intro depth hgo fields hv
    subst hv
    rw [Resolver.resolve, if_neg hgo]
    exact h.empty depth
  · intro depth hgo fields rules hv ih
    subst hv
    rw [Resolver.resolve, if_neg hgo]
    exact h.struct hgo (ih rfl (h.object hgo))
  · intro depth hgo
    rw [Resolver.resolve, if_neg hgo]
    exact h.empty depth
  · intro depth hgo text
    rw [Resolver.resolve, if_neg hgo]
    exact h.empty depth
  · intro rules depth s _ hs
    rw [Resolver.addFields]
    exact hs
  · intro rules names type tag doc rest depth s ihType ihRest hv hs
    rw [Resolver.addFields]
    exact ihRest hv (h.field _ hv ihType hs)

/-- `Q` holds of what resolution starts from and is kept by everything it does. -/
structure Resolver.Keeps (r : Resolver) (v : Vocabulary) (Q : Schema → Prop) : Prop where
  empty : Q {}
  object : Q (.typed "object")
  named : ∀ name, Q (r.named v name)
  array : ∀ {s}, Q s → Q (.array s)
  mapOf : ∀ {s}, Q s → Q (.mapOf s)
  field : ∀ {rules typeSchema s} (field : Field), v = .source rules → Q typeSchema → Q s →
    Q (addField rules typeSchema field s)

namespace Resolver.Keeps

variable {r : Resolver} {v : Vocabulary} {Q : Schema → Prop}

/-- A property that does not look at the depth. -/
theorem keepsAt (h : r.Keeps v Q) : r.KeepsAt v (fun _ => Q) (fun _ => Q) where
  empty _ := h.empty
  named _ name := h.named name
  array _ hs := h.array hs
  mapOf _ hs := h.mapOf hs
  object _ := h.object
  struct _ hs := hs
  field field hv htype hs := h.field field hv htype hs

theorem resolve (h : r.Keeps v Q) (e : TypeExpr) (depth : Nat) : Q (r.resolve v e depth) :=
  h.keepsAt.resolve_and_addFields.1 e depth

theorem addFields {rules : RecordRules} (h : r.Keeps (.source rules) Q) (fields : List Field)
    (depth : Nat) {s : Schema} (hs : Q s) : Q (r.addFields (.source rules) rules fields depth s) :=
  h.keepsAt.resolve_and_addFields.2 rules fields depth s rfl hs

end Resolver.Keeps

/-! ### Leaves -/

namespace Schema

/-- The reference of the schema, if it has one, starts as a reference to a component does. -/
def RefersToComponent (s : Schema) : Prop :=
  ∀ reference, s.reference = some reference → ∃ name, reference = refStart ++ name

/-- All references inside the schema start as references to components do. -/
def WellReferenced (s : Schema) : Prop :=
  Everywhere RefersToComponent s

/-- The search for references sees everything inside the schema. -/
def Searchable (s : Schema) : Prop :=
  Everywhere (fun t => t.parts = t.children) s

/-- A schema without parts whose reference, if it has one, is to a component. -/
def IsLeaf (s : Schema) : Prop :=
  s.parts = [] ∧ s.RefersToComponent

theorem refersToComponent_of_reference_eq_none {s : Schema} (h : s.reference = none) :
    s.RefersToComponent := by
  intro reference href
  rw [h] at href
  exact absurd href (by simp)

theorem isLeaf_of_reference_eq_none {s : Schema} (hparts : s.parts = [])
    (href : s.reference = none) : s.IsLeaf :=
  ⟨hparts, refersToComponent_of_reference_eq_none href⟩

theorem isLeaf_typed (name : String) : (typed name).IsLeaf :=
  isLeaf_of_reference_eq_none rfl rfl

theorem isLeaf_formatted (name format : String) : (formatted name format).IsLeaf :=
  isLeaf_of_reference_eq_none rfl rfl

theorem isLeaf_empty : ({} : Schema).IsLeaf :=
  isLeaf_of_reference_eq_none rfl rfl

theorem isLeaf_ref (name : String) : (ref name).IsLeaf :=
  ⟨rfl, fun _ href => ⟨name, (Option.some_inj.mp href).symm⟩⟩

theorem IsLeaf.wellReferenced {s : Schema} (h : s.IsLeaf) : s.WellReferenced :=
  everywhere_of_parts_eq_nil h.1 h.2

theorem IsLeaf.searchable {s : Schema} (h : s.IsLeaf) : s.Searchable := by
  refine everywhere_of_parts_eq_nil h.1 ?_
  rw [h.1]
  exact (List.append_eq_nil_iff.mp h.1).1.symm

end Schema

/-- A leaf with nothing but a reference, a type and a format. -/
def Schema.IsPlain (s : Schema) : Prop :=
  s.IsLeaf ∧ s = { reference := s.reference, type := s.type, format := s.format }

theorem isPlain_of_builtinSchema? {name : String} {s : Schema} (h : builtinSchema? name = some s) :
    s.IsPlain := by
  unfold builtinSchema? at h
  split at h <;> cases h
  all_goals exact ⟨Schema.isLeaf_of_reference_eq_none rfl rfl, rfl⟩

theorem isPlain_of_keywordSchema? {name : String} {s : Schema} (h : keywordSchema? name = some s) :
    s.IsPlain := by
  unfold keywordSchema? at h
  split at h <;> cases h
  all_goals exact ⟨Schema.isLeaf_of_reference_eq_none rfl rfl, rfl⟩

/-- A schema that was looked up, or else a reference. -/
theorem isPlain_getD_ref {found : Option Schema} (h : ∀ s, found = some s → s.IsPlain)
    (name : String) : (found.getD (.ref name)).IsPlain := by
  cases found with
  | none => exact ⟨Schema.isLeaf_ref name, rfl⟩
  | some s => exact h s rfl

theorem isPlain_replacementSchema (replacement : String) :
    (replacementSchema replacement).IsPlain := by
  unfold replacementSchema
  split
  · exact ⟨Schema.isLeaf_typed replacement, rfl⟩
  · split
    · exact ⟨Schema.isLeaf_formatted _ _, rfl⟩
    · exact isPlain_getD_ref (fun _ => isPlain_of_builtinSchema?) replacement

theorem Resolver.isPlain_named (r : Resolver) (v : Vocabulary) (name : String) :
    (r.named v name).IsPlain := by
  unfold Resolver.named
  split
  · exact isPlain_replacementSchema _
  · refine isPlain_getD_ref (fun s hs => ?_) name
    rcases Option.or_eq_some_iff.mp hs with hkeyword | ⟨-, hbuiltin⟩
    · cases v with
      | source rules => exact absurd hkeyword (by simp)
      | directive => exact isPlain_of_keywordSchema? hkeyword
    · exact isPlain_of_builtinSchema? hbuiltin

/-! ### Well-formed references -/

namespace Schema

theorem WellReferenced.of_skeleton {s s' : Schema} (h : s.WellReferenced)
    (hsame : s'.skeleton = s.skeleton) : s'.WellReferenced :=
  Everywhere.of_skeleton (fun _ => Iff.rfl) hsame h

theorem WellReferenced.addAllOf {s t : Schema} (h : s.WellReferenced) (ht : t.WellReferenced) :
    WellReferenced { s with allOf := s.allOf ++ [t] } := by
  refine h.extend id fun u hu => ?_
  rcases mem_parts_addAllOf hu with hold | rfl
  · exact .inl hold
  · exact .inr ht

/-- Adding a property brings in the schema of the property and no other part. -/
theorem mem_parts_addProperty {rules : RecordRules} {tags : StructTags} {pointer : Bool}
    {t s u : Schema} {name : String} (hu : u ∈ (addProperty rules tags pointer t s name).parts) :
    u ∈ s.parts ∨ u = t := by
  rcases mem_parts.mp hu with hchild | ⟨key, hproperty⟩ | hexcluded
  · exact .inl (mem_parts.mpr (.inl hchild))
  · rcases Assoc.mem_insert hproperty with hold | hnew
    · exact .inl (mem_parts.mpr (.inr (.inl ⟨key, hold⟩)))
    · exact .inr (Prod.mk.inj hnew).2
  · exact .inl (mem_parts.mpr (.inr (.inr hexcluded)))

theorem WellReferenced.addProperty {s t : Schema} (h : s.WellReferenced) (ht : t.WellReferenced)
    (rules : RecordRules) (tags : StructTags) (pointer : Bool) (name : String) :
    (addProperty rules tags pointer t s name).WellReferenced := by
  refine h.extend id fun u hu => ?_
  rcases mem_parts_addProperty hu with hold | rfl
  · exact .inl hold
  · exact .inr ht

/-- Replacing the type drops the reference, and all else that a tag does leaves it alone. -/
theorem WellReferenced.applyTags {s : Schema} (h : s.WellReferenced) (tags : StructTags) :
    (tags.apply s).WellReferenced :=
  Everywhere.applyTags (fun _ => Iff.rfl)
    (fun _ _ _ => refersToComponent_of_reference_eq_none rfl) (fun _ _ => id)
    (fun name => (isLeaf_typed name).2) h tags

/-- What adding a reference and adding the decorated schema of the type as a property keep, adding a
field keeps. -/
theorem addField_keeps {Q : Schema → Prop} {rules : RecordRules} {typeSchema s : Schema}
    {field : Field} (hs : Q s)
    (href : ∀ s name, Q s → Q { s with allOf := s.allOf ++ [.ref name] })
    (hproperty : ∀ s tags pointer name, Q s → Q (AnnotatedApi.addProperty rules tags pointer
      (tags.apply (field.doc.lines.foldl applyFieldLine typeSchema)) s name)) :
    Q (AnnotatedApi.addField rules typeSchema field s) := by
  unfold AnnotatedApi.addField
  split
  · split
    · exact href s _ hs
    · exact hs
  · dsimp only
    split
    · exact hs
    · -- One property for each name that is visible outside.
      induction field.names.filter isExported generalizing s with
      | nil => exact hs
      | cons name rest ih => exact ih (hproperty s _ _ name hs)

/-- An embedded field adds a reference to a component, any other field its decorated schema. -/
theorem WellReferenced.addField {typeSchema s : Schema} (h : s.WellReferenced)
    (htype : typeSchema.WellReferenced) (rules : RecordRules) (field : Field) :
    (addField rules typeSchema field s).WellReferenced := by
  have hlines : (field.doc.lines.foldl applyFieldLine typeSchema).WellReferenced :=
    htype.of_skeleton (skeleton_foldl skeleton_applyFieldLine _ _)
  exact addField_keeps h (fun s name hs => hs.addAllOf (isLeaf_ref name).wellReferenced)
    fun s tags pointer name hs => hs.addProperty (hlines.applyTags tags) rules tags pointer name

end Schema

namespace Resolver

theorem keeps_wellReferenced (r : Resolver) (v : Vocabulary) : r.Keeps v Schema.WellReferenced where
  empty := Schema.isLeaf_empty.wellReferenced
  object := (Schema.isLeaf_typed _).wellReferenced
  named name := (r.isPlain_named v name).1.wellReferenced
  array h := Schema.Everywhere.of_parts_eq_singleton h rfl
    (Schema.refersToComponent_of_reference_eq_none rfl)
  mapOf h := Schema.Everywhere.of_parts_eq_singleton h rfl
    (Schema.refersToComponent_of_reference_eq_none rfl)
  field field _ htype h := h.addField htype _ field

/-- The schema of a type has well-formed references only. -/
theorem wellReferenced_resolve (r : Resolver) (v : Vocabulary) (e : TypeExpr) (depth : Nat) :
    (r.resolve v e depth).WellReferenced :=
  (r.keeps_wellReferenced v).resolve e depth

/-- The schema of a struct has well-formed references only. -/
theorem wellReferenced_structSchema (r : Resolver) (rules : RecordRules) (fields : List Field)
    (doc : Option CommentGroup) (depth : Nat) :
    (r.structSchema rules fields doc depth).WellReferenced := by
  refine (r.keeps_wellReferenced (.source rules)).addFields fields depth ?_
  exact (Schema.isLeaf_typed "object").wellReferenced.of_skeleton
    (skeleton_foldl skeleton_applyStructLine _ _)

/-! ### Schemas that the search sees whole -/

theorem keeps_searchable (r : Resolver) : r.Keeps .directive Schema.Searchable where
  empty := Schema.isLeaf_empty.searchable
  object := (Schema.isLeaf_typed _).searchable
  named name := (r.isPlain_named .directive name).1.searchable
  array h := Schema.Everywhere.of_parts_eq_singleton h rfl rfl
  mapOf h := Schema.Everywhere.of_parts_eq_singleton h rfl rfl
  field _ hv := absurd hv (by simp)

/-- The search for references sees everything inside the schema of a directive. -/
theorem searchable_resolve (r : Resolver) (e : TypeExpr) (depth : Nat) :
    (r.resolve .directive e depth).Searchable :=
  r.keeps_searchable.resolve e depth

end Resolver

end AnnotatedApi
