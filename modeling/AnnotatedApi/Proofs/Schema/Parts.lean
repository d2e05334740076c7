import AnnotatedApi.Schema.Basic
import Mathlib.Logic.Relation

/-!
Schemas inside schemas.

`Schema.children` lists the schemas that a search for references goes on to, in the order of the
search, and `Schema.parts` lists every schema directly inside another one: the children, the schemas
of properties, and the excluded schema.  Following them any number of times gives `Schema.Reaches`
and `Schema.Within`.  Main statements:

* `induction_on_parts` — what passes from the parts to the whole holds of every schema;
* `mem_references` — the references in the order of the search are those of the reached schemas;
* `everywhere_iff` — a property holds everywhere in a schema iff it holds at the schema and
  everywhere in its parts;
* `Everywhere.extend` — it stays so when the schema gets parts in which it holds everywhere.
-/

namespace AnnotatedApi.Schema

/-- The schema that additional properties have, if one is given. -/
def additionalSchema? (s : Schema) : Option Schema :=
  match s.additional with
  | some (.schema t) => some t
  | _ => none

/-- The schemas that a search for references goes on to, in order. -/
def children (s : Schema) : List Schema :=
  s.items.toList ++ (s.additionalSchema?.toList ++ (s.allOf ++ (s.oneOf ++ s.anyOf)))

/-- Every schema directly inside a schema. -/
def parts (s : Schema) : List Schema :=
  s.children ++ (s.properties.map (·.2) ++ s.excluded.toList)

/-- `t` is met on the search that starts at `s`. -/
def Reaches (s t : Schema) : Prop :=
  Relation.ReflTransGen (fun a b => b ∈ a.children) s t

/-- `t` is `s`, or stands inside `s` at any depth. -/
def Within (s t : Schema) : Prop :=
  Relation.ReflTransGen (fun a b => b ∈ a.parts) s t

theorem mem_children {s t : Schema} :
    t ∈ s.children ↔ s.items = some t ∨ s.additional = some (.schema t) ∨
      t ∈ s.allOf ∨ t ∈ s.oneOf ∨ t ∈ s.anyOf := by
  have hadd : s.additionalSchema? = some t ↔ s.additional = some (.schema t) := by
    unfold additionalSchema?
    split <;> simp_all
  simp only [children, List.mem_append, Option.mem_toList, hadd]

theorem mem_parts {s t : Schema} :
    t ∈ s.parts ↔ t ∈ s.children ∨ (∃ name, (name, t) ∈ s.properties) ∨ s.excluded = some t := by
  simp [parts]

theorem mem_parts_of_mem_children {s t : Schema} (h : t ∈ s.children) : t ∈ s.parts :=
  mem_parts.mpr (.inl h)

/-- Setting the items brings in their schema and no other part. -/
theorem mem_parts_withItems {s t u : Schema} (hu : u ∈ ({ s with items := some t } : Schema).parts) :
    u ∈ s.parts ∨ u = t := by
  rw [mem_parts, mem_children] at hu
  rcases hu with (hitems | hchild) | hother
  · exact .inr (Option.some_inj.mp hitems).symm
  · exact .inl (mem_parts.mpr (.inl (mem_children.mpr (.inr hchild))))
  · exact .inl (mem_parts.mpr (.inr hother))

/-- Adding a schema to compose with brings in no other part. -/
theorem mem_parts_addAllOf {s t u : Schema}
    (hu : u ∈ ({ s with allOf := s.allOf ++ [t] } : Schema).parts) : u ∈ s.parts ∨ u = t := by
  simp only [mem_parts, mem_children, List.mem_append, List.mem_singleton] at hu ⊢
  by_cases hnew : u = t
  · exact .inr hnew
  · left
    simpa only [hnew, or_false] using hu

/-- A part is smaller than the whole. -/
theorem sizeOf_lt_of_mem_parts {s t : Schema} (h : t ∈ s.parts) : sizeOf t < sizeOf s := by
  obtain ⟨facets, items, properties, additional, allOf, oneOf, anyOf, excluded⟩ := s
  rw [mem_parts, mem_children] at h
  dsimp only at h
  rw [Schema.mk.sizeOf_spec]
  rcases h with (h | h | h | h | h) | ⟨name, h⟩ | h
  · subst h
    simp only [Option.some.sizeOf_spec]
    omega
  · subst h
    simp only [Option.some.sizeOf_spec, Additional.schema.sizeOf_spec]
    omega
  · have := List.sizeOf_lt_of_mem h
    omega
  · have := List.sizeOf_lt_of_mem h
    omega
  · have := List.sizeOf_lt_of_mem h
    omega
  · have := List.sizeOf_lt_of_mem h
    simp only [Prod.mk.sizeOf_spec] at this
    omega
  · subst h
    simp only [Option.some.sizeOf_spec]
    omega

/-- What passes from the parts of a schema to the schema holds of every schema. -/
@[elab_as_elim]
theorem induction_on_parts {P : Schema → Prop} (h : ∀ s, (∀ t ∈ s.parts, P t) → P s) (s : Schema) :
    P s :=
  h s fun t ht =>
    have : sizeOf t < sizeOf s := sizeOf_lt_of_mem_parts ht
    induction_on_parts h t
termination_by sizeOf s

/-! ### The references met on the search -/

/-- The references of a schema in the order of the search: its own, then those of its children in
turn. -/
def references (s : Schema) : List String :=
  s.reference.toList ++ s.children.attach.flatMap fun ⟨t, _⟩ => t.references
termination_by sizeOf s
decreasing_by exact sizeOf_lt_of_mem_parts (mem_parts_of_mem_children ‹_›)

theorem references_eq (s : Schema) :
    s.references = s.reference.toList ++ s.children.flatMap references := by
  rw [references]
  simp

/-- The references in the order of the search are those of the reached schemas. -/
theorem mem_references {s : Schema} {reference : String} :
    reference ∈ s.references ↔ ∃ t, s.Reaches t ∧ t.reference = some reference := by
  constructor
  · induction s using induction_on_parts with
    | h s ih =>
      intro h
      rw [references_eq, List.mem_append, List.mem_flatMap] at h
      rcases h with h | ⟨child, hchild, h⟩
      · exact ⟨s, .refl, Option.mem_toList.mp h⟩
      · obtain ⟨t, ht, href⟩ := ih child (mem_parts_of_mem_children hchild) h
        exact ⟨t, .head hchild ht, href⟩
  · rintro ⟨t, ht, href⟩
    induction ht using Relation.ReflTransGen.head_induction_on with
    | refl =>
      rw [references_eq]
      exact List.mem_append_left _ (Option.mem_toList.mpr href)
    | head hchild _ ih =>
      rw [references_eq]
      exact List.mem_append_right _ (List.mem_flatMap.mpr ⟨_, hchild, ih⟩)

/-! ### Properties that hold everywhere in a schema -/

/-- `P` holds of a schema and of all schemas inside it. -/
def Everywhere (P : Schema → Prop) (s : Schema) : Prop :=
  ∀ t, s.Within t → P t

theorem everywhere_iff {P : Schema → Prop} {s : Schema} :
    Everywhere P s ↔ P s ∧ ∀ t ∈ s.parts, Everywhere P t := by
  constructor
  · intro h
    exact ⟨h s .refl, fun t ht u hu => h u (.head ht hu)⟩
  · rintro ⟨hs, hparts⟩ t ht
    rcases Relation.ReflTransGen.cases_head ht with rfl | ⟨u, hu, hut⟩
    · exact hs
    · exact hparts u hu t hut

/-- Parts that are added have to bring the property along. -/
theorem Everywhere.extend {P : Schema → Prop} {s s' : Schema} (h : Everywhere P s)
    (htop : P s → P s') (hparts : ∀ t ∈ s'.parts, t ∈ s.parts ∨ Everywhere P t) :
    Everywhere P s' := by
  rw [everywhere_iff] at h ⊢
  refine ⟨htop h.1, fun t ht => ?_⟩
  rcases hparts t ht with hold | hnew
  · exact h.2 t hold
  · exact hnew

/-- Two schemas with the same parts differ only at the top. -/
theorem Everywhere.congr {P : Schema → Prop} {s s' : Schema} (hparts : s'.parts = s.parts)
    (htop : P s → P s') (h : Everywhere P s) : Everywhere P s' :=
  h.extend htop fun _ ht => .inl (hparts ▸ ht)

theorem everywhere_of_parts_eq_nil {P : Schema → Prop} {s : Schema} (hparts : s.parts = [])
    (hs : P s) : Everywhere P s := by
  rw [everywhere_iff, hparts]
  exact ⟨hs, by simp⟩

theorem Everywhere.of_parts_eq_singleton {P : Schema → Prop} {s t : Schema} (h : Everywhere P t)
    (hparts : s.parts = [t]) (hs : P s) : Everywhere P s := by
  rw [everywhere_iff, hparts]
  refine ⟨hs, fun u hu => ?_⟩
  obtain rfl := List.mem_singleton.mp hu
  exact h

theorem Reaches.within {s t : Schema} (h : s.Reaches t) : s.Within t :=
  Relation.ReflTransGen.mono (fun _ _ hchild => mem_parts_of_mem_children hchild) _ _ h

/-- Where no schema has other parts than its children, the search misses nothing. -/
theorem Within.reaches {s t : Schema} (hs : Everywhere (fun u => u.parts = u.children) s)
    (h : s.Within t) : s.Reaches t := by
  induction h using Relation.ReflTransGen.head_induction_on with
  | refl => exact .refl
  | head hpart _ ih =>
    -- The first step goes to a part, and at the top the parts are the children.
    obtain ⟨htop, hparts⟩ := everywhere_iff.mp hs
    exact .head (htop ▸ hpart) (ih (hparts _ hpart))

end AnnotatedApi.Schema
