import AnnotatedApi.Proofs.Resolution.References
import Mathlib.Data.List.MinMax
import Mathlib.Order.Nat

/-!
How deep schemas are nested.

`Schema.height` counts the schemas that stand one inside another, and `Schema.truncate` cuts the items
of lists and the values of maps off below a given number of them.  Main statements:

* `height_le_iff` — a bound on the height is a smaller bound on the heights of the parts;
* `StructTags.height_apply` — a tag brings in at most one level, the items of a list;
* `height_addField` — so a field adds its own height to that of its struct, or that one level.
-/

namespace AnnotatedApi

namespace Schema

/-! ### Height -/

/-- How many schemas stand one inside another below the schema. All parts count: items, values of
maps, properties, and the schemas that it is composed of. -/
def height (s : Schema) : Nat :=
  (s.parts.attach.map fun ⟨t, _⟩ => t.height + 1).foldr max 0
termination_by sizeOf s
decreasing_by exact sizeOf_lt_of_mem_parts ‹_›

theorem height_eq (s : Schema) : s.height = (s.parts.map (·.height + 1)).foldr max 0 := by
  rw [height]
  simp

theorem height_le_iff {s : Schema} {n : Nat} : s.height ≤ n ↔ ∀ t ∈ s.parts, t.height < n := by
  rw [height_eq]
  constructor
  · intro h t ht
    have hmem : t.height + 1 ∈ s.parts.map (·.height + 1) := List.mem_map_of_mem ht
    exact (List.le_max_of_le hmem le_rfl).trans h
  · intro h
    refine List.max_le_of_forall_le _ n fun k hk => ?_
    obtain ⟨t, ht, rfl⟩ := List.mem_map.mp hk
    exact h t ht

theorem height_lt_of_mem_parts {s t : Schema} (h : t ∈ s.parts) : t.height < s.height :=
  height_le_iff.mp le_rfl t h

theorem height_congr {s s' : Schema} (h : s'.parts = s.parts) : s'.height = s.height := by
  rw [height_eq, height_eq, h]

theorem height_eq_zero {s : Schema} (h : s.parts = []) : s.height = 0 := by
  rw [height_eq, h]
  rfl

theorem height_le_of_parts_eq_nil {s : Schema} (h : s.parts = []) (n : Nat) : s.height ≤ n :=
  (height_eq_zero h).trans_le (Nat.zero_le n)

theorem height_array (items : Schema) : (array items).height = items.height + 1 := by
  have hparts : (array items).parts = [items] := rfl
  rw [height_eq, hparts]
  exact Nat.max_zero _

theorem height_mapOf (values : Schema) : (mapOf values).height = values.height + 1 := by
  have hparts : (mapOf values).parts = [values] := rfl
  rw [height_eq, hparts]
  exact Nat.max_zero _

/-- Decoration that keeps the skeleton keeps the height. -/
theorem height_of_skeleton {s s' : Schema} (h : s'.skeleton = s.skeleton) :
    s'.height = s.height := by
  refine height_congr ?_
  rw [← parts_skeleton s', h, parts_skeleton]

/-- A tag that names a type brings in nothing but the items of a list. -/
theorem mem_parts_applySwaggerType {value : String} {s u : Schema}
    (hu : u ∈ (applySwaggerType value s).parts) : u ∈ s.parts ∨ ∃ name, u = typed name := by
  unfold applySwaggerType at hu
  split at hu
  · split at hu <;> exact .inl hu
  · split at hu <;> exact .inl hu
  · dsimp only at hu
    split at hu
    · rcases mem_parts_withItems hu with hold | rfl
      · exact .inl hold
      · exact .inr ⟨_, rfl⟩
    · exact .inl hu
  · exact .inl hu

theorem height_applySwaggerType (value : String) (s : Schema) :
    (applySwaggerType value s).height ≤ max s.height 1 := by
  refine height_le_iff.mpr fun u hu => ?_
  rcases mem_parts_applySwaggerType hu with hold | ⟨name, rfl⟩
  · exact lt_max_of_lt_left (height_lt_of_mem_parts hold)
  · rw [height_eq_zero rfl]
    exact lt_max_of_lt_right Nat.one_pos

end Schema

/-- A tag brings in at most one level. -/
theorem StructTags.height_apply (t : StructTags) (s : Schema) :
    (t.apply s).height ≤ max s.height 1 := by
  rw [Schema.height_of_skeleton (t.skeleton_apply s)]
  cases t.swaggerType with
  | none => exact le_max_left _ _
  | some value => exact Schema.height_applySwaggerType value s

namespace Schema

/-- A field keeps a bound on the height of its struct that leaves room for its own type, and for the
one level that a tag may bring in. -/
theorem height_addField {rules : RecordRules} {typeSchema s : Schema} {n : Nat} (hn : 1 < n)
    (htype : typeSchema.height < n) (hs : s.height ≤ n) (field : Field) :
    (addField rules typeSchema field s).height ≤ n := by
  refine addField_keeps (Q := fun s => s.height ≤ n) hs (fun s name hs => ?_) (fun s tags pointer name hs => ?_)
  · refine height_le_iff.mpr fun u hu => ?_
    rcases mem_parts_addAllOf hu with hold | rfl
    · exact height_le_iff.mp hs u hold
    · rw [height_eq_zero rfl]
      exact Nat.zero_lt_of_lt hn
  · refine height_le_iff.mpr fun u hu => ?_
    rcases mem_parts_addProperty hu with hold | rfl
    · exact height_le_iff.mp hs u hold
    · have hlines : (field.doc.lines.foldl applyFieldLine typeSchema).height = typeSchema.height :=
        height_of_skeleton (skeleton_foldl skeleton_applyFieldLine _ _)
      calc (tags.apply (field.doc.lines.foldl applyFieldLine typeSchema)).height
          ≤ max (field.doc.lines.foldl applyFieldLine typeSchema).height 1 := tags.height_apply _
        _ = max typeSchema.height 1 := by rw [hlines]
        _ < n := max_lt htype hn

/-! ### Truncation -/

/-- The schema with the items of lists and the values of maps cut off: nothing is left of it at level
zero, and of its items and its values what is left one level below. -/
def truncate : Nat → Schema → Schema
  | 0, _ => {}
  | level + 1, s =>
    { s with
      items := s.items.map (truncate level)
      additional := s.additional.map fun
        | .allowed flag => .allowed flag
        | .schema values => .schema (truncate level values) }

theorem truncate_array (level : Nat) (items : Schema) :
    (array items).truncate (level + 1) = array (items.truncate level) := rfl

theorem truncate_mapOf (level : Nat) (values : Schema) :
    (mapOf values).truncate (level + 1) = mapOf (values.truncate level) := rfl

/-- Where nothing is inside, nothing is cut off. -/
theorem truncate_of_isPlain {s : Schema} (h : s.IsPlain) (level : Nat) :
    s.truncate (level + 1) = s := by
  obtain ⟨-, hplain⟩ := h
  rw [hplain]
  rfl

end Schema

end AnnotatedApi
