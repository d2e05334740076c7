import AnnotatedApi.Proofs.Resolution.Vocabularies
import AnnotatedApi.Proofs.Schema.Height

/-!
The depth limit of a resolver.

In directives a limit cuts the unlimited schema off at its level (`resolve_eq_truncate`), and pointers
take no level (`resolve_withoutPointers`).  In source files inline structs take a level as well, and a
tag may bring one in again.  A limit bounds the height of a struct all the same (`keepsAt_height`), and
it does not show where the types are not nested that deep (`resolve_and_addFields_unlimited`).  Main statements: `depth_limit_truncates_directives`,
`depth_limit_bounds_structs`.
-/

namespace AnnotatedApi

/-! ### Nesting of types -/

namespace TypeExpr

/-- The type without its pointers, at every level of slices and maps. -/
def withoutPointers : TypeExpr → TypeExpr
  | .pointer target => target.withoutPointers
  | .slice element => .slice element.withoutPointers
  | .map key value => .map key value.withoutPointers
  | e => e

mutual

/-- How many slices, maps and inline structs stand one inside another. The keys of maps do not
count. -/
def nest : TypeExpr → Nat
  | .pointer target => target.nest
  | .slice element => element.nest + 1
  | .map _ value => value.nest + 1
  | .struct fields => nestOfFields fields + 1
  | _ => 0

/-- The deepest nesting of the types of fields. -/
def nestOfFields : List (FieldOf TypeExpr) → Nat
  | [] => 0
  | ⟨_, type, _, _⟩ :: rest => max type.nest (nestOfFields rest)

end

theorem nestOfFields_lt {fields : List Field} {n : Nat} (hn : 0 < n)
    (h : ∀ field ∈ fields, field.type.nest < n) : nestOfFields fields < n := by
  induction fields with
  | nil => exact hn
  | cons field rest ih =>
    rw [nestOfFields]
    exact max_lt (h field List.mem_cons_self) (ih fun f hf => h f (List.mem_cons_of_mem _ hf))

end TypeExpr

namespace Resolver

theorem isExhausted_iff {overrides : Overrides} {limit depth : Nat} (hlimit : 0 < limit) :
    (Resolver.mk overrides limit).isExhausted depth = true ↔ limit ≤ depth := by
  simp [isExhausted, hlimit]

theorem not_isExhausted_unlimited (overrides : Overrides) (depth : Nat) :
    ¬ (Resolver.mk overrides 0).isExhausted depth = true := by
  simp [isExhausted]

/-! ### Directives -/

/-- A limit leaves of the unlimited schema as many levels as there are between the depth and the
limit. -/
theorem resolve_eq_truncate (overrides : Overrides) {limit : Nat} (hlimit : 0 < limit)
    (e : TypeExpr) (depth depth' : Nat) :
    (Resolver.mk overrides limit).resolve .directive e depth =
      ((Resolver.mk overrides 0).resolve .directive e depth').truncate (limit - depth) := by
  have hfree := not_isExhausted_unlimited overrides
  -- Below the limit at least one level is left, and inside a slice or a map one level less.
  have hlevel : ∀ {depth}, ¬ (Resolver.mk overrides limit).isExhausted depth = true →
      limit - depth = limit - (depth + 1) + 1 := by
    intro depth hgo
    rw [isExhausted_iff hlimit] at hgo
    omega
  induction e, depth using resolveWith.induct (Resolver.mk overrides limit)
    generalizing depth' with
  | case1 e depth hend =>
    rw [Nat.sub_eq_zero_of_le ((isExhausted_iff hlimit).mp hend)]
    unfold resolve
    rw [if_pos hend]
    rfl
  | case2 depth hgo name =>
    rw [resolve, resolve, if_neg hgo, if_neg (hfree _), hlevel hgo]
    exact (Schema.truncate_of_isPlain (isPlain_named _ _ _) _).symm
  | case3 depth hgo package name =>
    rw [resolve, resolve, if_neg hgo, if_neg (hfree _), hlevel hgo]
    exact (Schema.truncate_of_isPlain (isPlain_named _ _ _) _).symm
  | case4 depth hgo target ih =>
    rw [resolve, resolve, if_neg hgo, if_neg (hfree _)]
    exact ih depth'
  | case5 depth hgo element ih =>
    rw [resolve, resolve, if_neg hgo, if_neg (hfree _), hlevel hgo, Schema.truncate_array,
      ih (depth' + 1)]
  | case6 depth hgo key value ih =>
    rw [resolve, resolve, if_neg hgo, if_neg (hfree _), hlevel hgo, Schema.truncate_mapOf,
      ih (depth' + 1)]
  | case7 depth hgo fields =>
    rw [resolve, resolve, if_neg hgo, if_neg (hfree _), hlevel hgo]
    rfl
  | case8 depth hgo =>
    rw [resolve, resolve, if_neg hgo, if_neg (hfree _), hlevel hgo]
    rfl
  | case9 depth hgo text =>
    rw [resolve, resolve, if_neg hgo, if_neg (hfree _), hlevel hgo]
    rfl

/-- Pointers take no level, wherever they stand. -/
theorem resolve_withoutPointers (r : Resolver) (v : Vocabulary) (e : TypeExpr) (depth : Nat) :
    r.resolve v e.withoutPointers depth = r.resolve v e depth := by
  induction e, depth using resolveWith.induct r with
  | case1 e depth hend =>
    unfold resolve
    rw [if_pos hend, if_pos hend]
  | case4 depth hgo target ih =>
    rw [TypeExpr.withoutPointers, ih, resolve, if_neg hgo]
  | case5 depth hgo element ih =>
    rw [TypeExpr.withoutPointers, resolve, resolve, ih]
  | case6 depth hgo key value ih =>
    rw [TypeExpr.withoutPointers, resolve, resolve, ih]
  | _ => rfl

/-! ### Source files -/

/-- Below a limit the schema of a type is at most one level higher than the levels that are left, and
a struct one level higher than its fields. -/
theorem keepsAt_height (overrides : Overrides) {limit : Nat} (hlimit : 0 < limit) (v : Vocabulary) :
    (Resolver.mk overrides limit).KeepsAt v (fun depth s => s.height ≤ limit + 1 - depth)
      (fun depth s => depth ≤ limit ∧ s.height ≤ limit + 2 - depth) where
  empty depth := Schema.height_le_of_parts_eq_nil rfl _
  named depth name := Schema.height_le_of_parts_eq_nil (isPlain_named _ _ _).1.1 _
  array hgo hs := by
    rw [isExhausted_iff hlimit] at hgo
    rw [Schema.height_array]
    omega
  mapOf hgo hs := by
    rw [isExhausted_iff hlimit] at hgo
    rw [Schema.height_mapOf]
    omega
  object hgo := by
    rw [isExhausted_iff hlimit] at hgo
    exact ⟨by omega, Schema.height_le_of_parts_eq_nil rfl _⟩
  struct _ hs := hs.2.trans (by omega)
  field field _ htype hs := ⟨hs.1, Schema.height_addField (by omega) (by omega) hs.2 field⟩

/-- A limit that the nesting of a type does not reach makes no difference. -/
theorem resolve_and_addFields_unlimited (overrides : Overrides) {limit : Nat} (hlimit : 0 < limit)
    (v : Vocabulary) :
    (∀ e depth, e.nest + depth < limit →
      (Resolver.mk overrides limit).resolve v e depth =
        (Resolver.mk overrides 0).resolve v e depth) ∧
    ∀ rules fields depth (s : Schema), TypeExpr.nestOfFields fields + depth < limit →
      (Resolver.mk overrides limit).addFields v rules fields depth s =
        (Resolver.mk overrides 0).addFields v rules fields depth s := by
  have hfree := not_isExhausted_unlimited overrides
  apply Resolver.resolve.mutual_induct (Resolver.mk overrides limit) v
    (fun e depth => e.nest + depth < limit → (Resolver.mk overrides limit).resolve v e depth =
      (Resolver.mk overrides 0).resolve v e depth)
    (fun rules fields depth s => TypeExpr.nestOfFields fields + depth < limit →
      (Resolver.mk overrides limit).addFields v rules fields depth s =
        (Resolver.mk overrides 0).addFields v rules fields depth s)
  · intro e depth hend hnest
    rw [isExhausted_iff hlimit] at hend
    omega
  · intro depth hgo name _
    rw [resolve, resolve, if_neg hgo, if_neg (hfree _)]
    rfl
  · intro depth hgo package name _
    rw [resolve, resolve, if_neg hgo, if_neg (hfree _)]
    rfl
  · intro depth hgo target ih hnest
    rw [TypeExpr.nest] at hnest
    rw [resolve, resolve, if_neg hgo, if_neg (hfree _), ih hnest]
  · intro depth hgo element ih hnest
    rw [TypeExpr.nest] at hnest
    rw [resolve, resolve, if_neg hgo, if_neg (hfree _), ih (by omega)]
  · intro depth hgo key value ih hnest
    rw [TypeExpr.nest] at hnest
    rw [resolve, resolve, if_neg hgo, if_neg (hfree _), ih (by omega)]
  · intro depth hgo fields hv _
    subst hv
    rw [resolve, resolve, if_neg hgo, if_neg (hfree _)]
  · intro depth hgo fields rules hv ih hnest
    subst hv
    rw [TypeExpr.nest] at hnest
    rw [resolve, resolve, if_neg hgo, if_neg (hfree _), ih (by omega)]
  · intro depth hgo _
    rw [resolve, resolve, if_neg hgo, if_neg (hfree _)]
  · intro depth hgo text _
    rw [resolve, resolve, if_neg hgo, if_neg (hfree _)]
  · intro rules depth s _
    rfl
  · intro rules names type tag doc rest depth s ihType ihRest hnest
    rw [TypeExpr.nestOfFields] at hnest
    have htype := ihType (by omega)
    rw [addFields, addFields, ihRest (by omega), htype]

end Resolver

/-- **In directives a depth limit cuts schemas off at its level.**  The schema of a text under a limit
is the one without a limit, of which as many levels of items and values are left as the limit says.
Pointers take no level. -/
theorem depth_limit_truncates_directives (overrides : Overrides) {limit : Nat} (hlimit : 0 < limit)
    (text : String) :
    (Resolver.mk overrides limit).resolveText text =
      ((Resolver.mk overrides 0).resolveText text).truncate limit ∧
    ∀ r : Resolver, r.resolve .directive (TypeExpr.read text).withoutPointers 0 =
      r.resolveText text :=
  ⟨Resolver.resolve_eq_truncate overrides hlimit (TypeExpr.read text) 0 0,
    fun r => r.resolve_withoutPointers .directive (TypeExpr.read text) 0⟩

/-- Two levels are left of a list of maps of lists. -/
theorem nested_lists_are_truncated :
    0 < 2 ∧ (Resolver.mk [] 2).resolveText "[]map[string]*[]int" = .array (.mapOf {}) ∧
    (Resolver.mk [] 0).resolveText "[]map[string]*[]int" =
      .array (.mapOf (.array (.formatted "integer" "int32"))) ∧
    (Resolver.mk [] 2).resolveText "[]map[string]*[]int" =
      ((Resolver.mk [] 0).resolveText "[]map[string]*[]int").truncate 2 ∧
    (TypeExpr.read "[]map[string]*[]int").withoutPointers =
      .slice (.map (.ident "string") (.slice (.ident "int"))) := by
  have htwo : (Resolver.mk [] 2).resolveText "[]map[string]*[]int" = .array (.mapOf {}) := rfl
  have hall : (Resolver.mk [] 0).resolveText "[]map[string]*[]int" =
      .array (.mapOf (.array (.formatted "integer" "int32"))) := rfl
  have hread : TypeExpr.read "[]map[string]*[]int" =
      .slice (.map (.ident "string") (.pointer (.slice (.ident "int")))) := rfl
  obtain ⟨htruncated, -⟩ := depth_limit_truncates_directives [] Nat.two_pos "[]map[string]*[]int"
  exact ⟨Nat.two_pos, htwo, hall, htruncated, by rw [hread]; rfl⟩

/-- **A depth limit bounds structs, and does not show below itself.**  The schema of a struct is at most
two levels higher than the limit, one for the struct itself and one for a list that a tag names.  If no
type of a field is nested as deep as the limit, the schema is the one without a limit. -/
theorem depth_limit_bounds_structs (overrides : Overrides) {limit : Nat} (hlimit : 0 < limit)
    (rules : RecordRules) (fields : List Field) (doc : Option CommentGroup) :
    ((Resolver.mk overrides limit).structSchema rules fields doc 0).height ≤ limit + 2 ∧
    ((∀ field ∈ fields, field.type.nest < limit) →
      (Resolver.mk overrides limit).structSchema rules fields doc 0 =
        (Resolver.mk overrides 0).structSchema rules fields doc 0) := by
  have hstart : (((doc.map (·.lines)).getD []).foldl applyStructLine (.typed "object")).height ≤
      limit + 2 := by
    rw [Schema.height_of_skeleton (skeleton_foldl skeleton_applyStructLine _ _)]
    exact Schema.height_le_of_parts_eq_nil rfl _
  obtain ⟨-, hheight⟩ :=
    (Resolver.keepsAt_height overrides hlimit (.source rules)).resolve_and_addFields
  obtain ⟨-, hsame⟩ := Resolver.resolve_and_addFields_unlimited overrides hlimit (.source rules)
  exact ⟨(hheight rules fields 0 _ rfl ⟨Nat.zero_le _, hstart⟩).2,
    fun hnest => hsame rules fields 0 _ (TypeExpr.nestOfFields_lt hlimit hnest)⟩

/-- At the limit one, a struct in a struct whose field is tagged as a list is as high as a struct can
be. A pointer to a list does not reach the limit two. -/
theorem tagged_list_reaches_bound :
    let names : Field :=
      { names := ["Names"], type := .ident "Names", tag := some "swaggertype:\x22array,string\x22" }
    let group : Field := { names := ["Group"], type := .struct [names] }
    let labels : Field := { names := ["Labels"], type := .pointer (.slice (.ident "Label")) }
    0 < 1 ∧ ((Resolver.mk [] 1).structSchema {} [group] none 0).height = 1 + 2 ∧
    0 < 2 ∧ (∀ field ∈ [labels], field.type.nest < 2) ∧
    (Resolver.mk [] 2).structSchema {} [labels] none 0 =
      (Resolver.mk [] 0).structSchema {} [labels] none 0 := by
  intro names group labels
  let inner : Schema :=
    { Schema.typed "object" with properties := [("names", .array (.typed "string"))] }
  have hgroup : (Resolver.mk [] 1).structSchema {} [group] none 0 =
      { Schema.typed "object" with properties := [("group", inner)] } := rfl
  have hlist : (Schema.array (.typed "string")).height = 1 := by
    rw [Schema.height_array, Schema.height_eq_zero rfl]
  have hinner : (Schema.array (.typed "string")).height < inner.height :=
    Schema.height_lt_of_mem_parts (List.mem_singleton.mpr rfl)
  have houter : inner.height < ((Resolver.mk [] 1).structSchema {} [group] none 0).height := by
    rw [hgroup]
    exact Schema.height_lt_of_mem_parts (List.mem_singleton.mpr rfl)
  obtain ⟨hbound, -⟩ := depth_limit_bounds_structs [] Nat.one_pos {} [group] none
  have hnest : ∀ field ∈ [labels], field.type.nest < 2 := by
    rintro field hfield
    rw [List.mem_singleton.mp hfield]
    decide
  obtain ⟨-, hsame⟩ := depth_limit_bounds_structs [] Nat.two_pos {} [labels] none
  exact ⟨Nat.one_pos, by omega, Nat.two_pos, hnest, hsame hnest⟩

end AnnotatedApi
