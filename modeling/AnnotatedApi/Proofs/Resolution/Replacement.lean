import AnnotatedApi.Proofs.Resolution.Contributions
import AnnotatedApi.Proofs.Resolution.References

/-!
What is left of a type that a tag replaces.

The tag `swaggertype` sets the type of a schema and drops its reference (`applySwaggerType_primitive`,
`applySwaggerType_array`).  Of the schema of a type this leaves the format of a builtin type, the
items of a slice, the values of a map and the properties of an inline struct (`untyped_resolve`).
Main statement: `swaggerType_replaces_iff_leavesNothing`.
-/

namespace AnnotatedApi

open Text Contribution

namespace Schema

/-- The schema without its reference and its type. -/
def untyped (s : Schema) : Schema :=
  { s with reference := none, type := none }

theorem untyped_setType_eq_typed_iff (s : Schema) (t : String) :
    s.untyped.setType t = typed t ↔ s.untyped = {} := by
  constructor
  · exact fun h => congrArg untyped h
  · intro h
    rw [h]
    rfl

theorem untyped_withItems_eq_array_iff (s items : Schema) :
    { s.untyped with type := some (.single "array"), items := some items } = array items ↔
      { s.untyped with items := none } = ({} : Schema) := by
  constructor
  · exact fun h => congrArg (fun t => { t.untyped with items := none }) h
  · exact fun h =>
      congrArg (fun t => { t with type := some (.single "array"), items := some items }) h

theorem withItems_eq_self {s : Schema} {items : Option Schema} (h : s.items = items) :
    { s with items := items } = s := by
  subst h
  cases s
  rfl

end Schema

/-! ### What the tag sets -/

theorem mem_of_isPrimitiveType {t : String} (ht : isPrimitiveType t = true) :
    t ∈ ["string", "integer", "number", "boolean"] :=
  List.contains_iff_mem.mp ht

/-- A primitive type comes in place of the type and the reference. -/
theorem applySwaggerType_primitive {t value : String} (ht : isPrimitiveType t = true)
    (hvalue : value = t ∨ value = "primitive," ++ t) (s : Schema) :
    applySwaggerType value s = s.untyped.setType t := by
  have hplain : ∀ t ∈ ["string", "integer", "number", "boolean"], commaItems t = [t] := by decide
  have hprimitive : ∀ t ∈ ["string", "integer", "number", "boolean"],
      commaItems ("primitive," ++ t) = ["primitive", t] := by decide
  rcases hvalue with rfl | rfl
  · rw [applySwaggerType, hplain _ (mem_of_isPrimitiveType ht)]
    simp only [ht, Bool.true_or, if_true]
    rfl
  · rw [applySwaggerType, hprimitive t (mem_of_isPrimitiveType ht)]
    simp only [ht, if_true]
    rfl

/-- A list comes in place of the type, the reference and the items. -/
theorem applySwaggerType_array {t : String} (ht : isPrimitiveType t = true ∨ t = "object")
    (s : Schema) : applySwaggerType ("array," ++ t) s =
      { s.untyped with type := some (.single "array"), items := some (.typed t) } := by
  have hitems : ∀ t ∈ ["string", "integer", "number", "boolean", "object"],
      commaItems ("array," ++ t) = ["array", t] ∧
        (isPrimitiveType t || t == "object") = true := by decide
  have hmem : t ∈ ["string", "integer", "number", "boolean", "object"] := by
    rcases ht with ht | rfl
    · exact List.mem_append_left ["object"] (mem_of_isPrimitiveType ht)
    · decide
  obtain ⟨htext, hknown⟩ := hitems t hmem
  rw [applySwaggerType, htext]
  simp only [hknown, if_true]
  rfl

/-! ### What a type leaves -/

theorem TypeExpr.deref_ne_pointer (e target : TypeExpr) : e.deref ≠ .pointer target := by
  induction e using TypeExpr.deref.induct with
  | case1 inner ih => exact ih
  | case2 e hne =>
    rw [TypeExpr.deref]
    · exact hne target
    · exact hne

namespace Resolver

variable (r : Resolver) (v : Vocabulary)

/-- Pointers are looked through. -/
theorem resolve_deref (e : TypeExpr) (depth : Nat) :
    r.resolve v e.deref depth = r.resolve v e depth := by
  induction e using TypeExpr.deref.induct with
  | case1 target ih =>
    rw [TypeExpr.deref, ih]
    conv => rhs; rw [resolve]
    by_cases hend : r.isExhausted depth = true
    · rw [if_pos hend]
      unfold resolve
      rw [if_pos hend]
    · rw [if_neg hend]
  | case2 e hne =>
    rw [TypeExpr.deref]
    exact hne

/-- What the schema of a type has besides a type and a reference. -/
def leftover (e : TypeExpr) (depth : Nat) : Schema :=
  if r.isExhausted depth then {}
  else match e.deref with
    | .slice element => { items := some (r.resolve v element (depth + 1)) }
    | .map _ value => { additional := some (.schema (r.resolve v value (depth + 1))) }
    | .struct fields =>
      match v with
      | .directive => {}
      | .source rules =>
        { properties := Assoc.ofEntries ((r.contributions rules fields (depth + 1)).map entry)
          required := requiredNames (r.contributions rules fields (depth + 1))
          allOf := (fields.filterMap FieldOf.embeddedName?).map .ref }
    | target => { format := target.name?.bind fun name => (r.named v name).format }

/-- The type has a name without a format, or an inline struct without properties and embedded types,
or its schema is empty. -/
def LeavesNothing (e : TypeExpr) (depth : Nat) : Prop :=
  r.isExhausted depth = true ∨
    match e.deref with
    | .slice _ => False
    | .map _ _ => False
    | .struct fields =>
      match v with
      | .directive => True
      | .source rules => r.contributions rules fields (depth + 1) = [] ∧
        fields.filterMap FieldOf.embeddedName? = []
    | target => ∀ name, target.name? = some name → (r.named v name).format = none

theorem untyped_named (name : String) :
    (r.named v name).untyped = { format := (r.named v name).format } := by
  conv => lhs; rw [(r.isPlain_named v name).2]
  rfl

/-- Without its type and its reference, the schema of a type is what the type leaves. -/
theorem untyped_resolve (e : TypeExpr) (depth : Nat) :
    (r.resolve v e depth).untyped = r.leftover v e depth := by
  -- The schema is that of the expression without its pointers, which is what `leftover` looks at.
  have hne := e.deref_ne_pointer
  rw [← resolve_deref, leftover]
  generalize e.deref = target at hne
  by_cases hend : r.isExhausted depth = true
  · unfold resolve
    rw [if_pos hend, if_pos hend]
    rfl
  · rw [if_neg hend]
    cases target with
    | pointer target => exact absurd rfl (hne target)
    | ident name =>
      rw [resolve, if_neg hend, untyped_named]
      rfl
    | qualified package name =>
      rw [resolve, if_neg hend, untyped_named]
      rfl
    | slice element =>
      rw [resolve, if_neg hend]
      rfl
    | map key value =>
      rw [resolve, if_neg hend]
      rfl
    | struct fields =>
      cases v with
      | directive =>
        rw [resolve, if_neg hend]
        rfl
      | source rules =>
        rw [resolve, if_neg hend]
        exact congrArg Schema.untyped (r.structSchema_eq rules fields none (depth + 1))
    | interface =>
      rw [resolve, if_neg hend]
      rfl
    | unsupported text =>
      rw [resolve, if_neg hend]
      rfl

variable {r v}

/-- A map and a property take place in a schema, and so does a format. -/
theorem leftover_eq_empty_iff {e : TypeExpr} {depth : Nat} :
    r.leftover v e depth = {} ↔ r.LeavesNothing v e depth := by
  rw [leftover, LeavesNothing]
  by_cases hend : r.isExhausted depth = true
  · rw [if_pos hend]
    exact ⟨fun _ => .inl hend, fun _ => rfl⟩
  · rw [if_neg hend, or_iff_right hend]
    have hne := e.deref_ne_pointer
    generalize e.deref = target at hne
    cases target with
    | pointer target => exact absurd rfl (hne target)
    | ident name => simp [TypeExpr.name?]
    | qualified package name => simp [TypeExpr.name?]
    | slice element => simp
    | map key value => simp
    | struct fields =>
      cases v with
      | directive => simp
      | source rules =>
        have hproperties :
            Assoc.ofEntries ((r.contributions rules fields (depth + 1)).map entry) = [] ↔
              r.contributions rules fields (depth + 1) = [] := by
          rw [Assoc.ofEntries_eq_nil_iff, List.map_eq_nil_iff]
        have hrequired : r.contributions rules fields (depth + 1) = [] →
            requiredNames (r.contributions rules fields (depth + 1)) = [] :=
          fun hnone => congrArg requiredNames hnone
        simpa [hproperties] using fun hnone _ => hrequired hnone
    | interface => simp [TypeExpr.name?]
    | unsupported text => simp [TypeExpr.name?]

/-- Only slices leave items. -/
theorem items_leftover {e : TypeExpr} (h : ∀ element, e.deref ≠ .slice element) (depth : Nat) :
    (r.leftover v e depth).items = none := by
  unfold leftover
  generalize e.deref = target at h
  by_cases hend : r.isExhausted depth = true
  · rw [if_pos hend]
  · rw [if_neg hend]
    cases target with
    | slice element => exact absurd rfl (h element)
    | struct fields => cases v <;> rfl
    | _ => rfl

theorem leftover_withoutItems_eq_empty_iff {e : TypeExpr} {depth : Nat} :
    { r.leftover v e depth with items := none } = ({} : Schema) ↔
      (∃ element, e.deref = .slice element) ∨ r.LeavesNothing v e depth := by
  by_cases hslice : ∃ element, e.deref = .slice element
  · refine ⟨fun _ => .inl hslice, fun _ => ?_⟩
    obtain ⟨element, helement⟩ := hslice
    rw [leftover, helement]
    split <;> rfl
  · have hitems : (r.leftover v e depth).items = none := items_leftover (not_exists.mp hslice) depth
    rw [or_iff_right hslice, ← leftover_eq_empty_iff, Schema.withItems_eq_self hitems]

end Resolver

/-- **A tag that names a type replaces the type completely iff the type leaves nothing.**  A primitive
type takes the place of the type and the reference, and what the type leaves beside them stays; a list
takes the place of the items as well.  So exactly the schema of the tag comes out iff the type leaves
nothing, or, for a list, nothing but the items of a slice. -/
theorem swaggerType_replaces_iff_leavesNothing (r : Resolver) (v : Vocabulary) (e : TypeExpr)
    (depth : Nat) :
    (∀ t value, isPrimitiveType t = true → value = t ∨ value = "primitive," ++ t →
      applySwaggerType value (r.resolve v e depth) = (r.leftover v e depth).setType t ∧
      (applySwaggerType value (r.resolve v e depth) = .typed t ↔ r.LeavesNothing v e depth)) ∧
    (∀ t, isPrimitiveType t = true ∨ t = "object" →
      applySwaggerType ("array," ++ t) (r.resolve v e depth) =
        { r.leftover v e depth with type := some (.single "array"), items := some (.typed t) } ∧
      (applySwaggerType ("array," ++ t) (r.resolve v e depth) = .array (.typed t) ↔
        (∃ element, e.deref = .slice element) ∨ r.LeavesNothing v e depth)) := by
  constructor
  · intro t value ht hvalue
    rw [applySwaggerType_primitive ht hvalue, Schema.untyped_setType_eq_typed_iff,
      Resolver.untyped_resolve, Resolver.leftover_eq_empty_iff]
    exact ⟨rfl, Iff.rfl⟩
  · intro t ht
    rw [applySwaggerType_array ht, Schema.untyped_withItems_eq_array_iff, Resolver.untyped_resolve,
      Resolver.leftover_withoutItems_eq_empty_iff]
    exact ⟨rfl, Iff.rfl⟩

/-- A pointer to a declared type leaves nothing, and a slice leaves nothing but its items. -/
theorem declared_types_are_replaced :
    isPrimitiveType "string" = true ∧ isPrimitiveType "number" = true ∧
    applySwaggerType "primitive,string"
        (Resolver.resolve {} (.source {}) (.pointer (.ident "Money")) 0) = .typed "string" ∧
      applySwaggerType "array,number" (Resolver.resolve {} (.source {}) (.slice (.ident "int")) 0) =
        .array (.typed "number") := by
  have hstring : isPrimitiveType "string" = true := by decide
  have hnumber : isPrimitiveType "number" = true := by decide
  have hmoney : Resolver.LeavesNothing {} (.source {}) (.pointer (.ident "Money")) 0 := by
    refine .inr fun name hname => ?_
    obtain rfl := Option.some_inj.mp hname
    rfl
  refine ⟨hstring, hnumber, ?_, ?_⟩
  · obtain ⟨hprimitive, -⟩ := swaggerType_replaces_iff_leavesNothing {} (.source {})
      (.pointer (.ident "Money")) 0
    exact (hprimitive "string" "primitive,string" hstring (.inr rfl)).2.mpr hmoney
  · obtain ⟨-, hlist⟩ := swaggerType_replaces_iff_leavesNothing {} (.source {})
      (.slice (.ident "int")) 0
    exact (hlist "number" (.inl hnumber)).2.mpr (.inl ⟨.ident "int", rfl⟩)

/-- A replaced integer keeps its format, a replaced slice its items and a replaced map its values. -/
theorem replaced_types_keep_formats :
    applySwaggerType "string" (Resolver.resolve {} (.source {}) (.ident "int") 0) =
        .formatted "string" "int32" ∧
      applySwaggerType "string" (Resolver.resolve {} (.source {}) (.ident "int") 0) ≠
        .typed "string" ∧
      (applySwaggerType "string"
        (Resolver.resolve {} (.source {}) (.slice (.ident "Tag")) 0)).items = some (.ref "Tag") ∧
      (applySwaggerType "array,string" (Resolver.resolve {} (.source {})
        (.map (.ident "string") (.ident "Tag")) 0)).additional = some (.schema (.ref "Tag")) := by
  have hint : applySwaggerType "string" (Resolver.resolve {} (.source {}) (.ident "int") 0) =
      .formatted "string" "int32" := rfl
  refine ⟨hint, fun h => ?_, rfl, rfl⟩
  have hformat : (Schema.formatted "string" "int32").format = (Schema.typed "string").format :=
    congrArg (·.format) (hint.symm.trans h)
  cases hformat

end AnnotatedApi
