import AnnotatedApi.Proofs.Decimal
import AnnotatedApi.Proofs.Schema.Parts
import AnnotatedApi.Proofs.Schema.Slots

/-!
Schemas as JSON trees.

What a schema holds besides other schemas is measured by `Demands`, on its doubles, counts, values of
any kind and keys; `Schema.Meets` asks the same of all schemas inside.  Main statements:

* `Schema.ofJson?_toJson` — a schema that can be stored is restored from its tree;
* `Schema.meets_of_ofJson?` — a schema that is read from a tree can be stored;
* `Schema.Meets.everywhere_toJson` — what the demands ask of numbers and keys holds everywhere in the
  tree of the schema.
-/

namespace AnnotatedApi

open Json

/-! ### What stands in a schema -/

/-- What is asked of the numbers, values and keys of a record. -/
structure Demands where
  /-- A double among the constraints of a schema. -/
  bound : Decimal.Binary64 → Prop
  /-- A length or a count. -/
  limit : Nat → Prop
  /-- A value of any kind that has a field of its own. -/
  single : Json → Prop
  /-- The example of a schema. -/
  sample : Json → Prop
  /-- A value of any kind in a list or under the name of an extension. -/
  item : Json → Prop
  /-- The keys of a map. -/
  keys : List String → Prop
  /-- The names of a record's own fields, and the keys of its extensions. -/
  names : List String → List String → Prop

namespace Facets

/-- The doubles among the constraints. -/
def bounds (f : Facets) : List Decimal.Binary64 :=
  f.multipleOf.toList ++ (f.maximum.toList ++ (f.exclusiveMaximum.toList ++
    (f.minimum.toList ++ f.exclusiveMinimum.toList)))

/-- The lengths and counts among the constraints. -/
def limits (f : Facets) : List Nat :=
  f.maxLength.toList ++ (f.minLength.toList ++ (f.maxItems.toList ++ (f.minItems.toList ++
    (f.maxProperties.toList ++ f.minProperties.toList))))

theorem forall_mem_bounds {P : Decimal.Binary64 → Prop} {f : Facets} :
    (∀ x ∈ f.bounds, P x) ↔ (∀ x ∈ f.multipleOf, P x) ∧ (∀ x ∈ f.maximum, P x) ∧
      (∀ x ∈ f.exclusiveMaximum, P x) ∧ (∀ x ∈ f.minimum, P x) ∧ ∀ x ∈ f.exclusiveMinimum, P x := by
  simp only [bounds, List.forall_mem_append, Option.mem_toList, Option.mem_def]

theorem forall_mem_limits {P : Nat → Prop} {f : Facets} :
    (∀ n ∈ f.limits, P n) ↔ (∀ n ∈ f.maxLength, P n) ∧ (∀ n ∈ f.minLength, P n) ∧
      (∀ n ∈ f.maxItems, P n) ∧ (∀ n ∈ f.minItems, P n) ∧ (∀ n ∈ f.maxProperties, P n) ∧
      ∀ n ∈ f.minProperties, P n := by
  simp only [limits, List.forall_mem_append, Option.mem_toList, Option.mem_def]

/-- The constraints satisfy the demands. -/
structure Meets (D : Demands) (f : Facets) : Prop where
  bounds : ∀ x ∈ f.bounds, D.bound x
  limits : ∀ n ∈ f.limits, D.limit n
  default : ∀ v ∈ f.default, D.single v
  constValue : ∀ v ∈ f.constValue, D.single v
  sample : ∀ v ∈ f.exampleValue, D.sample v
  enumValues : ∀ v ∈ f.enumValues, D.item v
  extensions : ∀ e ∈ f.extensions, D.item e.2
  names : D.names Schema.fieldNames (Assoc.keys f.extensions)

end Facets

namespace Schema

/-- A schema satisfies the demands, apart from the schemas inside it. -/
structure MeetsTop (D : Demands) (s : Schema) : Prop where
  facets : s.toFacets.Meets D
  properties : D.keys (Assoc.keys s.properties)

/-- All schemas inside a schema satisfy the demands. -/
def Meets (D : Demands) (s : Schema) : Prop :=
  Everywhere (MeetsTop D) s

end Schema

/-! ### Restoring what was written -/

/-- The demands on what can be stored: every double is finite, also inside values of any kind; a field
for a value of any kind does not hold `null`; and no extension has the name of a field. -/
def Demands.storable : Demands where
  bound x := x.isFinite = true
  limit _ := True
  single v := v.Finite ∧ v ≠ .null
  sample v := v.Finite ∧ v ≠ .null
  item v := v.Finite
  keys _ := True
  names fields keys := ∀ key ∈ keys, key ∉ fields

namespace Facets

theorem asNat?_ofNat (n : Nat) : asNat? (ofNat n) = some n := by
  simp [asNat?, ofNat]

/-- Every field of a schema that can be stored is restored. -/
theorem Meets.restores {f : Facets} (h : f.Meets .storable) : ∀ slot ∈ slots, slot.Restores f := by
  have text {key get set} : (Slot.optional key .str asText? get set).Restores f :=
    Slot.restores_optional (fun _ _ => rfl) (by simp)
  have double {key get set} : (Slot.optional key .float asDouble? get set).Restores f :=
    Slot.restores_optional (fun _ _ => rfl) (by simp)
  have count {key get set} : (Slot.optional key ofNat asNat? get set).Restores f :=
    Slot.restores_optional (fun n _ => asNat?_ofNat n) (by simp [ofNat])
  have any {key set} {get : Facets → Option Json} (hget : ∀ v ∈ get f, v.Finite ∧ v ≠ .null) :
      (Slot.optional key id readAny get set).Restores f :=
    Slot.restores_optional (fun _ _ => rfl) fun v hv => (hget v hv).2
  refine List.forall_iff_forall_mem.mp ⟨text, ?type, text, text, text, any h.default, ?enum,
    any h.constValue, double, double, double, double, double, count, count, text, count, count,
    Slot.restores_flag, ?required, count, count, Slot.restores_flag, Slot.restores_flag,
    Slot.restores_flag, any h.sample, Slot.restores_flag⟩
  case type => exact Slot.restores_optional (fun t _ => t.ofJson?_toJson) fun t _ => t.toJson_ne_null
  case enum => exact Slot.restores_listed fun _ _ => rfl
  case required => exact Slot.restores_listed fun _ _ => rfl

end Facets

namespace Schema

/-- If the parts of a schema are restored, so are all its fields. -/
theorem restores_slots {s : Schema} (hfacets : s.toFacets.Meets .storable)
    (hparts : ∀ t ∈ s.parts, ofJson? t.toJson = some t) : ∀ slot ∈ slots, slot.Restores s := by
  have hchild : ∀ {t}, t ∈ s.children → ofJson? t.toJson = some t :=
    fun ht => hparts _ (mem_parts_of_mem_children ht)
  refine forall_mem_slots (fun slot hslot => hfacets.restores slot hslot) ?_ ?_ ?_ ?_ ?_ ?_ ?_
  · refine Slot.restores_optional (fun t ht => hchild ?_) (by simp [toJson])
    exact mem_children.mpr (.inl ht)
  · refine Slot.restores_mapped fun e he => hparts _ ?_
    exact mem_parts.mpr (.inr (.inl ⟨e.1, he⟩))
  · refine Slot.restores_optional ?_ ?_
    · rintro (flag | t) ht
      · rfl
      · have hread : ofJson? t.toJson = some t := hchild (mem_children.mpr (.inr (.inl ht)))
        rw [Additional.toJson, Additional.ofJson?, hread, Option.map_some]
        simp [toJson]
    · rintro (flag | t) - <;> simp [Additional.toJson, toJson]
  · refine Slot.restores_listed fun t ht => hchild ?_
    exact mem_children.mpr (.inr (.inr (.inl ht)))
  · refine Slot.restores_listed fun t ht => hchild ?_
    exact mem_children.mpr (.inr (.inr (.inr (.inl ht))))
  · refine Slot.restores_listed fun t ht => hchild ?_
    exact mem_children.mpr (.inr (.inr (.inr (.inr ht))))
  · refine Slot.restores_optional (fun t ht => hparts _ ?_) (by simp [toJson])
    exact mem_parts.mpr (.inr (.inr ht))

theorem fresh_slots (s : Schema) : Slot.Fresh s { extensions := s.extensions } slots := by
  repeat' constructor

/-- All fields together make up the schema. -/
theorem foldr_copy_slots (s : Schema) : slots.foldr (·.copy s) { extensions := s.extensions } = s := by
  cases s with
  | mk facets items properties additional allOf oneOf anyOf excluded =>
    cases facets
    rfl

/-- **A schema that can be stored is restored from its tree.** -/
theorem ofJson?_toJson {s : Schema} (h : s.Meets .storable) : ofJson? s.toJson = some s := by
  induction s using induction_on_parts with
  | h s ih =>
    obtain ⟨htop, hparts⟩ := everywhere_iff.mp h
    have hrestores := restores_slots htop.facets fun t ht => ih t ht (hparts t ht)
    rw [toJson, ofJson?, ofFields?_eq_foldrM, toFields_eq, List.foldrM_append,
      foldrM_extensions htop.facets.names, Option.bind_eq_bind, Option.bind_some,
      Slot.foldrM_fields fieldNames_nodup (List.Subset.refl _) hrestores s.fresh_slots,
      foldr_copy_slots]

end Schema

/-! ### What is read can be stored -/

theorem yields_asDouble? : Yields ProperTop asDouble? fun x => x.isFinite = true := by
  intro j x hj hread
  cases j with
  | int n =>
    cases hread
    obtain ⟨hlow, hhigh⟩ := (everywhere_int.mp hj).2
    exact Decimal.Binary64.isFinite_ofInt hlow hhigh
  | float y =>
    cases hread
    exact (everywhere_float.mp hj).1
  | _ => cases hread

/-- A field that is read into a schema that can be stored leaves it so. -/
theorem Facets.Meets.set_slot {f : Facets} (h : f.Meets .storable) :
    ∀ slot ∈ slots, Yields ProperTop slot.read fun v => (slot.set v f).Meets .storable := by
  have any : Yields ProperTop (readOptional readAny) fun v => ∀ a ∈ v, a.Finite ∧ a ≠ .null :=
    fun j v hj hv a ha => (Yields.readAny j v hj hv a ha).imp_left Json.Proper.finite
  have double := yields_asDouble?.readOptional
  have hbounds := Facets.forall_mem_bounds.mp h.bounds
  obtain ⟨hmultiple, hmax, hbelow, hmin, habove⟩ := hbounds
  refine List.forall_iff_forall_mem.mp ⟨?_, ?_, ?_, ?_, ?_, ?default, ?enum, ?const, ?multiple,
    ?max, ?below, ?min, ?above, ?_, ?_, ?_, ?_, ?_, ?_, ?_, ?_, ?_, ?_, ?_, ?_, ?sample, ?_⟩
  case default => exact fun j v hj hv => { h with default := any j v hj hv }
  case const => exact fun j v hj hv => { h with constValue := any j v hj hv }
  case sample => exact fun j v hj hv => { h with sample := any j v hj hv }
  case enum =>
    have items : Yields ProperTop (readList readAny) fun l => ∀ a ∈ l, a.Finite :=
      Yields.readList fun j a hj ha => Option.some_inj.mp ha ▸ Json.Proper.finite hj
    exact fun j v hj hv => { h with enumValues := items j v hj hv }
  case multiple =>
    exact fun j v hj hv => { h with
      bounds := forall_mem_bounds.mpr ⟨double j v hj hv, hmax, hbelow, hmin, habove⟩ }
  case max =>
    exact fun j v hj hv => { h with
      bounds := forall_mem_bounds.mpr ⟨hmultiple, double j v hj hv, hbelow, hmin, habove⟩ }
  case below =>
    exact fun j v hj hv => { h with
      bounds := forall_mem_bounds.mpr ⟨hmultiple, hmax, double j v hj hv, hmin, habove⟩ }
  case min =>
    exact fun j v hj hv => { h with
      bounds := forall_mem_bounds.mpr ⟨hmultiple, hmax, hbelow, double j v hj hv, habove⟩ }
  case above =>
    exact fun j v hj hv => { h with
      bounds := forall_mem_bounds.mpr ⟨hmultiple, hmax, hbelow, hmin, double j v hj hv⟩ }
  all_goals exact fun _ _ _ _ => { h with limits := fun _ _ => trivial }

namespace Schema

theorem meets_empty : ({} : Schema).Meets .storable :=
  everywhere_of_parts_eq_nil rfl
    { facets := { bounds := by simp [Facets.bounds], limits := by simp [Facets.limits]
                  default := by simp, constValue := by simp, sample := by simp, enumValues := by simp
                  extensions := by simp, names := by simp [Demands.storable, Assoc.keys] }
      properties := trivial }

/-- The trees that are read as schemas that can be stored, if they are read as schemas at all. -/
def ReadsStorable (j : Json) : Prop :=
  j.ProperTop ∧ ∀ s, ofJson? j = some s → s.Meets .storable

theorem yields_ofJson? : Yields ReadsStorable ofJson? (Meets .storable) :=
  fun _ s hj hread => hj.self.2 s hread

theorem yields_additional : Yields ReadsStorable Additional.ofJson?
    fun a => ∀ t, a = .schema t → t.Meets .storable := by
  intro j a hj hread t ht
  subst ht
  unfold Additional.ofJson? at hread
  split at hread
  · cases hread
  · obtain ⟨s, hs, heq⟩ := Option.map_eq_some_iff.mp hread
    obtain rfl := Additional.schema.inj heq
    exact yields_ofJson? j s hj hs

/-- Every field that is read into a schema that can be stored leaves it so. -/
theorem Meets.set_slot {s : Schema} (h : s.Meets .storable) :
    ∀ slot ∈ slots, Yields ReadsStorable slot.read fun v => (slot.set v s).Meets .storable := by
  have htop : s.MeetsTop .storable := h s .refl
  have keep {s' : Schema} (hfacets : s'.toFacets = s.toFacets)
      (hparts : ∀ t ∈ s'.parts, t ∈ s.parts ∨ t.Meets .storable) : s'.Meets .storable :=
    h.extend (fun _ => ⟨hfacets ▸ htop.facets, trivial⟩) hparts
  refine forall_mem_slots (fun slot hslot j v hj hread => ?_) ?items ?properties ?additional ?allOf
    ?oneOf ?anyOf ?excluded
  · have hset := htop.facets.set_slot slot hslot j v (hj.imp fun _ hk => hk.1) hread
    have hparts : ((facetSlot slot).set v s).parts = s.parts := rfl
    exact Everywhere.congr hparts (fun _ => ⟨hset, trivial⟩) h
  case items =>
    intro j (v : Option Schema) hj hread
    have hv := yields_ofJson?.readOptional j v hj hread
    refine keep rfl fun t ht => ?_
    simp only [mem_parts, mem_children, itemsSlot, Slot.optional] at ht ⊢
    grind
  case properties =>
    intro j (v : Assoc Schema) hj hread
    have hv := yields_ofJson?.readAssoc j v hj hread
    refine keep rfl fun t ht => ?_
    simp only [mem_parts, mem_children, propertiesSlot, Slot.mapped] at ht ⊢
    grind
  case additional =>
    intro j (v : Option (Additional Schema)) hj hread
    have hv := yields_additional.readOptional j v hj hread
    refine keep rfl fun t ht => ?_
    simp only [mem_parts, mem_children, additionalSlot, Slot.optional] at ht ⊢
    grind
  case allOf =>
    intro j (v : List Schema) hj hread
    have hv := yields_ofJson?.readList j v hj hread
    refine keep rfl fun t ht => ?_
    simp only [mem_parts, mem_children, allOfSlot, Slot.listed] at ht ⊢
    grind
  case oneOf =>
    intro j (v : List Schema) hj hread
    have hv := yields_ofJson?.readList j v hj hread
    refine keep rfl fun t ht => ?_
    simp only [mem_parts, mem_children, oneOfSlot, Slot.listed] at ht ⊢
    grind
  case anyOf =>
    intro j (v : List Schema) hj hread
    have hv := yields_ofJson?.readList j v hj hread
    refine keep rfl fun t ht => ?_
    simp only [mem_parts, mem_children, anyOfSlot, Slot.listed] at ht ⊢
    grind
  case excluded =>
    intro j (v : Option Schema) hj hread
    have hv := yields_ofJson?.readOptional j v hj hread
    refine keep rfl fun t ht => ?_
    simp only [mem_parts, mem_children, excludedSlot, Slot.optional] at ht ⊢
    grind

theorem Meets.withExtension {s : Schema} (h : s.Meets .storable) {key : String} (hkey : key ∉ fieldNames)
    {value : Json} (hvalue : value.Finite) : (Schema.extend key value s).Meets .storable := by
  have hparts : (Schema.extend key value s).parts = s.parts := rfl
  refine Everywhere.congr hparts (fun htop => ⟨{ htop.facets with
    extensions := List.forall_mem_cons.mpr ⟨hvalue, htop.facets.extensions⟩
    names := List.forall_mem_cons.mpr ⟨hkey, htop.facets.names⟩ }, trivial⟩) h

/-- **A schema that is read can be stored.** -/
theorem meets_of_ofJson? {j : Json} {s : Schema} (hj : j.Proper) (h : ofJson? j = some s) :
    s.Meets .storable := by
  suffices hall : Json.Everywhere ReadsStorable j from yields_ofJson? j s hall h
  clear h
  induction j using Json.induction_on_members with
  | obj fields ih =>
    rw [Json.Proper, everywhere_obj] at hj
    have hfields : ∀ e ∈ fields, Json.Everywhere ReadsStorable e.2 :=
      fun e he => ih e he (hj.2 e he)
    refine everywhere_obj.mpr ⟨⟨hj.1, fun s hread => ?_⟩, hfields⟩
    rw [ofJson?, ofFields?_eq_foldrM] at hread
    refine Slot.foldrM_keeps (fun slot hslot s hs => hs.set_slot slot hslot)
      (fun key hkey value hvalue s hs => hs.withExtension hkey ?_) hfields meets_empty hread
    exact hvalue.imp fun _ hk => hk.1.1
  | arr items ih =>
    rw [Json.Proper, everywhere_arr] at hj
    exact everywhere_arr.mpr ⟨⟨hj.1, by simp [ofJson?]⟩, fun j hmem => ih j hmem (hj.2 j hmem)⟩
  | null => exact everywhere_null.mpr ⟨hj.self, by simp [ofJson?]⟩
  | bool b => exact everywhere_bool.mpr ⟨hj.self, by simp [ofJson?]⟩
  | int n => exact everywhere_int.mpr ⟨hj.self, by simp [ofJson?]⟩
  | float x => exact everywhere_float.mpr ⟨hj.self, by simp [ofJson?]⟩
  | str s => exact everywhere_str.mpr ⟨hj.self, by simp [ofJson?]⟩

end Schema

/-! ### Properties of the tree of a schema -/

/-- The demands that make `P` hold everywhere in a tree. -/
def Demands.fitting (P : Json → Prop) : Demands where
  bound x := P (.float x)
  limit n := P (.int n)
  single := Everywhere P
  sample := Everywhere P
  item := Everywhere P
  keys := AllowsKeys P
  names fields keys := ∀ names, names.Sublist fields → AllowsKeys P (names ++ keys)

section Fitting

variable {P : Json → Prop}

theorem Facets.Meets.everywhere_slots {f : Facets} (hP : Lenient P) (h : f.Meets (.fitting P)) :
    ∀ slot ∈ slots, ∀ j ∈ slot.write (slot.get f), Everywhere P j := by
  have double {v : Option Decimal.Binary64} (hv : ∀ x ∈ v, P (.float x)) :
      ∀ j ∈ v.map Json.float, Everywhere P j :=
    everywhere_map fun x hx => everywhere_float.mpr (hv x hx)
  have count {v : Option Nat} (hv : ∀ n ∈ v, P (.int n)) : ∀ j ∈ v.map ofNat, Everywhere P j :=
    everywhere_map fun n hn => everywhere_int.mpr (hv n hn)
  have type : ∀ j ∈ f.type.map SchemaType.toJson, Everywhere P j := by
    refine everywhere_map fun t _ => ?_
    cases t with
    | single name => exact hP.text name
    | multiple names => exact hP.list fun name _ => hP.text name
  obtain ⟨hmultiple, hmax, hbelow, hmin, habove⟩ := forall_mem_bounds.mp h.bounds
  obtain ⟨hmaxLength, hminLength, hmaxItems, hminItems, hmaxProperties, hminProperties⟩ :=
    forall_mem_limits.mp h.limits
  exact List.forall_iff_forall_mem.mp ⟨hP.textValue, type, hP.textValue, hP.textValue, hP.textValue,
    everywhere_map h.default, hP.listValue h.enumValues, everywhere_map h.constValue,
    double hmultiple, double hmax, double hbelow, double hmin, double habove, count hmaxLength,
    count hminLength, hP.textValue, count hmaxItems, count hminItems, hP.flagValue,
    hP.listValue fun s _ => hP.text s, count hmaxProperties, count hminProperties, hP.flagValue,
    hP.flagValue, hP.flagValue, everywhere_map h.sample, hP.flagValue⟩

/-- **What the demands make hold everywhere in the tree of a schema.** -/
theorem Schema.Meets.everywhere_toJson {s : Schema} (hP : Lenient P) (h : s.Meets (.fitting P)) :
    Json.Everywhere P s.toJson := by
  induction s using Schema.induction_on_parts with
  | h s ih =>
    obtain ⟨htop, hparts⟩ := Schema.everywhere_iff.mp h
    have hpart : ∀ t ∈ s.parts, Json.Everywhere P t.toJson := fun t ht => ih t ht (hparts t ht)
    have hchild : ∀ t ∈ s.children, Json.Everywhere P t.toJson :=
      fun t ht => hpart t (Schema.mem_parts_of_mem_children ht)
    have hslots : ∀ slot ∈ Schema.slots, ∀ j ∈ slot.write (slot.get s), Json.Everywhere P j := by
      refine Schema.forall_mem_slots (fun slot hslot => htop.facets.everywhere_slots hP slot hslot)
        ?_ ?_ ?_ ?_ ?_ ?_ ?_
      · exact everywhere_map fun t ht => hchild t (Schema.mem_children.mpr (.inl ht))
      · refine everywhere_mapValue htop.properties fun e he => hpart _ ?_
        exact Schema.mem_parts.mpr (.inr (.inl ⟨e.1, he⟩))
      · refine everywhere_map fun a ha => ?_
        cases a with
        | allowed flag => exact hP.truth flag
        | schema t => exact hchild t (Schema.mem_children.mpr (.inr (.inl ha)))
      · exact hP.listValue fun t ht => hchild t (Schema.mem_children.mpr (.inr (.inr (.inl ht))))
      · exact hP.listValue fun t ht =>
          hchild t (Schema.mem_children.mpr (.inr (.inr (.inr (.inl ht)))))
      · exact hP.listValue fun t ht =>
          hchild t (Schema.mem_children.mpr (.inr (.inr (.inr (.inr ht)))))
      · exact everywhere_map fun t ht => hpart t (Schema.mem_parts.mpr (.inr (.inr ht)))
    obtain ⟨hkeys, hvalues⟩ := Slot.everywhere_fields hslots
    rw [Schema.toJson, Schema.toFields_eq, everywhere_obj]
    refine ⟨htop.facets.names _ hkeys _ (List.map_append ..), fun e he => ?_⟩
    rcases List.mem_append.mp he with he | he
    · exact hvalues e he
    · exact htop.facets.extensions e he

end Fitting

end AnnotatedApi
