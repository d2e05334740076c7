import AnnotatedApi.Build
import AnnotatedApi.Proofs.Resolution.Contributions
import AnnotatedApi.Proofs.Resolution.References

/-!
The required properties of structs.

Properties are overwritten by later contributions under their name, required names pile up.  So the
two agree iff no contribution comes after a required one of the same name (`requiredAgrees_iff_requiredKept`).
Every required list inside the schema of a type is that of some struct in the type
(`everywhere_resolve_fromStruct`), which makes this the exact condition at every depth.  Main
statement: `required_names_agree_iff_not_overwritten`.
-/

namespace AnnotatedApi

open Contribution

namespace Contribution

/-- The list names no property twice, and only such properties as the contribution that finally
defines them is required. -/
def RequiredAgrees (required : List String) (cs : List Contribution) : Prop :=
  required.Nodup ∧ ∀ name ∈ required, ∃ c, last? cs name = some c ∧ c.required = true

/-- No contribution comes after a required one of the same name. -/
def RequiredKept (cs : List Contribution) : Prop :=
  cs.Pairwise fun c d => c.required = true → c.name ≠ d.name

theorem last?_cons (c : Contribution) (rest : List Contribution) (name : String) :
    last? (c :: rest) name =
      (last? rest name).or (if c.name = name then some c else none) := by
  rw [last?, List.reverse_cons, List.find?_append, last?]
  by_cases hname : c.name = name <;> simp [hname]

theorem last?_eq_none_iff {cs : List Contribution} {name : String} :
    last? cs name = none ↔ ∀ c ∈ cs, c.name ≠ name := by
  simp [last?]

theorem last?_eq_some {cs : List Contribution} {name : String} {c : Contribution}
    (h : last? cs name = some c) : c ∈ cs ∧ c.name = name :=
  ⟨List.mem_reverse.mp (List.mem_of_find?_eq_some h), by simpa using List.find?_some h⟩

theorem exists_last?_of_mem {cs : List Contribution} {c : Contribution} (h : c ∈ cs) :
    ∃ d, last? cs c.name = some d :=
  Option.ne_none_iff_exists'.mp fun hnone => last?_eq_none_iff.mp hnone c h rfl

theorem requiredNames_cons (c : Contribution) (rest : List Contribution) :
    requiredNames (c :: rest) = (if c.required then [c.name] else []) ++ requiredNames rest := by
  cases hc : c.required <;> simp [requiredNames, hc]

/-- The required names agree with the properties iff no contribution overwrites a required one. -/
theorem requiredAgrees_iff_requiredKept (cs : List Contribution) :
    RequiredAgrees (requiredNames cs) cs ↔ RequiredKept cs := by
  induction cs with
  | nil => simp [RequiredAgrees, RequiredKept, requiredNames]
  | cons c rest ih =>
    rw [RequiredKept, List.pairwise_cons, ← RequiredKept, ← ih]
    constructor
    · rintro ⟨hnodup, hfinal⟩
      rw [requiredNames_cons, List.nodup_append] at hnodup
      obtain ⟨-, hrest, hdisjoint⟩ := hnodup
      -- What is last in the rest is last of all.
      have hlast : ∀ name ∈ requiredNames (c :: rest), ∀ d, last? rest name = some d →
          d.required = true := by
        intro name hname d hd
        obtain ⟨e, he, hrequired⟩ := hfinal name hname
        rw [last?_cons, hd, Option.some_or] at he
        exact Option.some_inj.mp he ▸ hrequired
      refine ⟨fun d hd hc hname => ?_, hrest, fun name hname => ?_⟩
      · -- The last one in the rest under this name would be required as well.
        have hmem : c.name ∈ requiredNames (c :: rest) := by simp [requiredNames_cons, hc]
        obtain ⟨e, he⟩ := exists_last?_of_mem hd
        rw [← hname] at he
        obtain ⟨herest, hename⟩ := last?_eq_some he
        have htwice : c.name ∈ requiredNames rest :=
          mem_requiredNames.mpr ⟨e, herest, hlast c.name hmem e he, hename⟩
        exact hdisjoint c.name (by simp [hc]) c.name htwice rfl
      · obtain ⟨d, hd, -, rfl⟩ := mem_requiredNames.mp hname
        obtain ⟨e, he⟩ := exists_last?_of_mem hd
        have hmem : d.name ∈ requiredNames (c :: rest) := by
          rw [requiredNames_cons]
          exact List.mem_append_right _ hname
        exact ⟨e, he, hlast d.name hmem e he⟩
    · rintro ⟨hfirst, hnodup, hfinal⟩
      have hnew : c.required = true → ∀ d ∈ rest, d.name ≠ c.name :=
        fun hc d hd => (hfirst d hd hc).symm
      rw [requiredNames_cons]
      refine ⟨List.nodup_append.mpr ⟨by split <;> simp, hnodup, ?_⟩, fun name hname => ?_⟩
      · intro name hname name' hname' heq
        obtain ⟨d, hd, -, rfl⟩ := mem_requiredNames.mp hname'
        split at hname
        · next hc => exact hnew hc d hd (heq.symm.trans (List.mem_singleton.mp hname))
        · simp at hname
      · rw [last?_cons]
        rcases List.mem_append.mp hname with hname | hname
        · split at hname
          · next hc =>
            obtain rfl := List.mem_singleton.mp hname
            exact ⟨c, by simp [last?_eq_none_iff.mpr (hnew hc)], hc⟩
          · simp at hname
        · obtain ⟨d, hd, hrequired⟩ := hfinal name hname
          exact ⟨d, by rw [hd, Option.some_or], hrequired⟩

end Contribution

/-! ### Structs in types -/

/-- The type has an inline struct with the given fields, at any depth. The keys of maps do not
count. -/
inductive TypeExpr.HasStruct : TypeExpr → List Field → Prop
  | top (fields : List Field) : HasStruct (.struct fields) fields
  | pointer {target : TypeExpr} {fields : List Field} :
    target.HasStruct fields → HasStruct (.pointer target) fields
  | slice {element : TypeExpr} {fields : List Field} :
    element.HasStruct fields → HasStruct (.slice element) fields
  | map {key value : TypeExpr} {fields : List Field} :
    value.HasStruct fields → HasStruct (.map key value) fields
  | field {field : Field} {outer fields : List Field} :
    field ∈ outer → field.type.HasStruct fields → HasStruct (.struct outer) fields

namespace Resolver

variable (r : Resolver) (rules : RecordRules)

/-- A schema that requires properties has its properties and their requirements from a struct with
fields such as `S` says. -/
def FromStruct (S : List Field → Prop) (s : Schema) : Prop :=
  s.required ≠ [] → ∃ fields depth, S fields ∧
    s.properties = Assoc.ofEntries ((r.contributions rules fields depth).map entry) ∧
    s.required = requiredNames (r.contributions rules fields depth)

variable {r rules}

theorem fromStruct_of_required_eq_nil {S : List Field → Prop} {s : Schema} (h : s.required = []) :
    r.FromStruct rules S s :=
  fun hne => absurd h hne

theorem FromStruct.imp {S S' : List Field → Prop} (hS : ∀ fields, S fields → S' fields)
    {s : Schema} (h : r.FromStruct rules S s) : r.FromStruct rules S' s := by
  intro hne
  obtain ⟨fields, depth, hfields, hparts⟩ := h hne
  exact ⟨fields, depth, hS fields hfields, hparts⟩

theorem everywhere_fromStruct_imp {S S' : List Field → Prop} (hS : ∀ fields, S fields → S' fields)
    {s : Schema} (h : Schema.Everywhere (r.FromStruct rules S) s) :
    Schema.Everywhere (r.FromStruct rules S') s :=
  fun t ht => (h t ht).imp hS

/-- Tags and comments on a field leave it open which properties are required. -/
theorem everywhere_fromStruct_decorated {S : List Field → Prop} {s : Schema}
    (h : Schema.Everywhere (r.FromStruct rules S) s) (tags : StructTags) (lines : List String) :
    Schema.Everywhere (r.FromStruct rules S) (tags.apply (lines.foldl applyFieldLine s)) := by
  have hlines : Schema.Everywhere (r.FromStruct rules S) (lines.foldl applyFieldLine s) :=
    h.of_skeleton (fun _ => Iff.rfl) (skeleton_foldl skeleton_applyFieldLine lines s)
  exact hlines.applyTags (fun _ => Iff.rfl) (fun _ _ => id) (fun _ _ => id)
    (fun _ => fromStruct_of_required_eq_nil rfl) tags

/-- Where the schema of a contribution comes from. -/
theorem schema_of_mem_contributions {fields : List Field} {depth : Nat} {c : Contribution}
    (h : c ∈ r.contributions rules fields depth) : ∃ field ∈ fields,
      c.schema = field.tags.apply (field.doc.lines.foldl applyFieldLine
        (r.resolve (.source rules) field.type depth)) := by
  obtain ⟨field, hfield, hc⟩ := List.mem_flatMap.mp h
  unfold FieldOf.contributions at hc
  split at hc
  · simp at hc
  · obtain ⟨name, -, rfl⟩ := List.mem_map.mp hc
    exact ⟨field, hfield, rfl⟩

/-- Inside the schema of a struct there are references and the schemas of its contributions. -/
theorem parts_structSchema {fields : List Field} {doc : Option CommentGroup} {depth : Nat}
    {t : Schema} (h : t ∈ (r.structSchema rules fields doc depth).parts) :
    (∃ name, t = .ref name) ∨ ∃ c ∈ r.contributions rules fields depth, t = c.schema := by
  have hskeleton := skeleton_commentedObject doc
  have hitems : (commentedObject doc).items = none := congrArg Schema.items hskeleton
  have hadditional : (commentedObject doc).additional = none :=
    congrArg Schema.additional hskeleton
  have honeOf : (commentedObject doc).oneOf = [] := congrArg Schema.oneOf hskeleton
  have hanyOf : (commentedObject doc).anyOf = [] := congrArg Schema.anyOf hskeleton
  have hexcluded : (commentedObject doc).excluded = none := congrArg Schema.excluded hskeleton
  rw [structSchema_eq, Schema.mem_parts, Schema.mem_children] at h
  simp only [hitems, hadditional, honeOf, hanyOf, hexcluded, reduceCtorEq, List.not_mem_nil,
    false_or, or_false] at h
  rcases h with hallOf | ⟨name, hproperty⟩
  · obtain ⟨name, -, rfl⟩ := List.mem_map.mp hallOf
    exact .inl ⟨name, rfl⟩
  · have hentries := Assoc.forall_mem_ofEntries
      (P := fun t => ∃ c ∈ r.contributions rules fields depth, t = c.schema)
      ((List.forall_mem_map (f := entry)).mpr fun c hc => ⟨c, hc, rfl⟩)
    exact .inr (hentries _ hproperty)

/-- What finally defines a property stands inside the schema of the struct. -/
theorem schema_mem_parts_of_last? {fields : List Field} {depth : Nat} {name : String}
    {c : Contribution} (h : last? (r.contributions rules fields depth) name = some c)
    (doc : Option CommentGroup) : c.schema ∈ (r.structSchema rules fields doc depth).parts := by
  have hget : Assoc.get? (r.structSchema rules fields doc depth).properties name =
      some c.schema := by
    rw [structSchema_eq, get?_ofEntries_map_entry, h, Option.map_some]
  exact Schema.mem_parts.mpr (.inr (.inl ⟨name, Assoc.mem_of_get? hget⟩))

/-- The required lists of a struct come from itself and from the structs in the types of its
fields. -/
theorem everywhere_structSchema_fromStruct {S : List Field → Prop} {fields : List Field}
    {depth : Nat} (hself : S fields)
    (hfields : ∀ field ∈ fields, Schema.Everywhere (r.FromStruct rules S)
      (r.resolve (.source rules) field.type depth)) (doc : Option CommentGroup) :
    Schema.Everywhere (r.FromStruct rules S) (r.structSchema rules fields doc depth) := by
  rw [Schema.everywhere_iff]
  refine ⟨fun _ => ⟨fields, depth, hself, ?_, ?_⟩, fun t ht => ?_⟩
  · rw [structSchema_eq]
  · rw [structSchema_eq]
  · rcases parts_structSchema ht with ⟨name, rfl⟩ | ⟨c, hc, rfl⟩
    · exact Schema.everywhere_of_parts_eq_nil rfl (fromStruct_of_required_eq_nil rfl)
    · obtain ⟨field, hfield, hschema⟩ := schema_of_mem_contributions hc
      rw [hschema]
      exact everywhere_fromStruct_decorated (hfields field hfield) _ _

theorem everywhere_leaf_fromStruct {S : List Field → Prop} {s : Schema} (h : s.IsPlain) :
    Schema.Everywhere (r.FromStruct rules S) s := by
  refine Schema.everywhere_of_parts_eq_nil h.1.1 (fromStruct_of_required_eq_nil ?_)
  rw [h.2]

/-- The required lists inside the schema of a type come from the structs in the type. -/
theorem everywhere_resolve_fromStruct (r : Resolver) (rules : RecordRules) :
    ∀ e depth, Schema.Everywhere (r.FromStruct rules (TypeExpr.HasStruct e))
      (r.resolve (.source rules) e depth) := by
  have hempty : ∀ S, Schema.Everywhere (r.FromStruct rules S) {} :=
    fun S => Schema.everywhere_of_parts_eq_nil rfl (fromStruct_of_required_eq_nil rfl)
  refine (Resolver.resolve.mutual_induct r (.source rules)
    (fun e depth => Schema.Everywhere (r.FromStruct rules e.HasStruct)
      (r.resolve (.source rules) e depth))
    (fun _ fields depth _ => ∀ field ∈ fields, Schema.Everywhere
      (r.FromStruct rules field.type.HasStruct)
      (r.resolve (.source rules) field.type depth)) ?_ ?_ ?_ ?_ ?_ ?_ ?_ ?_ ?_ ?_ ?_ ?_).1
  · intro e depth hend
    unfold Resolver.resolve
    rw [if_pos hend]
    exact hempty _
  · intro depth hgo name
    rw [Resolver.resolve, if_neg hgo]
    exact everywhere_leaf_fromStruct (r.isPlain_named _ name)
  · intro depth hgo package name
    rw [Resolver.resolve, if_neg hgo]
    exact everywhere_leaf_fromStruct (r.isPlain_named _ _)
  · intro depth hgo target ih
    rw [Resolver.resolve, if_neg hgo]
    exact everywhere_fromStruct_imp (fun _ => .pointer) ih
  · intro depth hgo element ih
    rw [Resolver.resolve, if_neg hgo]
    exact (everywhere_fromStruct_imp (fun _ => .slice) ih).of_parts_eq_singleton rfl
      (fromStruct_of_required_eq_nil rfl)
  · intro depth hgo key value ih
    rw [Resolver.resolve, if_neg hgo]
    exact (everywhere_fromStruct_imp (fun _ => .map) ih).of_parts_eq_singleton rfl
      (fromStruct_of_required_eq_nil rfl)
  -- Inline structs: the vocabulary is that of source files.
  · intro depth hgo fields hv
    exact absurd hv (by simp)
  · intro depth hgo fields rules' hv ih
    cases hv
    rw [Resolver.resolve, if_neg hgo]
    exact everywhere_structSchema_fromStruct (.top fields)
      (fun field hfield => everywhere_fromStruct_imp (fun _ => .field hfield) (ih field hfield)) none
  · intro depth hgo
    rw [Resolver.resolve, if_neg hgo]
    exact hempty _
  · intro depth hgo text
    rw [Resolver.resolve, if_neg hgo]
    exact hempty _
  · intro _ depth s field hfield
    simp at hfield
  · intro _ names type tag doc rest depth s ihType ihRest field hfield
    rcases List.mem_cons.mp hfield with rfl | hrest
    · exact ihType
    · exact ihRest field hrest

end Resolver

/-- **Required names agree with the properties iff no required one is overwritten.**  The required
list of the schema of a declared struct names no property twice, and only properties that are
required by what finally defines them, iff no contribution of the struct comes after a required one
of the same name.  The same is the exact condition for every required list inside the schema: it is
that of a struct in the declared type, together with the properties. -/
theorem required_names_agree_iff_not_overwritten {r : Resolver} {rules : RecordRules}
    {decl : TypeDecl} {s : Schema} (hs : Build.typeSchema? r rules decl = some s) :
    (∃ fields, decl.type = .struct fields ∧
      (RequiredAgrees s.required (r.contributions rules fields 0) ↔
        RequiredKept (r.contributions rules fields 0))) ∧
    ∀ t, s.Within t → t.required ≠ [] → ∃ fields depth, decl.type.HasStruct fields ∧
      t.properties = Assoc.ofEntries ((r.contributions rules fields depth).map entry) ∧
      t.required = requiredNames (r.contributions rules fields depth) ∧
      (RequiredAgrees t.required (r.contributions rules fields depth) ↔
        RequiredKept (r.contributions rules fields depth)) := by
  unfold Build.typeSchema? at hs
  split at hs
  · next fields hdecl =>
    obtain rfl := Option.some_inj.mp hs
    have hrequired : (r.structSchema rules fields (some decl.doc) 0).required =
        requiredNames (r.contributions rules fields 0) := by rw [Resolver.structSchema_eq]
    refine ⟨⟨fields, hdecl, by rw [hrequired, requiredAgrees_iff_requiredKept]⟩, fun t ht hne => ?_⟩
    have hinside := Resolver.everywhere_structSchema_fromStruct (S := TypeExpr.HasStruct decl.type)
      (hdecl ▸ .top fields) (fun field hfield => Resolver.everywhere_fromStruct_imp
        (fun _ hstruct => hdecl ▸ .field hfield hstruct)
        (r.everywhere_resolve_fromStruct rules field.type 0)) (some decl.doc)
    obtain ⟨inner, depth, hstruct, hproperties, hlisted⟩ := hinside t ht hne
    exact ⟨inner, depth, hstruct, hproperties, hlisted, by rw [hlisted, requiredAgrees_iff_requiredKept]⟩
  · cases hs

/-- A struct below a slice: its required list stands inside the schema of the declaration. -/
theorem required_names_of_order_lines :
    let sku : Field :=
      { names := ["SKU"], type := .ident "string", tag := some "binding:\x22required\x22" }
    let lines : Field := { names := ["Lines"], type := .slice (.struct [sku]) }
    let decl : TypeDecl := { name := "Order", type := .struct [lines], line := 1 }
    let s := Resolver.structSchema {} {} [lines] (some {}) 0
    let t := Resolver.structSchema {} {} [sku] none 2
    Build.typeSchema? {} {} decl = some s ∧ s.Within t ∧ t.required ≠ [] ∧
    ∃ fields depth, decl.type.HasStruct fields ∧
      t.properties = Assoc.ofEntries ((Resolver.contributions {} {} fields depth).map entry) ∧
      t.required = requiredNames (Resolver.contributions {} {} fields depth) ∧
      (RequiredAgrees t.required (Resolver.contributions {} {} fields depth) ↔
        RequiredKept (Resolver.contributions {} {} fields depth)) := by
  intro sku lines decl s t
  have hs : Build.typeSchema? {} {} decl = some s := rfl
  have hrequired : t.required = ["sKU"] := by
    have hnames : requiredNames (Resolver.contributions {} {} [sku] 2) = ["sKU"] := by
      decide
    rw [← hnames, show t = _ from Resolver.structSchema_eq {} {} [sku] none 2]
  have hnames : (Resolver.contributions {} {} [lines] 0).map (·.name) = ["lines"] := by
    decide
  obtain ⟨d, hd⟩ : ∃ d, d ∈ Resolver.contributions {} {} [lines] 0 :=
    List.exists_mem_of_ne_nil _ fun hnil => by simp [hnil] at hnames
  -- The property is the slice, and its items are the inline struct.
  obtain ⟨c, hc⟩ := exists_last?_of_mem hd
  have hproperty : c.schema ∈ s.parts := Resolver.schema_mem_parts_of_last? hc _
  have hitems : t ∈ c.schema.parts := by
    obtain ⟨field, hfield, hschema⟩ := Resolver.schema_of_mem_contributions (last?_eq_some hc).1
    obtain rfl := List.mem_singleton.mp hfield
    have hslice : c.schema.items = some t := by
      rw [hschema]
      rfl
    exact Schema.mem_parts.mpr (.inl (Schema.mem_children.mpr (.inl hslice)))
  have hwithin : s.Within t := .head hproperty (.single hitems)
  have hne : t.required ≠ [] := by
    rw [hrequired]
    simp
  exact ⟨hs, hwithin, hne, (required_names_agree_iff_not_overwritten hs).2 t hwithin hne⟩

/-- Two names of one declaration share a tag, and a pointer overwrites a required property: one name
is required twice, and an optional property is required. -/
theorem shared_names_are_still_required :
    let axes : Field :=
      { names := ["X", "Y"], type := .ident "float64"
        tag := some "json:\x22x\x22 binding:\x22required\x22" }
    let id : Field :=
      { names := ["ID"], type := .ident "string"
        tag := some "json:\x22id\x22 binding:\x22required\x22" }
    let key : Field :=
      { names := ["Key"], type := .pointer (.ident "string"), tag := some "json:\x22id\x22" }
    let decl : TypeDecl := { name := "Point", type := .struct [axes, id, key], line := 1 }
    ∃ s, Build.typeSchema? {} {} decl = some s ∧ Assoc.keys s.properties = ["x", "id"] ∧
      s.required = ["x", "x", "id"] ∧ ¬s.required.Nodup ∧
      (last? (Resolver.contributions {} {} [axes, id, key] 0) "id").map (·.required) =
        some false := by
  intro axes id key decl
  have heq := Resolver.structSchema_eq {} {} [axes, id, key] (some decl.doc) 0
  have hkeys : Assoc.keys (Resolver.structSchema {} {} [axes, id, key] (some decl.doc) 0).properties
      = ["x", "id"] := by
    rw [heq, Assoc.keys_ofEntries, keys_map_entry]
    decide
  have hrequired : (Resolver.structSchema {} {} [axes, id, key] (some decl.doc) 0).required =
      ["x", "x", "id"] := by
    rw [heq]
    decide
  refine ⟨_, rfl, hkeys, hrequired, ?_, by decide⟩
  rw [hrequired]
  decide

end AnnotatedApi
