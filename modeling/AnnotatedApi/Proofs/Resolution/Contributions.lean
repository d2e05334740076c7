import AnnotatedApi.Proofs.Assoc
import AnnotatedApi.Proofs.Schema.Skeleton
import AnnotatedApi.Proofs.StructTag.Pairs

/-!
What the fields of a struct contribute to its schema.

Each exported name of a field that is neither embedded nor dropped contributes one property.  The
schema of a struct is what its comment makes of the empty object schema, with the contributions put
in one after another and a reference for each embedded named type (`structSchema_eq`).  Main
statement: `struct_has_exactly_its_contributions`.
-/

namespace AnnotatedApi

open Text

/-- One property that a field contributes to the schema of its struct. -/
structure Contribution where
  name : String
  schema : Schema
  required : Bool

namespace FieldOf

/-- The tag drops the field: it ignores it, in any letter case, or hides it from JSON. -/
def isDropped {τ : Type} (field : FieldOf τ) : Bool :=
  match field.tag with
  | some tag =>
    (tagValue? tag "swaggerignore").any (eqIgnoringAsciiCase · "true") ||
      tagValue? tag "json" == some "-"
  | none => false

/-- The name of the type that the field embeds, if it embeds a named type. -/
def embeddedName? (field : Field) : Option String :=
  if field.isEmbedded then field.type.deref.name? else none

/-- The tags of a field; without a tag, none are set. -/
def tags {τ : Type} (field : FieldOf τ) : StructTags :=
  (field.tag.map StructTags.parse).getD {}

/-- What a field contributes whose type has the schema `typeSchema`: one property for each exported
name, all with the same schema. Embedded and dropped fields contribute none. -/
def contributions (rules : RecordRules) (typeSchema : Schema) (field : Field) :
    List Contribution :=
  if field.isEmbedded || field.isDropped then []
  else (field.names.filter isExported).map fun name =>
    { name := field.tags.propertyName?.getD (rules.naming.apply name)
      schema := field.tags.apply (field.doc.lines.foldl applyFieldLine typeSchema)
      required := field.tags.isRequired field.type.isPointer rules.requiredByDefault }

/-- The tags of a field drop it iff they say so. An empty value counts as absent, and is none of
those that drop a field. -/
theorem ignored_or_isHidden {τ : Type} (field : FieldOf τ) :
    (((field.tag.map StructTags.parse).getD {}).ignored ||
      ((field.tag.map StructTags.parse).getD {}).isHidden) = field.isDropped := by
  unfold isDropped
  cases field.tag with
  | none => rfl
  | some tag =>
    have hignored : (StructTags.parse tag).ignored =
        (tagValue? tag "swaggerignore").any (eqIgnoringAsciiCase · "true") :=
      getD_map_filter_isEmpty (by decide) (tagValue? tag "swaggerignore")
    have hhidden : (StructTags.parse tag).isHidden = (tagValue? tag "json" == some "-") :=
      filter_isEmpty_beq (by decide) (tagValue? tag "json")
    rw [Option.map_some, Option.getD_some, hignored, hhidden]

end FieldOf

/-- What the fields of a struct contribute at the given depth, in order. -/
def Resolver.contributions (r : Resolver) (rules : RecordRules) (fields : List Field)
    (depth : Nat) : List Contribution :=
  fields.flatMap fun field => field.contributions rules (r.resolve (.source rules) field.type depth)

namespace Contribution

/-- The contribution as an entry among the properties. -/
def entry (c : Contribution) : String × Schema :=
  (c.name, c.schema)

/-- The names of the required ones, in order. -/
def requiredNames (cs : List Contribution) : List String :=
  (cs.filter (·.required)).map (·.name)

/-- The last one under a name: the one that finally defines the property. -/
def last? (cs : List Contribution) (name : String) : Option Contribution :=
  cs.reverse.find? (·.name == name)

/-- Puts one property into the schema of a struct. -/
def addTo (s : Schema) (c : Contribution) : Schema :=
  { s with
    properties := Assoc.insert s.properties c.name c.schema
    required := if c.required then s.required ++ [c.name] else s.required }

theorem requiredNames_append (cs ds : List Contribution) :
    requiredNames (cs ++ ds) = requiredNames cs ++ requiredNames ds := by
  simp [requiredNames]

/-- One contribution after another: properties are overwritten, required names pile up. -/
theorem foldl_addTo (cs : List Contribution) (s : Schema) :
    cs.foldl addTo s =
      { s with
        properties := cs.foldl (fun m c => Assoc.insert m c.name c.schema) s.properties
        required := s.required ++ requiredNames cs } := by
  induction cs generalizing s with
  | nil =>
    cases s
    simp [requiredNames]
  | cons c rest ih =>
    have hrequired : (addTo s c).required = s.required ++ requiredNames [c] := by
      cases hc : c.required <;> simp [addTo, requiredNames, hc]
    have hsplit : requiredNames (c :: rest) = requiredNames [c] ++ requiredNames rest :=
      requiredNames_append [c] rest
    rw [List.foldl_cons, ih, hrequired, List.append_assoc, ← hsplit]
    rfl

/-- Putting in all of them, starting from no properties. -/
theorem foldl_insert_eq_ofEntries (cs : List Contribution) :
    cs.foldl (fun m c => Assoc.insert m c.name c.schema) [] = Assoc.ofEntries (cs.map entry) := by
  rw [Assoc.ofEntries, List.foldl_map]
  rfl

theorem keys_map_entry (cs : List Contribution) :
    Assoc.keys (cs.map entry) = cs.map (·.name) := by
  simp [Assoc.keys, entry]

/-- A property has the schema of the last contribution under its name. -/
theorem get?_ofEntries_map_entry (cs : List Contribution) (name : String) :
    Assoc.get? (Assoc.ofEntries (cs.map entry)) name = (last? cs name).map (·.schema) := by
  rw [Assoc.get?_ofEntries, ← List.map_reverse, List.find?_map, Option.map_map]
  rfl

theorem mem_requiredNames {cs : List Contribution} {name : String} :
    name ∈ requiredNames cs ↔ ∃ c ∈ cs, c.required = true ∧ c.name = name := by
  simp [requiredNames, and_assoc]

end Contribution

open Contribution

/-! ### One field -/

/-- The schema that is also composed of references to the given names. -/
def Schema.composedOf (s : Schema) (names : List String) : Schema :=
  { s with allOf := s.allOf ++ names.map .ref }

theorem Schema.composedOf_nil (s : Schema) : s.composedOf [] = s := by
  cases s
  simp [composedOf]

theorem Schema.composedOf_append (s : Schema) (names names' : List String) :
    s.composedOf (names ++ names') = (s.composedOf names).composedOf names' := by
  simp [composedOf]

/-- Contributions and references do not get in each other's way. -/
theorem composedOf_foldl_addTo (cs : List Contribution) (s : Schema) (names : List String) :
    (cs.foldl addTo s).composedOf names = cs.foldl addTo (s.composedOf names) := by
  rw [foldl_addTo, foldl_addTo]
  rfl

/-- A field adds a reference for the named type that it embeds, and its contributions. -/
theorem addField_eq (rules : RecordRules) (typeSchema : Schema) (field : Field) (s : Schema) :
    addField rules typeSchema field s =
      (field.contributions rules typeSchema).foldl addTo
        (s.composedOf field.embeddedName?.toList) := by
  unfold addField FieldOf.embeddedName? FieldOf.contributions
  rw [← FieldOf.ignored_or_isHidden]
  by_cases hembedded : field.isEmbedded = true
  · rw [if_pos hembedded, if_pos hembedded, if_pos (by simp [hembedded])]
    cases field.type.deref.name? with
    | some name => rfl
    | none => exact s.composedOf_nil.symm
  · rw [if_neg hembedded, if_neg hembedded, Option.toList_none, s.composedOf_nil]
    simp only [hembedded, Bool.false_or]
    split
    · rfl
    · rw [List.foldl_map]
      rfl

namespace Resolver

variable (r : Resolver) (rules : RecordRules)

theorem addFields_eq (fields : List Field) (depth : Nat) (s : Schema) :
    r.addFields (.source rules) rules fields depth s =
      (r.contributions rules fields depth).foldl addTo
        (s.composedOf (fields.filterMap FieldOf.embeddedName?)) := by
  induction fields generalizing s with
  | nil => exact s.composedOf_nil.symm
  | cons field rest ih =>
    have hnames : (field :: rest).filterMap FieldOf.embeddedName? =
        field.embeddedName?.toList ++ rest.filterMap FieldOf.embeddedName? := by
      cases hname : field.embeddedName? <;> simp [hname]
    rw [addFields, ih, addField_eq, composedOf_foldl_addTo, ← Schema.composedOf_append, ← hnames,
      ← List.foldl_append]
    rfl

/-- What the comment on a struct makes of the empty object schema. -/
def commentedObject (doc : Option CommentGroup) : Schema :=
  ((doc.map (·.lines)).getD []).foldl applyStructLine (.typed "object")

theorem skeleton_commentedObject (doc : Option CommentGroup) :
    (commentedObject doc).skeleton = (Schema.typed "object").skeleton :=
  skeleton_foldl skeleton_applyStructLine _ _

/-- The schema of a struct: what its comment says, and what its fields contribute. -/
theorem structSchema_eq (fields : List Field) (doc : Option CommentGroup) (depth : Nat) :
    r.structSchema rules fields doc depth =
      { commentedObject doc with
        properties := Assoc.ofEntries ((r.contributions rules fields depth).map entry)
        required := requiredNames (r.contributions rules fields depth)
        allOf := (fields.filterMap FieldOf.embeddedName?).map .ref } := by
  have hskeleton := skeleton_commentedObject doc
  have hproperties : (commentedObject doc).properties = [] :=
    congrArg Schema.properties hskeleton
  have hrequired : (commentedObject doc).required = [] :=
    congrArg (·.required) hskeleton
  have hallOf : (commentedObject doc).allOf = [] := congrArg Schema.allOf hskeleton
  rw [structSchema, ← commentedObject, addFields_eq, foldl_addTo, ← foldl_insert_eq_ofEntries]
  simp only [Schema.composedOf, hproperties, hrequired, hallOf, List.nil_append]

end Resolver

/-- **A struct has exactly its contributions.**  The schema of a struct is an object composed of the
named types that the fields embed, in order.  It requires only properties that it has.  If the
names of the contributions are distinct, its properties are the contributions in order, and it
requires those that are required.  In any case a property has the schema of the last contribution
under its name and stands at the place of the first, and the required ones are all listed. -/
theorem struct_has_exactly_its_contributions (r : Resolver) (rules : RecordRules)
    (fields : List Field) (doc : Option CommentGroup) (depth : Nat) :
    let s := r.structSchema rules fields doc depth
    let cs := r.contributions rules fields depth
    s.type = some (.single "object") ∧
    (∀ name ∈ s.required, name ∈ Assoc.keys s.properties) ∧
    s.allOf = (fields.filterMap FieldOf.embeddedName?).map .ref ∧
    ((cs.map (·.name)).Nodup →
      s.properties = cs.map (fun c => (c.name, c.schema)) ∧
      s.required = (cs.filter (·.required)).map (·.name) ∧ s.required.Nodup) ∧
    (∀ name, Assoc.get? s.properties name = (last? cs name).map (·.schema)) ∧
    Assoc.keys s.properties = (cs.map (·.name)).eraseDups ∧
    s.required = (cs.filter (·.required)).map (·.name) := by
  intro s cs
  have hs : s = { Resolver.commentedObject doc with
      properties := Assoc.ofEntries (cs.map entry)
      required := requiredNames cs
      allOf := (fields.filterMap FieldOf.embeddedName?).map .ref } :=
    r.structSchema_eq rules fields doc depth
  have hproperties : s.properties = Assoc.ofEntries (cs.map entry) := by rw [hs]
  have hrequired : s.required = requiredNames cs := by rw [hs]
  have hkeys : Assoc.keys s.properties = (cs.map (·.name)).eraseDups := by
    rw [hproperties, Assoc.keys_ofEntries, keys_map_entry]
  refine ⟨?_, fun name hname => ?_, by rw [hs], fun hnodup => ⟨?_, hrequired, ?_⟩, fun name => ?_,
    hkeys, hrequired⟩
  · rw [hs]
    exact congrArg (·.type) (Resolver.skeleton_commentedObject doc)
  · obtain ⟨c, hc, -, rfl⟩ := mem_requiredNames.mp (hrequired ▸ hname)
    rw [hkeys, List.mem_eraseDups]
    exact List.mem_map_of_mem hc
  · rw [hproperties]
    exact Assoc.ofEntries_of_nodup ((keys_map_entry cs).symm ▸ hnodup)
  · rw [hrequired]
    exact hnodup.sublist (List.filter_sublist.map _)
  · rw [hproperties, get?_ofEntries_map_entry]

/-- An embedded pointer, a hidden field, a required field that its tag names, and a declaration of
three names, one of which is not exported. -/
theorem properties_of_point :
    let base : Field := { names := [], type := .pointer (.ident "Base") }
    let secret : Field := { names := ["Secret"], type := .ident "string", tag := some "json:\x22-\x22" }
    let label : Field :=
      { names := ["Label"], type := .ident "string"
        tag := some "json:\x22id\x22 binding:\x22required\x22" }
    let position : Field := { names := ["X", "y", "Z"], type := .ident "float64" }
    let fields := [base, secret, label, position]
    let cs := Resolver.contributions {} {} fields 0
    let s := Resolver.structSchema {} {} fields none 0
    cs.map (·.name) = ["id", "x", "z"] ∧ (cs.map (·.name)).Nodup ∧
    s.properties = cs.map (fun c => (c.name, c.schema)) ∧ s.required = ["id"] ∧
    s.allOf = [.ref "Base"] := by
  intro base secret label position fields cs s
  have hnames : cs.map (·.name) = ["id", "x", "z"] := by decide
  have hrequired : (cs.filter (·.required)).map (·.name) = ["id"] := by decide
  have hnodup : (cs.map (·.name)).Nodup := by
    rw [hnames]
    decide
  obtain ⟨-, -, hallOf, hdistinct, -⟩ :=
    struct_has_exactly_its_contributions {} {} fields none 0
  obtain ⟨hproperties, hlisted, -⟩ := hdistinct hnodup
  exact ⟨hnames, hnodup, hproperties, hlisted.trans hrequired, hallOf⟩

end AnnotatedApi
