import AnnotatedApi.Schema.Encoding
import AnnotatedApi.Proofs.Json.Record

/-!
The fields of a schema, as a table.

`Schema.slots` lists the fields of a schema in the order in which they are written, each with its name,
the way its value is written and read, and its place in the schema.  What is written of a schema are
the fields of the table, followed by its extensions (`toFields_eq`).  What is read is put into the
table field by field, from the last one to the first, and a field that the table does not have is an
extension (`ofFields?_eq_foldrM`).
-/

namespace AnnotatedApi

open Json

/-- What is allowed for further properties, as a tree. -/
def Additional.toJson : Additional Schema → Json
  | .allowed flag => .bool flag
  | .schema s => s.toJson

/-- What a tree allows for further properties. -/
def Additional.ofJson? : Json → Option (Additional Schema)
  | .bool flag => some (.allowed flag)
  | j => (Schema.ofJson? j).map .schema

theorem SchemaType.ofJson?_toJson (t : SchemaType) : SchemaType.ofJson? t.toJson = some t := by
  cases t with
  | single name => rfl
  | multiple names =>
    have hnames : (names.map Json.str).mapM asText? = some names := mapM_map_eq_some fun _ _ => rfl
    rw [SchemaType.toJson, SchemaType.ofJson?, hnames, Option.map_some]

theorem SchemaType.toJson_ne_null (t : SchemaType) : t.toJson ≠ .null := by
  cases t <;> simp [SchemaType.toJson]

namespace Facets

/-- The fields in front of `items`. -/
def leadingSlots : List (Slot Facets) :=
  [.optional "$ref" .str asText? (·.reference) fun v f => { f with reference := v },
    .optional "type" SchemaType.toJson SchemaType.ofJson? (·.type) fun v f => { f with type := v },
    .optional "format" .str asText? (·.format) fun v f => { f with format := v },
    .optional "title" .str asText? (·.title) fun v f => { f with title := v },
    .optional "description" .str asText? (·.description) fun v f => { f with description := v },
    .optional "default" id readAny (·.default) fun v f => { f with default := v },
    .listed "enum" id readAny (·.enumValues) fun v f => { f with enumValues := v },
    .optional "const" id readAny (·.constValue) fun v f => { f with constValue := v },
    .optional "multipleOf" .float asDouble? (·.multipleOf) fun v f => { f with multipleOf := v },
    .optional "maximum" .float asDouble? (·.maximum) fun v f => { f with maximum := v },
    .optional "exclusiveMaximum" .float asDouble? (·.exclusiveMaximum)
      fun v f => { f with exclusiveMaximum := v },
    .optional "minimum" .float asDouble? (·.minimum) fun v f => { f with minimum := v },
    .optional "exclusiveMinimum" .float asDouble? (·.exclusiveMinimum)
      fun v f => { f with exclusiveMinimum := v },
    .optional "maxLength" ofNat asNat? (·.maxLength) fun v f => { f with maxLength := v },
    .optional "minLength" ofNat asNat? (·.minLength) fun v f => { f with minLength := v },
    .optional "pattern" .str asText? (·.pattern) fun v f => { f with pattern := v }]

/-- The fields between `items` and `properties`. -/
def sizeSlots : List (Slot Facets) :=
  [.optional "maxItems" ofNat asNat? (·.maxItems) fun v f => { f with maxItems := v },
    .optional "minItems" ofNat asNat? (·.minItems) fun v f => { f with minItems := v },
    .flag "uniqueItems" (·.uniqueItems) fun v f => { f with uniqueItems := v }]

/-- The field between `properties` and `additionalProperties`. -/
def requiredSlot : Slot Facets :=
  .listed "required" .str asText? (·.required) fun v f => { f with required := v }

/-- The fields between `additionalProperties` and `allOf`. -/
def countSlots : List (Slot Facets) :=
  [.optional "maxProperties" ofNat asNat? (·.maxProperties) fun v f => { f with maxProperties := v },
    .optional "minProperties" ofNat asNat? (·.minProperties) fun v f => { f with minProperties := v }]

/-- The fields after `not`. -/
def trailingSlots : List (Slot Facets) :=
  [.flag "nullable" (·.nullable) fun v f => { f with nullable := v },
    .flag "readOnly" (·.readOnly) fun v f => { f with readOnly := v },
    .flag "writeOnly" (·.writeOnly) fun v f => { f with writeOnly := v },
    .optional "example" id readAny (·.exampleValue) fun v f => { f with exampleValue := v },
    .flag "deprecated" (·.deprecated) fun v f => { f with deprecated := v }]

/-- The fields that hold no schema. -/
def slots : List (Slot Facets) :=
  leadingSlots ++ (sizeSlots ++ (requiredSlot :: (countSlots ++ trailingSlots)))

end Facets

namespace Schema

/-- A field of a schema that holds no schema. -/
def facetSlot (slot : Slot Facets) : Slot Schema :=
  slot.inside (·.toFacets) fun f s => { s with toFacets := f }

def itemsSlot : Slot Schema :=
  .optional "items" toJson ofJson? (·.items) fun v s => { s with items := v }

def propertiesSlot : Slot Schema :=
  .mapped "properties" toJson ofJson? (·.properties) fun v s => { s with properties := v }

def additionalSlot : Slot Schema :=
  .optional "additionalProperties" Additional.toJson Additional.ofJson? (·.additional)
    fun v s => { s with additional := v }

def allOfSlot : Slot Schema :=
  .listed "allOf" toJson ofJson? (·.allOf) fun v s => { s with allOf := v }

def oneOfSlot : Slot Schema :=
  .listed "oneOf" toJson ofJson? (·.oneOf) fun v s => { s with oneOf := v }

def anyOfSlot : Slot Schema :=
  .listed "anyOf" toJson ofJson? (·.anyOf) fun v s => { s with anyOf := v }

def excludedSlot : Slot Schema :=
  .optional "not" toJson ofJson? (·.excluded) fun v s => { s with excluded := v }

/-- The fields of a schema in the order in which they are written. -/
def slots : List (Slot Schema) :=
  Facets.leadingSlots.map facetSlot ++ (itemsSlot :: (Facets.sizeSlots.map facetSlot ++
    (propertiesSlot :: facetSlot Facets.requiredSlot :: additionalSlot ::
      (Facets.countSlots.map facetSlot ++ (allOfSlot :: oneOfSlot :: anyOfSlot :: excludedSlot ::
        Facets.trailingSlots.map facetSlot)))))

/-- The names of a schema's own fields. -/
def fieldNames : List String :=
  slots.map (·.key)

/-- Takes a field for an extension. -/
def extend (key : String) (value : Json) (s : Schema) : Schema :=
  { s with extensions := (key, value) :: s.extensions }

theorem fieldNames_eq : fieldNames =
    ["$ref", "type", "format", "title", "description", "default", "enum", "const", "multipleOf",
      "maximum", "exclusiveMaximum", "minimum", "exclusiveMinimum", "maxLength", "minLength",
      "pattern", "items", "maxItems", "minItems", "uniqueItems", "properties", "required",
      "additionalProperties", "maxProperties", "minProperties", "allOf", "oneOf", "anyOf", "not",
      "nullable", "readOnly", "writeOnly", "example", "deprecated"] :=
  rfl

theorem fieldNames_nodup : fieldNames.Nodup := by
  rw [fieldNames_eq]
  decide +kernel

/-- What is to be shown of all fields of a schema. -/
theorem forall_mem_slots {P : Slot Schema → Prop}
    (hfacets : ∀ slot ∈ Facets.slots, P (facetSlot slot)) (hitems : P itemsSlot)
    (hproperties : P propertiesSlot) (hadditional : P additionalSlot) (hallOf : P allOfSlot)
    (honeOf : P oneOfSlot) (hanyOf : P anyOfSlot) (hexcluded : P excludedSlot) :
    ∀ slot ∈ slots, P slot := by
  simp only [Facets.slots, List.forall_mem_append, List.forall_mem_cons] at hfacets
  obtain ⟨hleading, hsizes, hrequired, hcounts, htrailing⟩ := hfacets
  simp only [slots, List.forall_mem_append, List.forall_mem_cons, List.forall_mem_map]
  exact ⟨hleading, hitems, hsizes, hproperties, hrequired, hadditional, hcounts, hallOf, honeOf,
    hanyOf, hexcluded, htrailing⟩

/-! ### The fields that are written -/

theorem entryFields_eq_map (m : Assoc Schema) :
    entryFields m = m.map fun e => (e.1, e.2.toJson) := by
  induction m with
  | nil => rfl
  | cons e rest ih => rw [entryFields, ih, List.map_cons, toJson]

theorem listItems_eq_map (l : List Schema) : listItems l = l.map toJson := by
  induction l with
  | nil => rfl
  | cons s rest ih => rw [listItems, ih, List.map_cons, toJson]

theorem optionTree?_eq_map (o : Option Schema) : optionTree? o = o.map toJson := by
  cases o <;> rfl

theorem additionalTree?_eq_map (o : Option (Additional Schema)) :
    additionalTree? o = o.map Additional.toJson := by
  rcases o with - | - | - <;> rfl

/-- The tree of a schema has the fields of its slots, followed by its extensions. -/
theorem toFields_eq (s : Schema) : s.toFields = slots.flatMap (·.field s) ++ s.extensions := by
  obtain ⟨facets, items, properties, additional, allOf, oneOf, anyOf, excluded⟩ := s
  have hproperties : (if (entryFields properties).isEmpty then []
      else [("properties", .obj (entryFields properties))]) =
      entry "properties" (mapValue toJson properties) := by
    rw [entryFields_eq_map]
    cases properties <;> rfl
  have hlist : ∀ (key : String) (l : List Schema),
      listed key id (l.map toJson) = entry key (listValue toJson l) := by
    intro key l
    rw [listed_eq_entry]
    cases l with
    | nil => rfl
    | cons s rest => simp [listValue]
  rw [toFields, Facets.fieldsAround, hproperties]
  simp only [Facets.leading, Facets.sizes, Facets.counts, Facets.trailing, optionTree?_eq_map,
    additionalTree?_eq_map, listItems_eq_map, hlist, optional_eq_entry, flag_eq_entry,
    listed_eq_entry, Option.map_id, id_eq, List.append_assoc]
  simp only [slots, Facets.leadingSlots, Facets.sizeSlots, Facets.requiredSlot, Facets.countSlots,
    Facets.trailingSlots, itemsSlot, propertiesSlot, additionalSlot, allOfSlot, oneOfSlot, anyOfSlot,
    excludedSlot, List.map_cons, List.map_nil, List.flatMap_append, List.flatMap_cons,
    List.flatMap_nil, List.append_assoc, List.nil_append, Slot.field, facetSlot, Slot.inside,
    Slot.optional, Slot.flag, Slot.listed, Slot.mapped, Option.map_id, id_eq]

/-! ### The fields that are read -/

theorem ofEntries?_eq_mapM (fields : Fields) :
    ofEntries? fields = fields.mapM fun e => (ofJson? e.2).map (e.1, ·) := by
  induction fields with
  | nil => rfl
  | cons e rest ih =>
    rw [ofEntries?, ih, List.mapM_cons]
    cases ofJson? e.2 with
    | none => rfl
    | some s => cases rest.mapM fun e => (ofJson? e.2).map (e.1, ·) <;> rfl

theorem ofItems?_eq_mapM (items : List Json) : ofItems? items = items.mapM ofJson? := by
  induction items with
  | nil => rfl
  | cons j rest ih =>
    rw [ofItems?, ih, List.mapM_cons]
    cases ofJson? j with
    | none => rfl
    | some s => cases rest.mapM ofJson? <;> rfl

theorem optionOfJson?_eq (j : Json) : optionOfJson? j = readOptional ofJson? j := by
  cases j <;> rfl

theorem additionalOfJson?_eq (j : Json) :
    additionalOfJson? j = readOptional Additional.ofJson? j := by
  cases j with
  | obj fields =>
    rw [additionalOfJson?, readOptional, Additional.ofJson?, ofJson?, Option.map_map]
    · rfl
    all_goals simp
  | _ => rfl

theorem entriesOfJson?_eq (j : Json) : entriesOfJson? j = readAssoc ofJson? j := by
  cases j with
  | obj fields => exact ofEntries?_eq_mapM fields
  | _ => rfl

theorem itemsOfJson?_eq (j : Json) : itemsOfJson? j = readList ofJson? j := by
  cases j with
  | arr items => exact ofItems?_eq_mapM items
  | _ => rfl

/-- Reads one field into a schema. -/
def readPart? (key : String) (value : Json) (s : Schema) : Option Schema :=
  match partOf key with
  | .one set => (readOptional ofJson? value).map (set · s)
  | .additional => (readOptional Additional.ofJson? value).map fun v => { s with additional := v }
  | .properties => (readAssoc ofJson? value).map fun v => { s with properties := v }
  | .list set => (readList ofJson? value).map (set · s)
  | .facet => (s.toFacets.setField? key value).map fun f => { s with toFacets := f }

theorem setField?_slot : ∀ slot ∈ Facets.slots, ∀ value (f : Facets),
    f.setField? slot.key value = (slot.read value).map (slot.set · f) := by
  refine List.forall_iff_forall_mem.mp ?_
  repeat' apply And.intro
  all_goals exact fun _ _ => rfl

/-- A field with a slot is read into it. -/
theorem readPart?_slot : ∀ slot ∈ slots, ∀ value s,
    readPart? slot.key value s = (slot.read value).map (slot.set · s) := by
  refine forall_mem_slots (fun slot hslot value s => ?_) (fun _ _ => rfl) (fun _ _ => rfl)
    (fun _ _ => rfl) (fun _ _ => rfl) (fun _ _ => rfl) (fun _ _ => rfl) fun _ _ => rfl
  have hpart : ∀ slot ∈ Facets.slots, partOf slot.key = .facet := by
    refine List.forall_iff_forall_mem.mp ?_
    repeat' apply And.intro
    all_goals rfl
  have hkey : (facetSlot slot).key = slot.key := rfl
  rw [readPart?, hkey, hpart slot hslot]
  dsimp only
  rw [setField?_slot slot hslot, Option.map_map]
  rfl

/-- A field without a slot is an extension. -/
theorem readPart?_extension {key : String} (hkey : key ∉ fieldNames) (value : Json) (s : Schema) :
    readPart? key value s = some (extend key value s) := by
  rw [fieldNames_eq] at hkey
  have hpart : partOf key = .facet := by
    unfold partOf
    split
    case h_8 => rfl
    all_goals exact absurd (by simp) hkey
  have hset : s.toFacets.setField? key value =
      some { s.toFacets with extensions := (key, value) :: s.extensions } := by
    unfold Facets.setField?
    split
    case h_28 => rfl
    all_goals exact absurd (by simp) hkey
  rw [readPart?, hpart]
  dsimp only
  rw [hset]
  rfl

/-- A field goes into its slot, and one without a slot to the extensions. -/
theorem ofFields?_cons (e : String × Json) (rest : Fields) :
    ofFields? (e :: rest) = (ofFields? rest).bind (Slot.readField? slots extend e) := by
  obtain ⟨key, value⟩ := e
  have hpart : ofFields? ((key, value) :: rest) = (ofFields? rest).bind (readPart? key value) := by
    rw [ofFields?, optionOfJson?_eq, additionalOfJson?_eq, entriesOfJson?_eq, itemsOfJson?_eq]
    rfl
  rw [hpart]
  congr 1
  funext s
  rw [Slot.readField?]
  by_cases hkey : key ∈ fieldNames
  · obtain ⟨slot, hslot, rfl⟩ := List.mem_map.mp hkey
    rw [Slot.find?_key fieldNames_nodup hslot, readPart?_slot slot hslot]
  · have hnone : slots.find? (·.key == key) = none := by
      rw [List.find?_eq_none]
      intro slot hslot h
      exact hkey (List.mem_map.mpr ⟨slot, hslot, by simpa using h⟩)
    rw [hnone, readPart?_extension hkey]

theorem ofFields?_eq_foldrM (fields : Fields) :
    ofFields? fields = fields.foldrM (Slot.readField? slots extend) {} := by
  induction fields with
  | nil => rfl
  | cons e rest ih =>
    rw [ofFields?_cons, ih, List.foldrM_cons]
    rfl

/-- Fields without slots are kept as extensions, in their order. -/
theorem foldrM_extensions {extensions : Assoc Json}
    (h : ∀ key ∈ Assoc.keys extensions, key ∉ fieldNames) :
    extensions.foldrM (Slot.readField? slots extend) {} = some { extensions } := by
  induction extensions with
  | nil => rfl
  | cons e rest ih =>
    rw [Assoc.keys, List.map_cons, List.forall_mem_cons] at h
    have hnone : slots.find? (·.key == e.1) = none := by
      rw [List.find?_eq_none]
      intro slot hslot hkey
      exact h.1 (List.mem_map.mpr ⟨slot, hslot, by simpa using hkey⟩)
    rw [List.foldrM_cons, ih h.2]
    simp only [Option.bind_eq_bind, Option.bind_some, Slot.readField?, hnone]
    rfl

end Schema

end AnnotatedApi
