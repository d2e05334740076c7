import AnnotatedApi.Proofs.Build.Order
import AnnotatedApi.Proofs.Build.References
import AnnotatedApi.Proofs.Directive.Values

/-!
The JSON form of built documents.

A built document is put together from decorated schemas and from the operations that comments
describe, under keys that are inserted one by one, so all that stands in it is sound
(`meets_addFiles`).  What soundness leaves open is whether bounds are finite and whether the example
of a struct is `null`.  Main statements:

* `restored_iff_finite_and_not_null` — a built document is read again from what is written of it iff
  the bounds of all its schemas are finite and none of their examples is `null`; both can fail
  (`infinite_bound_and_null_example_are_lost`);
* `no_object_repeats_a_key` — all keys of extensions start with `x-`, and no object in the tree of a
  built document has two equal keys.
-/

namespace AnnotatedApi

open Json Text

/-! ### Names of extensions -/

/-- Keys that start with `x-` are not among the names of fields if none of these starts so. -/
theorem not_mem_of_startsWith {fields keys : List String}
    (hfields : ∀ name ∈ fields, startsWith "x-" name = false)
    (hkeys : ∀ key ∈ keys, startsWith "x-" key = true) : ∀ key ∈ keys, key ∉ fields := by
  intro key hkey hfield
  have hstart := hkeys key hkey
  rw [hfields key hfield] at hstart
  exact absurd hstart (by simp)

/-- Fields in front of extensions. -/
theorem nodup_append_of_startsWith {fields keys : List String} (hnodup : fields.Nodup)
    (hfields : ∀ name ∈ fields, startsWith "x-" name = false)
    (hkeys : Demands.sound.names fields keys) {names : List String} (hnames : names.Sublist fields) :
    (names ++ keys).Nodup := by
  refine List.nodup_append.mpr ⟨hnodup.sublist hnames, hkeys.1, fun name hname key hkey heq => ?_⟩
  exact not_mem_of_startsWith hfields hkeys.2 key hkey (heq ▸ hnames.subset hname)

theorem Schema.startsWith_fieldNames : ∀ name ∈ Schema.fieldNames, startsWith "x-" name = false := by
  decide +kernel

theorem Operation.startsWith_fieldNames :
    ∀ name ∈ Operation.fieldNames, startsWith "x-" name = false := by
  decide +kernel

theorem Operation.fieldNames_nodup : Operation.fieldNames.Nodup := by
  decide

namespace Demands

/-- What is sound can be stored, but perhaps for the bounds and the example of a schema. -/
theorem sound_impliesApart_storable : sound.ImpliesApart .storable where
  limit _ _ := trivial
  single _ hv := ⟨hv.1.1.finite, hv.2⟩
  item _ hv := hv.1.finite
  keys _ _ := trivial
  schemaNames _ hkeys := not_mem_of_startsWith Schema.startsWith_fieldNames hkeys.2
  operationNames _ hkeys := not_mem_of_startsWith Operation.startsWith_fieldNames hkeys.2

/-- Whole numbers of sound values have 64 bits. -/
theorem sound_implies_word : sound.Implies (.fitting WordTop) where
  bound _ _ := trivial
  limit n hn := by
    change n < 2 ^ 64 at hn
    change -(2 ^ 63) ≤ (n : Int) ∧ (n : Int) < 2 ^ 64
    omega
  single _ hv := hv.1.1.imp fun _ hk => hk.2
  sample _ hv := hv.1.imp fun _ hk => hk.2
  item _ hv := hv.1.imp fun _ hk => hk.2
  keys _ _ _ _ := trivial
  schemaNames _ _ _ _ _ _ := trivial
  operationNames _ _ _ _ _ _ := trivial

/-- Nothing that is sound repeats a key. -/
theorem sound_implies_distinct : sound.Implies (.fitting DistinctTop) where
  bound _ _ := trivial
  limit _ _ := trivial
  single _ hv := hv.1.2
  sample _ hv := hv.2
  item _ hv := hv.2
  keys := lenient_distinctTop.obj
  schemaNames _ hkeys _ hnames := lenient_distinctTop.obj _
    (nodup_append_of_startsWith Schema.fieldNames_nodup Schema.startsWith_fieldNames hkeys hnames)
  operationNames _ hkeys _ hnames := lenient_distinctTop.obj _ (nodup_append_of_startsWith
    Operation.fieldNames_nodup Operation.startsWith_fieldNames hkeys hnames)

end Demands

/-! ### Security schemes -/

/-- The security schemes of a document have distinct names. -/
def Document.DistinctSchemes (d : Document) : Prop :=
  (Assoc.keys d.components.securitySchemes).Nodup

theorem InfoState.distinctSchemes_updateTag {st : InfoState} (h : st.document.DistinctSchemes)
    (f : Tag → Tag) : (st.updateTag f).document.DistinctSchemes := by
  unfold InfoState.updateTag
  split <;> exact h

/-- One line of general information. -/
theorem InfoLine.distinctSchemes_apply (line : InfoLine) {st : InfoState}
    (h : st.document.DistinctSchemes) : (line.apply st).document.DistinctSchemes := by
  cases line with
  | schemes text =>
    rw [InfoLine.apply]
    split <;> exact h
  | tagDescription text => exact InfoState.distinctSchemes_updateTag h _
  | tagDocsUrl token => exact InfoState.distinctSchemes_updateTag h _
  | tagDocsDescription text => exact InfoState.distinctSchemes_updateTag h _
  | basicAuth scheme remark => exact Assoc.nodup_keys_insert _ _ _ h
  | apiKey scheme name location remark => exact Assoc.nodup_keys_insert _ _ _ h
  | _ => exact h

/-- All lines of general information of a file. -/
theorem Document.DistinctSchemes.applyInfo {d : Document} (h : d.DistinctSchemes)
    (groups : List CommentGroup) : (d.applyInfo groups).DistinctSchemes := by
  refine List.foldlRecOn (motive := fun st : InfoState => st.document.DistinctSchemes)
    (b := { document := d }) _ InfoState.applyLine h fun st hst line _ => ?_
  unfold InfoState.applyLine
  split
  · next l _ => exact l.distinctSchemes_apply hst
  · exact hst

namespace Build

theorem distinctSchemes_addFiles (ctx : BuildContext) (files : List SourceFile) :
    (({} : Build).addFiles ctx files).document.DistinctSchemes := by
  -- The schemes belong to the general part, which general information alone changes.
  change (({} : Build).addFiles ctx files).infoPart.document.DistinctSchemes
  rw [infoPart_addFiles]
  refine List.foldlRecOn (motive := fun b : Build => b.document.DistinctSchemes) _ _
    List.nodup_nil fun b hb file _ => ?_
  unfold addInfo
  split
  · exact hb.applyInfo _
  · exact hb

/-! ### Built documents are sound -/

theorem sound_of_typeSchema? {r : Resolver} {rules : RecordRules} {decl : TypeDecl} {s : Schema}
    (h : typeSchema? r rules decl = some s) : s.Meets .sound := by
  unfold typeSchema? at h
  split at h
  · obtain rfl := Option.some_inj.mp h
    exact r.sound_structSchema rules _ _ 0
  · exact absurd h (by simp)

/-- **All that stands in a built document is sound.** -/
theorem meets_addFiles (ctx : BuildContext) (files : List SourceFile) :
    (({} : Build).addFiles ctx files).document.Meets .sound where
  schemas s hs :=
    holds_addFiles ctx.operationContext.yields_sound (fun _ _ => sound_of_typeSchema?) hs
  operations path method op hop := by
    obtain ⟨file, -, func, -, rfl⟩ := attached_addFiles hop
    exact Operation.meets_foldl_applyComment ctx.operationContext _
  paths := by
    rw [addFiles_paths]
    exact nodup_keys_foldl_placeKept ctx _
  components := nodup_keys_schemas_addFiles ctx files
  securitySchemes := distinctSchemes_addFiles ctx files

/-! ### Written and read again -/

/-- **Which built documents survive their JSON form.**  The text of a built document stands for its
tree with `null` for every double that is not finite.  The document is read again from this tree iff
the bounds of all schemas in it, at any depth, are finite and none of their examples is `null`. -/
theorem restored_iff_finite_and_not_null (ctx : BuildContext) (files : List SourceFile) :
    let d := (({} : Build).addFiles ctx files).document
    d.jsonText = d.toJson.written.pretty ∧
    (Document.ofJson? d.toJson.written = some d ↔
      ∀ s t, d.Holds s → s.Within t →
        (∀ x ∈ t.bounds, x.isFinite = true) ∧ t.exampleValue ≠ some .null) := by
  intro d
  have hsound : d.Meets .sound := meets_addFiles ctx files
  refine ⟨(pretty_written d.toJson).symm, fun hread s t hs ht => ?_, fun h => ?_⟩
  · -- Whatever is read from proper numbers can be stored, so it has neither.
    have hproper : d.toJson.written.Proper :=
      proper_written ((hsound.mono Demands.sound_implies_word).everywhere_toJson lenient_wordTop)
    have hfacets := ((Document.yields_storable _ d hproper hread).schemas s hs t ht).facets
    exact ⟨hfacets.bounds, fun hnull => (hfacets.sample _ hnull).2 rfl⟩
  · have hstorable : d.Meets .storable := by
      refine hsound.of_apart Demands.sound_impliesApart_storable fun s hs => ?_
      have hmeets := hsound.schemas s hs
      refine hmeets.of_apart Demands.sound_impliesApart_storable fun t ht => ?_
      obtain ⟨hbounds, hexample⟩ := h s t hs ht
      refine ⟨hbounds, fun v hv => ⟨((hmeets t ht).facets.sample v hv).1.finite, ?_⟩⟩
      rintro rfl
      exact hexample hv
    rw [Document.written_toJson hstorable, Document.ofJson?_toJson hstorable]

/-- A struct with an infinite bound, and a struct with `null` for its example. -/
def lossyFile : SourceFile :=
  { path := "limits.go", package := "main"
    types := [{ name := "Limit", line := 3
                type := .struct [{ names := ["Value"], type := .ident "float64"
                                   tag := some "minimum:\"inf\"" }] },
              { name := "Nothing", line := 8, type := .struct []
                doc := .ofLines ["@Example null"] }] }

/-- The document of `lossyFile` is read again without the bound and without the example. -/
theorem infinite_bound_and_null_example_are_lost :
    let d := (({} : Build).addFiles {} [lossyFile]).document
    let minimums (d : Document) := d.components.schemas.flatMap fun e =>
      e.2.properties.map fun p => p.2.minimum.isSome
    let examples (d : Document) := d.components.schemas.map fun e => e.2.exampleValue.isSome
    (minimums d = [true] ∧ (Document.ofJson? d.toJson.written).map minimums = some [false]) ∧
    (examples d = [false, true] ∧
      (Document.ofJson? d.toJson.written).map examples = some [false, false]) ∧
    Document.ofJson? d.toJson.written ≠ some d := by
  intro d minimums examples
  have hminimums : minimums d = [true] ∧
      (Document.ofJson? d.toJson.written).map minimums = some [false] := by decide +kernel
  have hexamples : examples d = [false, true] ∧
      (Document.ofJson? d.toJson.written).map examples = some [false, false] := by decide +kernel
  refine ⟨hminimums, hexamples, fun hread => ?_⟩
  rw [hread, Option.map_some, Option.some_inj, hminimums.1] at hminimums
  exact absurd hminimums.2 (by decide)

/-- **No object repeats a key.**  In a built document every extension of a schema, at any depth, and
of an operation has a key that starts with `x-`, and no object in the tree of the document has two
equal keys. -/
theorem no_object_repeats_a_key (ctx : BuildContext) (files : List SourceFile) :
    let d := (({} : Build).addFiles ctx files).document
    (∀ s t, d.Holds s → s.Within t →
      ∀ key ∈ Assoc.keys t.extensions, startsWith "x-" key = true) ∧
    (∀ path method op, d.Attached path method op →
      ∀ key ∈ Assoc.keys op.extensions, startsWith "x-" key = true) ∧
    d.toJson.DistinctKeys := by
  intro d
  have hsound : d.Meets .sound := meets_addFiles ctx files
  refine ⟨fun s t hs ht => (hsound.schemas s hs t ht).facets.names.2,
    fun path method op hop => (hsound.operations path method op hop).names.2, ?_⟩
  exact (hsound.mono Demands.sound_implies_distinct).everywhere_toJson lenient_distinctTop

/-- Of the extensions in a tag those with other keys are dropped, and a key that comes twice is kept
once. -/
theorem extensions_of_tagged_field :
    let pets : SourceFile :=
      { path := "pets.go", package := "main"
        types := [{ name := "Pet", line := 3
                    type := .struct [
                      { names := ["Name"], type := .ident "string"
                        tag := some "extensions:\"type=1,x-order=1,!x-nullable,x-order =2\"" }] }] }
    let d := (({} : Build).addFiles {} [pets]).document
    (d.components.schemas.map fun e => e.2.properties.map fun p => Assoc.keys p.2.extensions) =
      [[["x-order", "x-nullable"]]] ∧ d.toJson.DistinctKeys := by
  intro pets d
  exact ⟨by decide +kernel, (no_object_repeats_a_key {} [pets]).2.2⟩

end Build

end AnnotatedApi
