import AnnotatedApi.Proofs.Build.Routes
import AnnotatedApi.Proofs.Directive.Schemas
import AnnotatedApi.Proofs.Document.FirstProblem
import AnnotatedApi.Proofs.Resolution.References

/-!
References in built documents.

Whatever stands in a built document comes from a function that was kept (`attached_addFiles`) or from
a declared type (`mem_schemas_addFiles`), so what holds of the schemas of directives and of structs
holds of all schemas of the document (`holds_addFiles`).  Main statements:

* `references_start_alike` — every reference in a built document starts as a reference to a component
  does, so that the check never finds one that does not;
* `integrity_iff_aside_resolves` — in a built document that passes the check every reference resolves
  iff those in headers and in components do; these the check does not look at, and they may dangle
  (`dangling_references_pass`).
-/

namespace AnnotatedApi

namespace Build

/-! ### Where schemas come from -/

/-- Placing the operation of one function. -/
theorem attached_placeKept {ctx : BuildContext} {paths : Assoc PathItem} {func : FuncDecl}
    {path : String} {method : HttpMethod} {op : Operation} {item : PathItem}
    (hitem : (path, item) ∈ placeKept ctx paths func) (hslot : item.slot method = some op) :
    (∃ old, (path, old) ∈ paths ∧ old.slot method = some op) ∨ op = describedOperation ctx func := by
  unfold placeKept at hitem
  split at hitem
  · next route _ =>
    rcases Assoc.mem_insert hitem with hold | hnew
    · exact .inl ⟨item, hold, hslot⟩
    · obtain ⟨rfl, rfl⟩ := Prod.mk.inj hnew
      rw [PathItem.slot_place] at hslot
      split at hslot
      · exact .inr (Option.some_inj.mp hslot).symm
      · -- Another slot of the path: filled before, so the path was there.
        cases hfound : Assoc.get? paths route.path with
        | none =>
          rw [hfound] at hslot
          cases method <;> exact absurd hslot (by simp [PathItem.slot])
        | some old =>
          rw [hfound] at hslot
          exact .inl ⟨old, Assoc.mem_of_get? hfound, hslot⟩
  · exact .inl ⟨item, hitem, hslot⟩

theorem attached_foldl_placeKept {ctx : BuildContext} (funcs : List FuncDecl) {path : String}
    {method : HttpMethod} {op : Operation} {item : PathItem}
    (hitem : (path, item) ∈ funcs.foldl (placeKept ctx) []) (hslot : item.slot method = some op) :
    ∃ func ∈ funcs, op = describedOperation ctx func := by
  induction funcs using List.reverseRecOn generalizing item with
  | nil => exact absurd hitem List.not_mem_nil
  | append_singleton funcs func ih =>
    rw [List.foldl_append] at hitem
    rcases attached_placeKept hitem hslot with ⟨old, hold, hslot'⟩ | hop
    · obtain ⟨earlier, hmem, hop⟩ := ih hold hslot'
      exact ⟨earlier, List.mem_append_left _ hmem, hop⟩
    · exact ⟨func, by simp, hop⟩

theorem mem_foldl_insertSchema (infos : List TypeInfo) {name : String} {s : Schema}
    (h : (name, s) ∈ infos.foldl insertSchema []) : ∃ info ∈ infos, info.schema = s := by
  induction infos using List.reverseRecOn with
  | nil => exact absurd h List.not_mem_nil
  | append_singleton infos info ih =>
    rw [List.foldl_append] at h
    rcases Assoc.mem_insert h with hold | hnew
    · obtain ⟨earlier, hmem, hschema⟩ := ih hold
      exact ⟨earlier, List.mem_append_left _ hmem, hschema⟩
    · exact ⟨info, by simp, (Prod.mk.inj hnew).2.symm⟩

/-- Every operation of a built document is that of one of the functions. -/
theorem attached_addFiles {ctx : BuildContext} {files : List SourceFile} {path : String}
    {method : HttpMethod} {op : Operation}
    (h : (({} : Build).addFiles ctx files).document.Attached path method op) :
    ∃ file ∈ files, ∃ func ∈ file.funcs, op = describedOperation ctx func := by
  obtain ⟨item, hitem, hslot⟩ := h
  rw [addFiles_paths] at hitem
  obtain ⟨func, hfunc, hop⟩ := attached_foldl_placeKept _ hitem hslot
  obtain ⟨file, hfile, hfunc⟩ := List.mem_flatMap.mp hfunc
  exact ⟨file, hfile, func, hfunc, hop⟩

/-- Every component of a built document is the schema of one of the structs declared. -/
theorem mem_schemas_addFiles {ctx : BuildContext} {files : List SourceFile} {name : String}
    {s : Schema} (h : (name, s) ∈ (({} : Build).addFiles ctx files).document.components.schemas) :
    ∃ file ∈ files, ∃ decl ∈ file.types, typeSchema? ctx.resolver ctx.recordRules decl = some s := by
  rw [addFiles_schemas] at h
  obtain ⟨info, hinfo, rfl⟩ := mem_foldl_insertSchema _ h
  obtain ⟨file, hfile, hinfo⟩ := List.mem_flatMap.mp hinfo
  obtain ⟨decl, hdecl, hschema⟩ := mem_declaredTypes hinfo
  exact ⟨file, hfile, decl, hdecl, hschema⟩

/-- What holds of the schemas of directives holds of all schemas of a built operation. -/
theorem allSchemas_of_attached {ctx : BuildContext} {files : List SourceFile} {Q : Schema → Prop}
    (hQ : ctx.operationContext.Yields Q) {path : String} {method : HttpMethod} {op : Operation}
    (h : (({} : Build).addFiles ctx files).document.Attached path method op) :
    op.AllSchemas Q := by
  obtain ⟨file, -, func, -, rfl⟩ := attached_addFiles h
  exact Operation.allSchemas_foldl_applyComment hQ _

/-- What holds of the schemas of directives and of structs holds of all schemas of the document. -/
theorem holds_addFiles {ctx : BuildContext} {files : List SourceFile} {Q : Schema → Prop}
    (hQ : ctx.operationContext.Yields Q)
    (htype : ∀ decl s, typeSchema? ctx.resolver ctx.recordRules decl = some s → Q s)
    {s : Schema} (h : (({} : Build).addFiles ctx files).document.Holds s) : Q s := by
  cases h with
  | carried hop hs => exact (allSchemas_of_attached hQ hop).carries hs
  | header hop hs => exact (allSchemas_of_attached hQ hop).hasHeader hs
  | component hs =>
    obtain ⟨file, -, decl, -, hschema⟩ := mem_schemas_addFiles hs
    exact htype decl _ hschema

end Build

/-! ### The form of references -/

theorem OperationContext.yields_wellReferenced (ctx : OperationContext) :
    ctx.Yields Schema.WellReferenced :=
  .of_skeleton (fun _ => ctx.resolver.wellReferenced_resolve .directive _ 0)
    (fun _ => (ctx.resolver.keeps_wellReferenced .directive).array
      (ctx.resolver.wellReferenced_resolve .directive _ 0))
    fun hsame h => h.of_skeleton hsame

theorem wellReferenced_of_typeSchema? {r : Resolver} {rules : RecordRules} {decl : TypeDecl}
    {s : Schema} (h : Build.typeSchema? r rules decl = some s) : s.WellReferenced := by
  unfold Build.typeSchema? at h
  split at h
  · obtain rfl := Option.some_inj.mp h
    exact r.wellReferenced_structSchema rules _ _ 0
  · exact absurd h (by simp)

theorem exists_name_of_mentions {ctx : BuildContext} {files : List SourceFile} {reference : String}
    (h : (({} : Build).addFiles ctx files).document.Mentions reference) :
    ∃ name, reference = refStart ++ name := by
  obtain ⟨s, t, hs, ht, href⟩ := h
  have hwell : s.WellReferenced := Build.holds_addFiles ctx.operationContext.yields_wellReferenced
    (fun _ _ => wellReferenced_of_typeSchema?) hs
  exact hwell t ht reference href

/-- **References are well formed.**  Every reference in a built document starts as a reference to a
component does, so the check never complains about one that does not. -/
theorem references_start_alike (ctx : BuildContext) (files : List SourceFile) :
    let d := (({} : Build).addFiles ctx files).document
    (∀ reference, d.Mentions reference → ∃ name, reference = refStart ++ name) ∧
    ∀ e reference, d.validate = .error e → e.cause? ≠ some (.malformed reference) := by
  intro d
  refine ⟨fun reference => exists_name_of_mentions, fun e reference herror hcause => ?_⟩
  -- An error is about a reference that the document mentions, and that one has a name.
  obtain ⟨mentioned, hmentions, hdescribes⟩ :=
    Document.exists_mentions_of_validate_eq_error herror hcause
  obtain ⟨name, hname⟩ := exists_name_of_mentions hmentions
  cases hdescribes with
  | malformed hstart => exact hstart name hname

/-! ### Integrity -/

theorem OperationContext.yields_searchable (ctx : OperationContext) :
    ctx.Yields Schema.Searchable :=
  .of_skeleton (fun _ => ctx.resolver.searchable_resolve _ 0)
    (fun _ => ctx.resolver.keeps_searchable.array (ctx.resolver.searchable_resolve _ 0))
    fun hsame h => Schema.Everywhere.of_skeleton (fun _ => Iff.rfl) hsame h

/-- The reference stands in the schema of a header or in a component. -/
def Document.MentionsAside (d : Document) (reference : String) : Prop :=
  ∃ s t, ((∃ path method op, d.Attached path method op ∧ op.HasHeader s) ∨
    ∃ name, (name, s) ∈ d.components.schemas) ∧ s.Within t ∧ t.reference = some reference

/-- What the operations of a built document carry, the check sees whole. -/
theorem resolves_of_carries {ctx : BuildContext} {files : List SourceFile}
    (hvalid : (({} : Build).addFiles ctx files).document.validate = .ok ()) {path : String}
    {method : HttpMethod} {op : Operation} {s t : Schema} {reference : String}
    (hop : (({} : Build).addFiles ctx files).document.Attached path method op)
    (hs : op.Carries s) (ht : s.Within t) (href : t.reference = some reference) :
    Resolves (({} : Build).addFiles ctx files).document.components.schemas reference := by
  -- Schemas of directives have no properties, so whatever is inside them is also reached.
  have hsearchable : s.Searchable :=
    (Build.allSchemas_of_attached ctx.operationContext.yields_searchable hop).carries hs
  have hdocument := Document.problem?_eq_none_iff.mp (Document.validate_eq_ok_iff.mp hvalid)
  exact hdocument.references path method op s t reference hop hs (ht.reaches hsearchable) href

/-- **What passing the check says about references.**  In a built document that passes, every
reference that its operations carry, at any depth, names a component.  All references do so iff those
in headers and components do. -/
theorem integrity_iff_aside_resolves (ctx : BuildContext) (files : List SourceFile)
    (hvalid : (({} : Build).addFiles ctx files).document.validate = .ok ()) :
    let d := (({} : Build).addFiles ctx files).document
    (∀ path method op s t reference, d.Attached path method op → op.Carries s → s.Within t →
      t.reference = some reference → Resolves d.components.schemas reference) ∧
    ((∀ reference, d.Mentions reference → Resolves d.components.schemas reference) ↔
      ∀ reference, d.MentionsAside reference → Resolves d.components.schemas reference) := by
  intro d
  refine ⟨fun path method op s t reference => resolves_of_carries hvalid, ?_, ?_⟩
  · rintro h reference ⟨s, t, ⟨path, method, op, hop, hs⟩ | ⟨name, hs⟩, ht, href⟩
    · exact h reference ⟨s, t, .header hop hs, ht, href⟩
    · exact h reference ⟨s, t, .component hs, ht, href⟩
  · rintro h reference ⟨s, t, hs, ht, href⟩
    cases hs with
    | carried hop hs => exact resolves_of_carries hvalid hop hs ht href
    | header hop hs => exact h reference ⟨s, t, .inl ⟨_, _, _, hop, hs⟩, ht, href⟩
    | component hs => exact h reference ⟨s, t, .inr ⟨_, hs⟩, ht, href⟩

/-- A struct and an operation that use two types, `Person` and `Token`, that are declared nowhere: one
for a property, the other for a header. -/
def strayFile : SourceFile :=
  { path := "pets.go", package := "main"
    comments := [.ofLines ["@title Pets", "@version 1.0"]]
    types := [{ name := "Pet", line := 7
                type := .struct [{ names := ["Owner"], type := .ident "Person" }] }]
    funcs := [{ name := "FindPet", line := 14
                doc := .ofLines ["@Success 200 \x7bobject\x7d Pet",
                  "@Header 200 \x7bToken\x7d X-Token \"Session\"", "@Router /pet [get]"] }] }

/-- The document of `strayFile`. -/
def strayDocument : Document :=
  (({} : Build).addFiles {} [strayFile]).document

theorem strayDocument_validate : strayDocument.validate = .ok () :=
  Document.validate_eq_ok_iff.mpr (by decide +kernel)

/-- The types that are not declared are not among the components either. -/
theorem not_resolves_strayDocument {name : String} (h : name ≠ "Pet") :
    ¬ Resolves strayDocument.components.schemas (refStart ++ name) := by
  have hkeys : Assoc.keys strayDocument.components.schemas = ["Pet"] := by decide +kernel
  rintro ⟨name', hmem, heq⟩
  rw [hkeys, List.mem_singleton] at hmem
  exact h ((String.append_right_inj refStart).mp heq ▸ hmem)

/-- The reference that the operation of `strayFile` carries resolves; all would, if those in its
header and in its component did. -/
theorem integrity_of_strayDocument :
    strayDocument.validate = .ok () ∧
    Resolves strayDocument.components.schemas (refStart ++ "Pet") ∧
    ((∀ reference, strayDocument.Mentions reference →
        Resolves strayDocument.components.schemas reference) ↔
      ∀ reference, strayDocument.MentionsAside reference →
        Resolves strayDocument.components.schemas reference) := by
  obtain ⟨hcarried, haside⟩ := integrity_iff_aside_resolves {} [strayFile] strayDocument_validate
  refine ⟨strayDocument_validate, ?_, haside⟩
  have hcontent : (strayDocument.operations.any fun e => e.2.2.responses.any fun r =>
      r.2.content.any fun m => m.2.schema.any fun s =>
        s.reference == some (refStart ++ "Pet")) = true := by decide +kernel
  simp only [List.any_eq_true, Option.any_eq_true, beq_iff_eq] at hcontent
  obtain ⟨⟨path, method, op⟩, hop, ⟨status, response⟩, hresponse, ⟨contentType, media⟩, hmedia, s, hs,
    href⟩ := hcontent
  exact hcarried path method op s s _ (Document.mem_operations.mp hop)
    (.response hresponse hmedia hs) .refl href

/-- References in components and in headers may dangle in a document that passes the check. -/
theorem dangling_references_pass :
    strayDocument.validate = .ok () ∧
    (strayDocument.Mentions (refStart ++ "Person") ∧
      ¬ Resolves strayDocument.components.schemas (refStart ++ "Person")) ∧
    (strayDocument.Mentions (refStart ++ "Token") ∧
      ¬ Resolves strayDocument.components.schemas (refStart ++ "Token")) := by
  refine ⟨strayDocument_validate, ⟨?_, not_resolves_strayDocument (by decide)⟩, ?_,
    not_resolves_strayDocument (by decide)⟩
  · have hproperty : (strayDocument.components.schemas.any fun e => e.2.properties.any fun p =>
        p.2.reference == some (refStart ++ "Person")) = true := by decide +kernel
    simp only [List.any_eq_true, beq_iff_eq] at hproperty
    obtain ⟨⟨name, s⟩, hs, ⟨key, t⟩, ht, href⟩ := hproperty
    exact ⟨s, t, .component hs, .single (Schema.mem_parts.mpr (.inr (.inl ⟨key, ht⟩))), href⟩
  · have hheader : (strayDocument.operations.any fun e => e.2.2.responses.any fun r =>
        r.2.headers.any fun h => h.2.schema.any fun s =>
          s.reference == some (refStart ++ "Token")) = true := by decide +kernel
    simp only [List.any_eq_true, Option.any_eq_true, beq_iff_eq] at hheader
    obtain ⟨⟨path, method, op⟩, hop, ⟨status, response⟩, hresponse, ⟨name, header⟩, hheader, s, hs,
      href⟩ := hheader
    exact ⟨s, s, .header (Document.mem_operations.mp hop)
      ⟨status, response, name, header, hresponse, hheader, hs⟩, .refl, href⟩

end AnnotatedApi
