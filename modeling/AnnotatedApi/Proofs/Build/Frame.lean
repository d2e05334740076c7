import AnnotatedApi.Build

/-!
What the steps of a build leave alone.

General information touches neither the paths nor the component schemas of a document, functions
touch nothing but the paths, and type declarations nothing but the component schemas and the types
registered.  So the paths of a document depend on functions alone (`addFile_paths`) and its component
schemas on the types that its files declare (`addFiles_schemas`).
-/

namespace AnnotatedApi

/-- `d'` has the paths and the component schemas of `d`. -/
structure Document.SameContents (d d' : Document) : Prop where
  paths : d'.paths = d.paths
  schemas : d'.components.schemas = d.components.schemas

theorem InfoState.sameContents_updateTag (st : InfoState) (f : Tag → Tag) :
    st.document.SameContents (st.updateTag f).document := by
  unfold InfoState.updateTag
  split <;> exact ⟨rfl, rfl⟩

/-- One line of general information. -/
theorem InfoLine.sameContents_apply (line : InfoLine) (st : InfoState) :
    st.document.SameContents (line.apply st).document := by
  cases line with
  | schemes text =>
    rw [InfoLine.apply]
    split <;> exact ⟨rfl, rfl⟩
  | tagDescription text => exact st.sameContents_updateTag _
  | tagDocsUrl token => exact st.sameContents_updateTag _
  | tagDocsDescription text => exact st.sameContents_updateTag _
  | _ => exact ⟨rfl, rfl⟩

theorem InfoState.sameContents_applyLine (st : InfoState) (line : String) :
    st.document.SameContents (st.applyLine line).document := by
  unfold InfoState.applyLine
  split
  · next l _ => exact l.sameContents_apply st
  · exact ⟨rfl, rfl⟩

/-- All lines of general information of a file. -/
theorem Document.sameContents_applyInfo (d : Document) (groups : List CommentGroup) :
    d.SameContents (d.applyInfo groups) := by
  -- The state of the reading is carried along, so the statement is about any state.
  have hlines : ∀ (lines : List String) (st : InfoState),
      st.document.SameContents (lines.foldl InfoState.applyLine st).document := by
    intro lines
    induction lines with
    | nil => exact fun st => ⟨rfl, rfl⟩
    | cons line rest ih =>
      intro st
      rw [List.foldl_cons]
      have hstep := st.sameContents_applyLine line
      have hrest := ih (st.applyLine line)
      exact ⟨hrest.paths.trans hstep.paths, hrest.schemas.trans hstep.schemas⟩
  rw [Document.applyInfo]
  exact hlines (groups.flatMap CommentGroup.directives) { document := d }

namespace Build

theorem sameContents_addInfo (config : Config) (file : SourceFile) (b : Build) :
    b.document.SameContents (b.addInfo config file).document := by
  unfold addInfo
  split
  · exact Document.sameContents_applyInfo _ _
  · exact ⟨rfl, rfl⟩

theorem addFunc_schemas (ctx : BuildContext) (b : Build) (func : FuncDecl) :
    (b.addFunc ctx func).document.components.schemas = b.document.components.schemas := by
  unfold addFunc
  split <;> rfl

theorem foldl_addFunc_schemas (ctx : BuildContext) (funcs : List FuncDecl) (b : Build) :
    (funcs.foldl (addFunc ctx) b).document.components.schemas = b.document.components.schemas := by
  induction funcs generalizing b with
  | nil => rfl
  | cons func rest ih => rw [List.foldl_cons, ih, addFunc_schemas]

/-! ### Declared types -/

/-- The types that a file declares, one for each name that they are registered under. -/
def declaredTypes (ctx : BuildContext) (file : SourceFile) : List TypeInfo :=
  file.types.flatMap fun decl =>
    match typeSchema? ctx.resolver ctx.recordRules decl with
    | some schema =>
      (registeredNames file.package decl.name).map fun name =>
        { name, package := file.package, schema, source := file.path, line := decl.line }
    | none => []

theorem mem_declaredTypes {ctx : BuildContext} {file : SourceFile} {info : TypeInfo}
    (h : info ∈ declaredTypes ctx file) :
    ∃ decl ∈ file.types, typeSchema? ctx.resolver ctx.recordRules decl = some info.schema := by
  obtain ⟨decl, hdecl, hinfo⟩ := List.mem_flatMap.mp h
  refine ⟨decl, hdecl, ?_⟩
  split at hinfo
  · next schema hschema =>
    obtain ⟨name, -, rfl⟩ := List.mem_map.mp hinfo
    exact hschema
  · exact absurd hinfo (by simp)

/-- Adding type declarations is registering what they declare. -/
theorem foldl_addType_eq (ctx : BuildContext) (file : SourceFile) (b : Build) :
    file.types.foldl (addType ctx file) b = (declaredTypes ctx file).foldl register b := by
  unfold declaredTypes
  induction file.types generalizing b with
  | nil => rfl
  | cons decl rest ih =>
    rw [List.foldl_cons, ih, List.flatMap_cons, List.foldl_append, addType]
    cases typeSchema? ctx.resolver ctx.recordRules decl <;> rfl

theorem foldl_register_paths (infos : List TypeInfo) (b : Build) :
    (infos.foldl register b).document.paths = b.document.paths := by
  induction infos generalizing b with
  | nil => rfl
  | cons info rest ih => rw [List.foldl_cons, ih, register]

/-- Puts the schema of a type under its name. -/
def insertSchema (schemas : Assoc Schema) (info : TypeInfo) : Assoc Schema :=
  Assoc.insert schemas info.name info.schema

theorem foldl_register_schemas (infos : List TypeInfo) (b : Build) :
    (infos.foldl register b).document.components.schemas =
      infos.foldl insertSchema b.document.components.schemas := by
  induction infos generalizing b with
  | nil => rfl
  | cons info rest ih =>
    rw [List.foldl_cons, List.foldl_cons, ih]
    rfl

/-! ### Files -/

/-- The paths after a file are those that its functions leave. -/
theorem addFile_paths (ctx : BuildContext) (b : Build) (file : SourceFile) :
    (b.addFile ctx file).document.paths =
      (file.funcs.foldl (addFunc ctx) (b.addInfo ctx.config file)).document.paths := by
  rw [addFile, foldl_addType_eq, foldl_register_paths]

/-- The component schemas after a file are those of the types that it declares, over the old ones. -/
theorem addFile_schemas (ctx : BuildContext) (b : Build) (file : SourceFile) :
    (b.addFile ctx file).document.components.schemas =
      (declaredTypes ctx file).foldl insertSchema b.document.components.schemas := by
  rw [addFile, foldl_addType_eq, foldl_register_schemas, foldl_addFunc_schemas,
    (sameContents_addInfo ctx.config file b).schemas]

/-- The component schemas of a document depend on the types that its files declare. -/
theorem addFiles_schemas (ctx : BuildContext) (b : Build) (files : List SourceFile) :
    (b.addFiles ctx files).document.components.schemas =
      (files.flatMap (declaredTypes ctx)).foldl insertSchema b.document.components.schemas := by
  unfold addFiles
  induction files generalizing b with
  | nil => rfl
  | cons file rest ih =>
    rw [List.foldl_cons, ih, List.flatMap_cons, List.foldl_append, addFile_schemas]

end Build

end AnnotatedApi
