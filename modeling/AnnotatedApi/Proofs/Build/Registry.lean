import AnnotatedApi.Proofs.Assoc
import AnnotatedApi.Proofs.Build.Frame

/-!
The component schemas and the registered types.

A struct that a file declares (`DeclaredStruct`) is registered under its own name and, outside
package `main`, also behind the name of its package; both the document and the build keep what is
registered.  The component schemas are always the schemas of the registered types
(`addFiles_schemas_eq`), and a name has what the last struct registered under it has
(`get?_types_addFiles`).  Main statement: all this about a whole run, with the order of the names
(`registry_agrees_with_types`).
-/

namespace AnnotatedApi

/-! ### Declared structs -/

/-- A struct type with the file that declares it. -/
structure DeclaredStruct where
  file : SourceFile
  decl : TypeDecl
  fields : List Field
  type_eq : decl.type = .struct fields

namespace DeclaredStruct

/-- The name of the struct behind that of its package. -/
def qualifiedName (x : DeclaredStruct) : String :=
  x.file.package ++ "." ++ x.decl.name

/-- The struct is registered under a name: its own or, outside package `main`, the qualified one. -/
def Registers (x : DeclaredStruct) (name : String) : Prop :=
  name = x.decl.name ∨ x.file.package ≠ "" ∧ x.file.package ≠ "main" ∧ name = x.qualifiedName

/-- The names of the struct in the order in which it is registered under them. -/
def names (x : DeclaredStruct) : List String :=
  Build.registeredNames x.file.package x.decl.name

theorem mem_names {x : DeclaredStruct} {name : String} : name ∈ x.names ↔ x.Registers name := by
  unfold names Registers qualifiedName Build.registeredNames
  simp only [Bool.or_eq_true, String.isEmpty_iff, beq_iff_eq]
  by_cases hplain : x.file.package = "" ∨ x.file.package = "main"
  · rw [if_pos hplain]
    rcases hplain with h | h <;> simp [h]
  · rw [if_neg hplain]
    rw [not_or] at hplain
    simp [hplain.1, hplain.2]

/-- The schema that is generated for the struct. -/
def schema (ctx : BuildContext) (x : DeclaredStruct) : Schema :=
  ctx.resolver.structSchema ctx.recordRules x.fields (some x.decl.doc) 0

theorem typeSchema?_decl (ctx : BuildContext) (x : DeclaredStruct) :
    Build.typeSchema? ctx.resolver ctx.recordRules x.decl = some (x.schema ctx) := by
  rw [Build.typeSchema?, x.type_eq]
  rfl

/-- What is registered for the struct under a name. -/
def info (ctx : BuildContext) (x : DeclaredStruct) (name : String) : TypeInfo :=
  { name, package := x.file.package, schema := x.schema ctx, source := x.file.path
    line := x.decl.line }

end DeclaredStruct

namespace Build

/-- The struct that a declaration declares, if its type is one. -/
def structOf? (file : SourceFile) (decl : TypeDecl) : Option DeclaredStruct :=
  match h : decl.type with
  | .struct fields => some ⟨file, decl, fields, h⟩
  | _ => none

/-- The structs that a file declares, in order. -/
def structsOf (file : SourceFile) : List DeclaredStruct :=
  file.types.filterMap (structOf? file)

/-- The structs that files declare, in file order and then in the order of their declaration. -/
def declaredStructs (files : List SourceFile) : List DeclaredStruct :=
  files.flatMap structsOf

/-- The types of a file are what its structs register. -/
theorem declaredTypes_eq (ctx : BuildContext) (file : SourceFile) :
    declaredTypes ctx file = (structsOf file).flatMap fun x => x.names.map (x.info ctx) := by
  rw [structsOf, List.filterMap_eq_flatMap_toList, List.flatMap_assoc, declaredTypes]
  congr 1
  funext decl
  obtain ⟨name, type, doc, line⟩ := decl
  cases type with
  | struct fields => exact (List.append_nil _).symm
  | _ => rfl

theorem flatMap_declaredTypes_eq (ctx : BuildContext) (files : List SourceFile) :
    files.flatMap (declaredTypes ctx) =
      (declaredStructs files).flatMap fun x => x.names.map (x.info ctx) := by
  rw [declaredStructs, List.flatMap_assoc]
  exact congrArg (files.flatMap ·) (funext (declaredTypes_eq ctx))

theorem addType_eq_self (ctx : BuildContext) (file : SourceFile) (b : Build) {decl : TypeDecl}
    (h : ∀ fields, decl.type ≠ .struct fields) : b.addType ctx file decl = b := by
  have hnone : typeSchema? ctx.resolver ctx.recordRules decl = none := by
    unfold typeSchema?
    split
    · next fields hfields => exact absurd hfields (h fields)
    · rfl
  rw [addType, hnone]

/-! ### Registered types -/

/-- Keeps a type under its name. -/
def insertType (types : Assoc TypeInfo) (info : TypeInfo) : Assoc TypeInfo :=
  Assoc.insert types info.name info

theorem foldl_register_types (infos : List TypeInfo) (b : Build) :
    (infos.foldl register b).types = infos.foldl insertType b.types := by
  induction infos generalizing b with
  | nil => rfl
  | cons info rest ih =>
    rw [List.foldl_cons, List.foldl_cons, ih]
    rfl

theorem foldl_addFunc_types (ctx : BuildContext) (funcs : List FuncDecl) (b : Build) :
    (funcs.foldl (addFunc ctx) b).types = b.types := by
  induction funcs generalizing b with
  | nil => rfl
  | cons func rest ih =>
    rw [List.foldl_cons, ih, addFunc]
    split <;> rfl

theorem addInfo_types (config : Config) (file : SourceFile) (b : Build) :
    (b.addInfo config file).types = b.types := by
  unfold addInfo
  split <;> rfl

/-- The registered types depend on the types that files declare. -/
theorem addFiles_types (ctx : BuildContext) (b : Build) (files : List SourceFile) :
    (b.addFiles ctx files).types =
      (files.flatMap (declaredTypes ctx)).foldl insertType b.types := by
  unfold addFiles
  induction files generalizing b with
  | nil => rfl
  | cons file rest ih =>
    rw [List.foldl_cons, ih, List.flatMap_cons, List.foldl_append, addFile, foldl_addType_eq,
      foldl_register_types, foldl_addFunc_types, addInfo_types]

/-- The component schemas are always the schemas of the registered types, in the same order. -/
theorem addFiles_schemas_eq (ctx : BuildContext) (files : List SourceFile) {b : Build}
    (hb : b.document.components.schemas = Assoc.mapValues TypeInfo.schema b.types) :
    (b.addFiles ctx files).document.components.schemas =
      Assoc.mapValues TypeInfo.schema (b.addFiles ctx files).types := by
  rw [addFiles_schemas, addFiles_types, hb]
  exact List.foldl_hom (Assoc.mapValues TypeInfo.schema) fun types info =>
    (Assoc.mapValues_insert TypeInfo.schema types info.name info).symm

/-! ### What a name has -/

/-- One struct: it overwrites what its names had. -/
theorem get?_foldl_insertType (ctx : BuildContext) (x : DeclaredStruct) (names : List String)
    (types : Assoc TypeInfo) (name : String) :
    Assoc.get? ((names.map (x.info ctx)).foldl insertType types) name =
      if name ∈ names then some (x.info ctx name) else Assoc.get? types name := by
  induction names generalizing types with
  | nil => rfl
  | cons first rest ih =>
    rw [List.map_cons, List.foldl_cons, ih, insertType, Assoc.get?_insert]
    by_cases hfirst : first = name
    · subst hfirst
      simp [DeclaredStruct.info]
    · have hne : (x.info ctx first).name ≠ name := hfirst
      simp [hne, Ne.symm hfirst]

/-- All structs: a name has what the last struct registered under it has. -/
theorem get?_types_addFiles (ctx : BuildContext) (files : List SourceFile) (name : String) :
    Assoc.get? (({} : Build).addFiles ctx files).types name =
      ((declaredStructs files).reverse.find? fun x => name ∈ x.names).map (·.info ctx name) := by
  rw [addFiles_types, flatMap_declaredTypes_eq, List.foldl_flatMap]
  have hstep : ∀ types (x : DeclaredStruct),
      Assoc.get? ((x.names.map (x.info ctx)).foldl insertType types) name =
        if decide (name ∈ x.names) then some (x.info ctx name) else Assoc.get? types name := by
    intro types x
    rw [get?_foldl_insertType]
    simp only [decide_eq_true_eq]
  rw [view_foldl_eq_last_write (Assoc.get? · name) hstep]
  exact Option.or_none

/-- The same about the component schemas. -/
theorem get?_schemas_addFiles (ctx : BuildContext) (files : List SourceFile) (name : String) :
    Assoc.get? (({} : Build).addFiles ctx files).document.components.schemas name =
      ((declaredStructs files).reverse.find? fun x => name ∈ x.names).map (·.schema ctx) := by
  rw [addFiles_schemas_eq ctx files rfl, Assoc.get?_mapValues, get?_types_addFiles, Option.map_map]
  rfl

/-- The names of the registered types stand in the order of their first registration. -/
theorem keys_types_addFiles (ctx : BuildContext) (files : List SourceFile) :
    Assoc.keys (({} : Build).addFiles ctx files).types =
      ((declaredStructs files).flatMap (·.names)).eraseDups := by
  have hnames : (files.flatMap (declaredTypes ctx)).filterMap (fun info => some info.name) =
      (declaredStructs files).flatMap (·.names) := by
    rw [flatMap_declaredTypes_eq, List.filterMap_flatMap]
    simp [DeclaredStruct.info, Function.comp_def]
  rw [addFiles_types, ← hnames]
  exact Assoc.keys_foldl_eq_eraseDups (fun types info => Assoc.keys_insert _ _ _) _

/-- **The component schemas and the registered types agree.**  After any files, both have the same
names in the same order, and under each name the same schema.  The names are those that structs
register, in order of first registration, and each has what the last struct registered under it has:
its schema, its package, its file and its line.  Types other than structs register nothing. -/
theorem registry_agrees_with_types (ctx : BuildContext) (files : List SourceFile) :
    let b := ({} : Build).addFiles ctx files
    let schemas := b.document.components.schemas
    let structs := declaredStructs files
    Assoc.keys schemas = Assoc.keys b.types ∧
    (∀ name info, Assoc.get? b.types name = some info →
      info.name = name ∧ Assoc.get? schemas name = some info.schema) ∧
    Assoc.keys b.types = (structs.flatMap (·.names)).eraseDups ∧
    (∀ name, name ∈ Assoc.keys b.types ↔ ∃ x ∈ structs, x.Registers name) ∧
    (∀ name info, Assoc.get? b.types name = some info ↔
      ∃ before x after, structs = before ++ x :: after ∧ x.Registers name ∧
        (∀ later ∈ after, ¬ later.Registers name) ∧
        info.name = name ∧ info.package = x.file.package ∧ info.source = x.file.path ∧
        info.line = x.decl.line ∧
        typeSchema? ctx.resolver ctx.recordRules x.decl = some info.schema) ∧
    ∀ (b : Build) (file : SourceFile) (decl : TypeDecl), (∀ fields, decl.type ≠ .struct fields) →
      b.addType ctx file decl = b := by
  intro b schemas structs
  have hschemas : schemas = Assoc.mapValues TypeInfo.schema b.types :=
    addFiles_schemas_eq ctx files rfl
  have hlast := get?_types_addFiles ctx files
  refine ⟨?_, fun name info hinfo => ⟨?_, ?_⟩, keys_types_addFiles ctx files, fun name => ?_,
    fun name info => ?_, fun b file decl => addType_eq_self ctx file b⟩
  · rw [hschemas, Assoc.keys_mapValues]
  · rw [hlast, Option.map_eq_some_iff] at hinfo
    obtain ⟨x, -, rfl⟩ := hinfo
    rfl
  · rw [hschemas, Assoc.get?_mapValues, hinfo]
    rfl
  · rw [keys_types_addFiles, List.mem_eraseDups, List.mem_flatMap]
    simp only [DeclaredStruct.mem_names, structs]
  · rw [hlast, Option.map_eq_some_iff]
    simp only [find?_reverse_eq_some_iff, decide_eq_true_eq, decide_eq_false_iff_not,
      DeclaredStruct.mem_names]
    constructor
    · rintro ⟨x, ⟨before, after, heq, hx, hlater⟩, rfl⟩
      exact ⟨before, x, after, heq, hx, hlater, rfl, rfl, rfl, rfl, x.typeSchema?_decl ctx⟩
    · rintro ⟨before, x, after, heq, hx, hlater, rfl, hpackage, hsource, hline, hschema⟩
      refine ⟨x, ⟨before, after, heq, hx, hlater⟩, ?_⟩
      rw [x.typeSchema?_decl ctx, Option.some_inj] at hschema
      obtain ⟨name, package, schema, source, line⟩ := info
      subst hpackage hsource hline hschema
      rfl

end Build

end AnnotatedApi
