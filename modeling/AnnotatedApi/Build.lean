import AnnotatedApi.Config
import AnnotatedApi.Directive.GeneralInfo
import AnnotatedApi.GoSource.Declaration

/-!
Building a document from source files.

Files are added one after another. The one general-info file feeds the document-level sections; the
functions of every file give operations, the last one for a route winning; its struct types give
component schemas, under their simple name and, outside package `main`, also under their qualified
name.
-/

namespace AnnotatedApi

/-- A struct type that was registered. -/
structure TypeInfo where
  name : String
  package : String
  schema : Schema
  source : String
  line : Nat
deriving Inhabited

/-- What stays the same while files are added. -/
structure BuildContext where
  config : Config := {}
  content : ContentStore := {}
  overrides : Overrides := []
deriving Inhabited

namespace BuildContext

def resolver (ctx : BuildContext) : Resolver :=
  { overrides := ctx.overrides, maxDepth := ctx.config.maxDepth }

def recordRules (ctx : BuildContext) : RecordRules :=
  { naming := ctx.config.naming, requiredByDefault := ctx.config.requiredByDefault }

def operationContext (ctx : BuildContext) : OperationContext :=
  { resolver := ctx.resolver, content := ctx.content
    collectionFormat := ctx.config.collectionFormat }

end BuildContext

/-- The document so far, the types registered, and the file that was taken for the general
information. -/
structure Build where
  document : Document := .initial
  types : Assoc TypeInfo := []
  generalInfoFile : Option String := none
deriving Inhabited

namespace Build

/-- Whether a file is the one that a configured path means. -/
def sameFile (configured path : String) : Bool :=
  Path.same path configured || Path.endsWith path configured

/-- Whether a file may be taken for the general-info file. -/
def isEligible (config : Config) (file : SourceFile) : Bool :=
  match config.generalInfoFile with
  | some configured => sameFile configured file.path
  | none => file.hasGeneralInfo

/-- Whether the general information is read from a file that is added now. -/
def readsInfo (config : Config) (b : Build) (file : SourceFile) : Bool :=
  match b.generalInfoFile with
  | some current => Path.same current file.path
  | none => isEligible config file

/-- Takes a file for the general-info file, unless there is one already, and reads it. -/
def addInfo (config : Config) (file : SourceFile) (b : Build) : Build :=
  if b.readsInfo config file then
    { b with
      document := b.document.applyInfo file.comments
      generalInfoFile := b.generalInfoFile.or (some file.path) }
  else b

/-- The operation that a function describes, with its route, if it is kept. -/
def keptOperation? (ctx : BuildContext) (func : FuncDecl) : Option (Route × Operation) := do
  let opCtx := ctx.operationContext
  let op ← Operation.ofComment? opCtx func.doc
  let op := if ctx.config.parseFuncBody then
      func.bodyComments.foldl (Operation.applyComment opCtx) op
    else op
  if ctx.config.keepsTags op.tags && ctx.config.keepsExtensions (Assoc.keys op.extensions) then
    (Directive.firstRoute? func.doc.lines).map (·, op)
  else none

/-- Attaches an operation to its route. -/
def placeOperation (route : Route) (op : Operation) (d : Document) : Document :=
  { d with paths := Assoc.alter d.paths route.path {} (·.place route.method op) }

/-- Adds the operation of a function. -/
def addFunc (ctx : BuildContext) (b : Build) (func : FuncDecl) : Build :=
  match keptOperation? ctx func with
  | some (route, op) => { b with document := placeOperation route op b.document }
  | none => b

/-- The schema of a type declaration, if it declares a struct. -/
def typeSchema? (r : Resolver) (rules : RecordRules) (decl : TypeDecl) : Option Schema :=
  match decl.type with
  | .struct fields => some (r.structSchema rules fields (some decl.doc) 0)
  | _ => none

/-- The names that a declaration is registered under. -/
def registeredNames (package name : String) : List String :=
  if package.isEmpty || package == "main" then [name] else [name, package ++ "." ++ name]

/-- Registers a type under its name. -/
def register (b : Build) (info : TypeInfo) : Build :=
  let components := b.document.components
  let schemas := Assoc.insert components.schemas info.name info.schema
  { b with
    document := { b.document with components := { components with schemas } }
    types := Assoc.insert b.types info.name info }

/-- Adds the schema of a type declaration. -/
def addType (ctx : BuildContext) (file : SourceFile) (b : Build) (decl : TypeDecl) : Build :=
  match typeSchema? ctx.resolver ctx.recordRules decl with
  | some schema =>
    ((registeredNames file.package decl.name).map fun name =>
      { name, package := file.package, schema, source := file.path
        line := decl.line : TypeInfo }).foldl register b
  | none => b

/-- Adds a file. -/
def addFile (ctx : BuildContext) (b : Build) (file : SourceFile) : Build :=
  let b := b.addInfo ctx.config file
  let b := file.funcs.foldl (addFunc ctx) b
  file.types.foldl (addType ctx file) b

/-- Adds files in order. -/
def addFiles (ctx : BuildContext) (b : Build) (files : List SourceFile) : Build :=
  files.foldl (addFile ctx) b

/-- The files that the general information is read from when files are added in order. -/
def infoReads (ctx : BuildContext) (b : Build) : List SourceFile → List String
  | [] => []
  | file :: rest =>
    (if b.readsInfo ctx.config file then [file.path] else []) ++
      infoReads ctx (b.addFile ctx file) rest

end Build

end AnnotatedApi
