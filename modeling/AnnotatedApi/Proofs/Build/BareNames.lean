import AnnotatedApi.Proofs.Build.Registry
import AnnotatedApi.Proofs.Resolution.References

/-!
What a bare name means as the type of a field.

A field whose type is a bare name refers to the component of that name (`reference_of_bare_name`),
whatever the package of its struct.  All packages share these names, and each has the schema of the
last struct that was registered under it.  So a bare name means the struct of its own package if no
later struct takes the name (`bare_name_means_last_struct`), and otherwise it leads to another
package (`bare_name_leads_to_other_package`).
-/

namespace AnnotatedApi

/-! ### References of fields -/

/-- Replacing the type keeps a reference or drops it. -/
theorem reference_of_applySwaggerType {value : String} {s : Schema} {reference : String}
    (h : (applySwaggerType value s).reference = some reference) : s.reference = some reference := by
  unfold applySwaggerType at h
  split at h
  · split at h
    · exact absurd h (by simp)
    · exact h
  · split at h
    · exact absurd h (by simp)
    · exact h
  · dsimp only at h
    split at h <;> exact absurd h (by simp)
  · exact h

/-- The comments and the tag of a field bring in no reference. -/
theorem reference_of_decorated {tags : StructTags} {lines : List String} {s : Schema}
    {reference : String}
    (h : (tags.apply (lines.foldl applyFieldLine s)).reference = some reference) :
    s.reference = some reference := by
  have htags : (tags.apply (lines.foldl applyFieldLine s)).reference =
      (withPart tags.swaggerType applySwaggerType (lines.foldl applyFieldLine s)).reference :=
    congrArg (·.reference) (tags.skeleton_apply (lines.foldl applyFieldLine s))
  have hlines : (lines.foldl applyFieldLine s).reference = s.reference :=
    congrArg (·.reference) (skeleton_foldl skeleton_applyFieldLine lines s)
  rw [htags] at h
  rw [← hlines]
  cases hpart : tags.swaggerType with
  | none =>
    rw [hpart] at h
    exact h
  | some value =>
    rw [hpart] at h
    exact reference_of_applySwaggerType h

theorem reference_of_builtinSchema? {name : String} {s : Schema}
    (h : builtinSchema? name = some s) : s.reference = none := by
  unfold builtinSchema? at h
  split at h <;> cases h
  all_goals rfl

theorem named_of_no_override {r : Resolver} {name : String}
    (hoverride : r.overrides.lookup? name = none) (rules : RecordRules) :
    r.named (.source rules) name = (builtinSchema? name).getD (.ref name) := by
  rw [Resolver.named, hoverride]
  rfl

/-- A bare name that is neither overridden nor builtin is a reference to its component. -/
theorem resolve_ident_eq_ref {r : Resolver} {name : String}
    (hoverride : r.overrides.lookup? name = none) (hbuiltin : builtinSchema? name = none)
    (rules : RecordRules) : r.resolve (.source rules) (.ident name) 0 = .ref name := by
  -- The limit, if there is one, is not reached at the top.
  have hdepth : r.isExhausted 0 = false := by
    simp [Resolver.isExhausted, Nat.pos_iff_ne_zero]
  rw [Resolver.resolve, hdepth, if_neg Bool.false_ne_true, named_of_no_override hoverride, hbuiltin]
  rfl

/-- A bare name that is not overridden has no other reference than the one to its component. -/
theorem reference_of_resolve_ident {r : Resolver} {rules : RecordRules} {name : String}
    {depth : Nat} {reference : String} (hoverride : r.overrides.lookup? name = none)
    (h : (r.resolve (.source rules) (.ident name) depth).reference = some reference) :
    reference = refStart ++ name := by
  rw [Resolver.resolve] at h
  split at h
  · exact absurd h (by simp)
  · rw [named_of_no_override hoverride] at h
    cases hbuiltin : builtinSchema? name with
    | some s =>
      rw [hbuiltin, Option.getD_some, reference_of_builtinSchema? hbuiltin] at h
      exact absurd h (by simp)
    | none =>
      rw [hbuiltin] at h
      exact (Option.some_inj.mp h).symm

/-- The schema of a struct gets the reference by the field: in a property, or by composition if the
field is embedded. -/
def BuildContext.FieldRefers (ctx : BuildContext) (field : Field) (reference : String) : Prop :=
  ∃ depth, ∃ t ∈ (addField ctx.recordRules
      (ctx.resolver.resolve (.source ctx.recordRules) field.type depth) field
      (.typed "object")).parts,
    t.reference = some reference

theorem parts_typed (name : String) : (Schema.typed name).parts = [] := rfl

/-- The properties that one field declaration adds all have the same schema. -/
theorem mem_parts_foldl_addProperty {rules : RecordRules} {tags : StructTags} {pointer : Bool}
    {t s u : Schema} {names : List String}
    (hu : u ∈ (names.foldl (addProperty rules tags pointer t) s).parts) : u ∈ s.parts ∨ u = t := by
  induction names generalizing s with
  | nil => exact .inl hu
  | cons name rest ih =>
    rcases ih hu with hold | hnew
    · exact Schema.mem_parts_addProperty hold
    · exact .inr hnew

/-- A field whose type is a bare name refers to the component of that name. -/
theorem reference_of_bare_name {ctx : BuildContext} {field : Field} {name reference : String}
    (htype : field.type = .ident name) (hoverride : ctx.overrides.lookup? name = none)
    (h : ctx.FieldRefers field reference) : reference = refStart ++ name := by
  obtain ⟨depth, t, ht, href⟩ := h
  unfold addField at ht
  rw [htype] at ht
  split at ht
  · -- An embedded field has one part, the reference itself.
    obtain rfl : t = .ref name := List.mem_singleton.mp ht
    exact (Option.some_inj.mp href).symm
  · dsimp only at ht
    split at ht
    · rw [parts_typed] at ht
      exact absurd ht List.not_mem_nil
    · rcases mem_parts_foldl_addProperty ht with hold | rfl
      · rw [parts_typed] at hold
        exact absurd hold List.not_mem_nil
      · exact reference_of_resolve_ident hoverride (reference_of_decorated href)

namespace Build

/-! ### What the component is -/

theorem get?_schemas_of_last {ctx : BuildContext} {files : List SourceFile} {name : String}
    {before after : List DeclaredStruct} {x : DeclaredStruct}
    (hsplit : declaredStructs files = before ++ x :: after) (hx : x.Registers name)
    (hlater : ∀ later ∈ after, ¬ later.Registers name) :
    Assoc.get? (({} : Build).addFiles ctx files).document.components.schemas name =
      some (x.schema ctx) := by
  have hfind : ((declaredStructs files).reverse.find? fun x => name ∈ x.names) = some x := by
    rw [find?_reverse_eq_some_iff]
    refine ⟨before, after, hsplit, decide_eq_true (DeclaredStruct.mem_names.mpr hx), ?_⟩
    intro later hmem
    exact decide_eq_false fun hname => hlater later hmem (DeclaredStruct.mem_names.mp hname)
  rw [get?_schemas_addFiles, hfind]
  rfl

/-- Of the structs registered under a name one is the last. -/
theorem exists_last_registered {structs : List DeclaredStruct} {name : String} {x : DeclaredStruct}
    (hx : x ∈ structs) (hname : x.Registers name) :
    ∃ before last after, structs = before ++ last :: after ∧ last.Registers name ∧
      ∀ later ∈ after, ¬ later.Registers name := by
  cases hfind : structs.reverse.find? fun x => name ∈ x.names with
  | none =>
    have hnot := List.find?_eq_none.mp hfind x (List.mem_reverse.mpr hx)
    exact absurd (decide_eq_true (DeclaredStruct.mem_names.mpr hname)) hnot
  | some last =>
    obtain ⟨before, after, hsplit, hlast, hlater⟩ := find?_reverse_eq_some_iff.mp hfind
    simp only [decide_eq_true_eq, decide_eq_false_iff_not, DeclaredStruct.mem_names] at hlast hlater
    exact ⟨before, last, after, hsplit, hlast, hlater⟩

/-- **A bare name means the last struct of that name.**  Take a struct that is declared in a package
other than `main`, and a field anywhere whose type is its bare name, which has no override.  The
type stands for a reference to the component of that name, unless it is builtin, and this is the
only reference that the field can get.  The component is the schema of the last struct registered
under the name.  It is the struct taken, which also its qualified name stands for, if no later
struct is registered under either of the two names. -/
theorem bare_name_means_last_struct (ctx : BuildContext) (files : List SourceFile)
    (own : DeclaredStruct) (hown : own ∈ declaredStructs files)
    (hpackage : own.file.package ≠ "" ∧ own.file.package ≠ "main")
    (hoverride : ctx.overrides.lookup? own.decl.name = none) {field : Field}
    (htype : field.type = .ident own.decl.name) {reference : String}
    (hrefers : ctx.FieldRefers field reference) :
    let schemas := (({} : Build).addFiles ctx files).document.components.schemas
    (builtinSchema? own.decl.name = none →
      ctx.resolver.resolve (.source ctx.recordRules) field.type 0 = .ref own.decl.name) ∧
    reference = refStart ++ own.decl.name ∧
    (∃ before last after, declaredStructs files = before ++ last :: after ∧
      last.Registers own.decl.name ∧ (∀ later ∈ after, ¬ later.Registers own.decl.name) ∧
      Assoc.get? schemas own.decl.name = some (last.schema ctx)) ∧
    ∀ before after, declaredStructs files = before ++ own :: after →
      (∀ later ∈ after, ¬ later.Registers own.decl.name ∧ ¬ later.Registers own.qualifiedName) →
      Assoc.get? schemas own.decl.name = some (own.schema ctx) ∧
      Assoc.get? schemas own.qualifiedName = some (own.schema ctx) := by
  intro schemas
  have hplain : own.Registers own.decl.name := .inl rfl
  have hqualified : own.Registers own.qualifiedName := .inr ⟨hpackage.1, hpackage.2, rfl⟩
  refine ⟨fun hbuiltin => ?_, reference_of_bare_name htype hoverride hrefers, ?_,
    fun before after hsplit hlater => ?_⟩
  · rw [htype]
    exact resolve_ident_eq_ref hoverride hbuiltin ctx.recordRules
  · obtain ⟨before, last, after, hsplit, hlast, hlater⟩ := exists_last_registered hown hplain
    exact ⟨before, last, after, hsplit, hlast, hlater, get?_schemas_of_last hsplit hlast hlater⟩
  · exact ⟨get?_schemas_of_last hsplit hplain fun later hmem => (hlater later hmem).1,
      get?_schemas_of_last hsplit hqualified fun later hmem => (hlater later hmem).2⟩

/-! ### Two packages with a type of the same name -/

/-- The field `Buyer User`. -/
def buyerField : Field := { names := ["Buyer"], type := .ident "User" }

/-- The users of package `shop`. -/
def shopUser : TypeDecl :=
  { name := "User", type := .struct [{ names := ["Name"], type := .ident "string" }], line := 3 }

/-- The users of package `admin`. -/
def adminUser : TypeDecl :=
  { name := "User", type := .struct [{ names := ["Level"], type := .ident "int" }], line := 3 }

/-- Package `shop`, where orders have users. -/
def shopFile : SourceFile :=
  { path := "shop/order.go", package := "shop"
    types := [shopUser, { name := "Order", type := .struct [buyerField], line := 7 }] }

/-- Package `admin`, with users of its own. -/
def adminFile : SourceFile :=
  { path := "admin/user.go", package := "admin", types := [adminUser] }

theorem buyerField_refers : ({} : BuildContext).FieldRefers buyerField (refStart ++ "User") := by
  have hpart : ((addField ({} : BuildContext).recordRules (({} : BuildContext).resolver.resolve
      (.source ({} : BuildContext).recordRules) buyerField.type 0) buyerField
      (.typed "object")).parts.any fun t => t.reference == some (refStart ++ "User")) = true := by
    decide
  simp only [List.any_eq_true, beq_iff_eq] at hpart
  exact ⟨0, hpart⟩

/-- With package `shop` last, the buyer of an order is a user of that package. -/
theorem buyer_of_last_package :
    let own : DeclaredStruct := { file := shopFile, decl := shopUser, fields := _, type_eq := rfl }
    let schemas := (({} : Build).addFiles {} [adminFile, shopFile]).document.components.schemas
    ({} : BuildContext).FieldRefers buyerField (refStart ++ "User") ∧
    Assoc.get? schemas "User" = some (own.schema {}) ∧
    Assoc.get? schemas "shop.User" = some (own.schema {}) := by
  intro own schemas
  let structs := declaredStructs [adminFile, shopFile]
  have hsplit : structs = structs.take 1 ++ own :: structs.drop 2 := rfl
  have hlater : ((structs.drop 2).all fun later =>
      !later.names.contains "User" && !later.names.contains "shop.User") = true := by decide
  simp only [List.all_eq_true, Bool.and_eq_true, Bool.not_eq_true', List.contains_eq_mem,
    decide_eq_false_iff_not, DeclaredStruct.mem_names] at hlater
  have hown : own ∈ structs := by
    rw [hsplit]
    simp
  have hmeans := bare_name_means_last_struct {} [adminFile, shopFile] own hown (by decide)
    (by decide) rfl buyerField_refers
  exact ⟨buyerField_refers, hmeans.2.2.2 _ _ hsplit hlater⟩

/-- With package `admin` last, the order of package `shop` refers to the user of package `admin`,
although its own package declares one, once, and there is no override. -/
theorem bare_name_leads_to_other_package :
    let files := [shopFile, adminFile]
    let schemas := (({} : Build).addFiles {} files).document.components.schemas
    ((declaredStructs files).filter fun x =>
      x.file.package == "shop" && x.decl.name == "User").length = 1 ∧
    ({} : BuildContext).overrides.lookup? "User" = none ∧
    (∃ order buyer, Assoc.get? schemas "shop.Order" = some order ∧
      Assoc.get? order.properties "buyer" = some buyer ∧
      buyer.reference = some (refStart ++ "User")) ∧
    Assoc.get? schemas "User" ≠ Assoc.get? schemas "shop.User" := by
  intro files schemas
  refine ⟨by decide, by decide, ?_, fun heq => ?_⟩
  · have hbuyer : ((Assoc.get? schemas "shop.Order").any fun order =>
        (Assoc.get? order.properties "buyer").any fun buyer =>
          buyer.reference == some (refStart ++ "User")) = true := by decide
    simp only [Option.any_eq_true, beq_iff_eq] at hbuyer
    obtain ⟨order, horder, buyer, hbuyer, href⟩ := hbuyer
    exact ⟨order, buyer, horder, hbuyer, href⟩
  · have hproperties := congrArg (Option.map fun s => Assoc.keys s.properties) heq
    exact absurd hproperties (by decide)

end Build

end AnnotatedApi
