import AnnotatedApi.Proofs.Build.GeneralInfo
import AnnotatedApi.Proofs.Build.Routes

/-!
Filters on operations.

A run may be told to keep only operations with certain tags or extensions.  The filters are asked
once for each function, about the operation that its comments describe, and nothing else in a build
looks at them.  `PassesFilters` says what they ask in terms of the texts that set them, and
`keptRoute?_eq_filter` that a function is kept with its route exactly if its operation passes.  Main
statement: when every route is declared once, building with filters gives the operations of the
unfiltered document that pass, and the rest of the document is the same
(`filtering_commutes_with_building`).
-/

namespace AnnotatedApi

open Text

/-! ### What filters ask of an operation -/

/-- The filter names the tag, without an exclamation mark. -/
def IncludesTag (filter tag : String) : Prop :=
  tag ∈ commaList filter ∧ startsWith "!" tag = false

/-- The filter names the tag behind an exclamation mark. -/
def ExcludesTag (filter tag : String) : Prop :=
  ∃ rest, "!" ++ rest ∈ commaList filter ∧ tag = trim rest

/-- What a tag filter and the start of extension keys ask of an operation. An empty start asks for
nothing. -/
structure PassesFilters (filter start : String) (op : Operation) : Prop where
  noneExcluded : ∀ tag ∈ op.tags, ¬ ExcludesTag filter tag
  oneIncluded : (∃ tag, IncludesTag filter tag) → ∃ tag ∈ op.tags, IncludesTag filter tag
  extension : start ≠ "" → ∃ key ∈ Assoc.keys op.extensions, startsWith start key = true

namespace Config

/-- The configuration without its filters. -/
def unfiltered (c : Config) : Config :=
  { c with includeTags := [], excludeTags := [], extensionStart := none }

/-- The configuration keeps the operation. -/
def keeps (c : Config) (op : Operation) : Bool :=
  c.keepsTags op.tags && c.keepsExtensions (Assoc.keys op.extensions)

theorem mem_includeTags_withTags {c : Config} {filter tag : String} :
    tag ∈ (c.withTags filter).includeTags ↔ IncludesTag filter tag := by
  simp [withTags, IncludesTag]

theorem mem_excludeTags_withTags {c : Config} {filter tag : String} :
    tag ∈ (c.withTags filter).excludeTags ↔ ExcludesTag filter tag := by
  simp only [withTags, ExcludesTag, List.mem_filterMap, Option.map_eq_some_iff,
    dropStart?_eq_some_iff]
  constructor
  · rintro ⟨item, hitem, rest, rfl, rfl⟩
    exact ⟨rest, hitem, rfl⟩
  · rintro ⟨rest, hitem, rfl⟩
    exact ⟨_, hitem, rest, rfl, rfl⟩

theorem keepsTags_withTags {c : Config} {filter : String} {tags : List String} :
    (c.withTags filter).keepsTags tags = true ↔
      (∀ tag ∈ tags, ¬ ExcludesTag filter tag) ∧
      ((∃ tag, IncludesTag filter tag) → ∃ tag ∈ tags, IncludesTag filter tag) := by
  have hnone : (c.withTags filter).includeTags = [] ↔ ¬ ∃ tag, IncludesTag filter tag := by
    simp only [List.eq_nil_iff_forall_not_mem, mem_includeTags_withTags, not_exists]
  simp only [keepsTags, Bool.and_eq_true, Bool.or_eq_true, Bool.not_eq_true', List.any_eq_false,
    List.any_eq_true, List.contains_iff_mem, List.isEmpty_iff, hnone, mem_excludeTags_withTags,
    mem_includeTags_withTags]
  exact and_congr_right fun _ => imp_iff_not_or.symm

theorem keepsExtensions_withExtensionStart {c : Config} {start : String} {keys : List String} :
    (c.withExtensionStart start).keepsExtensions keys = true ↔
      (start ≠ "" → ∃ key ∈ keys, startsWith start key = true) := by
  unfold keepsExtensions withExtensionStart
  by_cases hstart : start = ""
  · simp [hstart]
  · simp [hstart]

/-- The filters that two texts set ask what they say. -/
theorem keeps_iff_passesFilters {c : Config} {filter start : String} {op : Operation} :
    ((c.withTags filter).withExtensionStart start).keeps op = true ↔
      PassesFilters filter start op := by
  have htags : ((c.withTags filter).withExtensionStart start).keepsTags op.tags =
      (c.withTags filter).keepsTags op.tags := rfl
  rw [keeps, Bool.and_eq_true, htags, keepsTags_withTags, keepsExtensions_withExtensionStart]
  constructor
  · rintro ⟨⟨hexcluded, hincluded⟩, hextension⟩
    exact ⟨hexcluded, hincluded, hextension⟩
  · intro h
    exact ⟨⟨h.noneExcluded, h.oneIncluded⟩, h.extension⟩

end Config

/-- The context without filters. -/
def BuildContext.unfiltered (ctx : BuildContext) : BuildContext :=
  { ctx with config := ctx.config.unfiltered }

/-- A line that declares a route is a directive. -/
theorem isDirective_of_route? {line : String} {route : Route}
    (h : Directive.route? line = some route) : CommentGroup.isDirective line = true := by
  have hkeyword : (Directive.splitLine line).1 = "@Router" := by
    by_contra hne
    simp [Directive.route?, hne] at h
  have htoken : line.toList.takeWhile (!isBlank ·) = "@Router".toList := by
    rw [← hkeyword]
    exact String.toList_ofList.symm
  have hline : line.toList = "@".toList ++
      ("Router".toList ++ line.toList.dropWhile (!isBlank ·)) := by
    have hsplit := List.takeWhile_append_dropWhile (p := (!isBlank ·)) (l := line.toList)
    rw [htoken] at hsplit
    exact hsplit.symm
  rw [CommentGroup.isDirective, startsWith, hline, afterStart?_append]
  rfl

namespace Build

/-! ### Filtered functions -/

/-- Without filters a function is kept if its documentation declares a route. -/
theorem keptRoute?_unfiltered (ctx : BuildContext) (func : FuncDecl) :
    keptRoute? ctx.unfiltered func = Directive.firstRoute? func.doc.lines := by
  have hkeeps : ∀ op : Operation, ctx.unfiltered.config.keepsTags op.tags = true ∧
      ctx.unfiltered.config.keepsExtensions (Assoc.keys op.extensions) = true := by
    intro op
    simp [BuildContext.unfiltered, Config.unfiltered, Config.keepsTags, Config.keepsExtensions]
  obtain ⟨htags, hextensions⟩ := hkeeps (describedOperation ctx.unfiltered func)
  rw [keptRoute?, htags, hextensions, Bool.and_true, Bool.and_true]
  split
  · rfl
  · next hnone =>
    -- A function without directives declares no route.
    rw [Directive.firstRoute?, eq_comm, List.findSome?_eq_none_iff]
    intro line hline
    cases hroute : Directive.route? line with
    | none => rfl
    | some route =>
      exact absurd (List.any_eq_true.mpr ⟨line, hline, isDirective_of_route? hroute⟩) hnone

/-- A function is kept with its route if its operation passes the filters. -/
theorem keptRoute?_eq_filter (ctx : BuildContext) (func : FuncDecl) :
    keptRoute? ctx func =
      if ctx.config.keeps (describedOperation ctx.unfiltered func) then
        keptRoute? ctx.unfiltered func
      else none := by
  have hsame : describedOperation ctx func = describedOperation ctx.unfiltered func := rfl
  rw [keptRoute?_unfiltered, ← hsame, Config.keeps]
  have hnone : func.doc.lines.any CommentGroup.isDirective = false →
      Directive.firstRoute? func.doc.lines = none := by
    intro h
    have hkept := keptRoute?_unfiltered ctx func
    rw [keptRoute?, h] at hkept
    simpa using hkept.symm
  rw [keptRoute?]
  cases hany : func.doc.lines.any CommentGroup.isDirective with
  | true => rw [Bool.true_and]
  | false => simp [hnone hany]

/-- Among elements of which at most one satisfies `p`, a search for `p` and `q` finds that one or
nothing. -/
theorem find?_and_of_pairwise {α : Type} {p q : α → Bool} {l : List α}
    (h : l.Pairwise fun a b => ¬ (p a = true ∧ p b = true)) :
    l.find? (fun a => p a && q a) = (l.find? p).filter q := by
  induction l with
  | nil => rfl
  | cons a rest ih =>
    rw [List.pairwise_cons] at h
    cases hp : p a with
    | false => simp [hp, ih h.2]
    | true =>
      cases hq : q a with
      | true => simp [hp, hq, Option.filter_some]
      | false =>
        have hrest : rest.find? (fun b => p b && q b) = none := by
          rw [List.find?_eq_none]
          intro b hb hboth
          exact h.1 b hb ⟨hp, (Bool.and_eq_true_iff.mp hboth).1⟩
        simp [hp, hq, hrest, Option.filter_some]

/-- The slots of a build with filters are those of the build without, as far as they pass. -/
theorem slotAt_addFiles_eq_filter (ctx : BuildContext) {files : List SourceFile}
    (hroutes : ((files.flatMap (·.funcs)).filterMap
      fun func => Directive.firstRoute? func.doc.lines).Nodup) (route : Route) :
    slotAt (({} : Build).addFiles ctx files).document.paths route =
      (slotAt (({} : Build).addFiles ctx.unfiltered files).document.paths route).filter
        ctx.config.keeps := by
  have hpaths : ∀ ctx, (({} : Build).addFiles ctx files).document.paths =
      (files.flatMap (·.funcs)).foldl (placeKept ctx) [] := fun ctx => addFiles_paths ctx {} files
  rw [hpaths, hpaths, slotAt_foldl_placeKept, slotAt_foldl_placeKept]
  generalize files.flatMap (·.funcs) = funcs at hroutes ⊢
  have hkept : (fun f => decide (keptRoute? ctx f = some route)) = fun f =>
      decide (keptRoute? ctx.unfiltered f = some route) &&
        ctx.config.keeps (describedOperation ctx.unfiltered f) := by
    funext f
    rw [keptRoute?_eq_filter]
    split <;> simp_all
  -- The filters cannot bring up another function, because no other declares the route.
  have honce : funcs.reverse.Pairwise fun f g =>
      ¬ (decide (keptRoute? ctx.unfiltered f = some route) = true ∧
        decide (keptRoute? ctx.unfiltered g = some route) = true) := by
    rw [List.Nodup, List.pairwise_filterMap] at hroutes
    refine List.pairwise_reverse.mpr (hroutes.imp fun {f g} hne hboth => ?_)
    simp only [keptRoute?_unfiltered, decide_eq_true_eq] at hboth
    exact hne route hboth.2 route hboth.1 rfl
  rw [hkept, find?_and_of_pairwise honce]
  simp only [slotAt, Assoc.get?, Option.bind_none, Option.or_none]
  cases funcs.reverse.find? fun f => decide (keptRoute? ctx.unfiltered f = some route) with
  | none => rfl
  | some func =>
    rw [Option.map_some, Option.filter_some, Option.filter_some]
    split <;> rfl

/-! ### Filtered documents -/

/-- A path is there iff one of its slots is filled. -/
theorem mem_keys_paths_addFiles {ctx : BuildContext} {files : List SourceFile} {path : String} :
    path ∈ Assoc.keys (({} : Build).addFiles ctx files).document.paths ↔
      ∃ method op,
        slotAt (({} : Build).addFiles ctx files).document.paths ⟨path, method⟩ = some op := by
  have hfull : ∀ e ∈ (({} : Build).addFiles ctx files).document.paths, HasOperation e.2 := by
    rw [addFiles_paths]
    exact hasOperation_foldl_placeKept _ (by simp [Document.initial])
  generalize (({} : Build).addFiles ctx files).document.paths = paths at hfull ⊢
  constructor
  · intro hpath
    obtain ⟨item, hitem⟩ : ∃ item, Assoc.get? paths path = some item := by
      rw [← Option.ne_none_iff_exists', Ne, Assoc.get?_eq_none_iff, not_not]
      exact hpath
    obtain ⟨method, op, hop⟩ := hfull _ (Assoc.mem_of_get? hitem)
    exact ⟨method, op, by simp [slotAt, hitem, hop]⟩
  · rintro ⟨method, op, hop⟩
    obtain ⟨item, hitem, -⟩ := Option.bind_eq_some_iff.mp hop
    exact List.mem_map_of_mem (Assoc.mem_of_get? hitem)

/-- General information is read without regard to the filters. -/
theorem general_addFiles_unfiltered (ctx : BuildContext) (files : List SourceFile) :
    (({} : Build).addFiles ctx files).document.general =
      (({} : Build).addFiles ctx.unfiltered files).document.general := by
  have hpart : (({} : Build).addFiles ctx files).infoPart =
      (({} : Build).addFiles ctx.unfiltered files).infoPart := by
    rw [infoPart_addFiles, infoPart_addFiles]
    rfl
  exact congrArg document hpart

/-- **Filtering commutes with building.**  If no two functions declare the same route, the document
built with filters has at every route the operation of the unfiltered document if that passes, and
nothing otherwise; its paths are those that keep an operation, and all the rest is the same. -/
theorem filtering_commutes_with_building (ctx : BuildContext) (filter start : String)
    (files : List SourceFile)
    (hroutes : ((files.flatMap (·.funcs)).filterMap
      fun func => Directive.firstRoute? func.doc.lines).Nodup) :
    let filtered : BuildContext :=
      { ctx with config := (ctx.config.withTags filter).withExtensionStart start }
    let whole := (({} : Build).addFiles ctx.unfiltered files).document
    let chosen := (({} : Build).addFiles filtered files).document
    (∀ path method op,
      (Assoc.get? chosen.paths path).bind (·.slot method) = some op ↔
        (Assoc.get? whole.paths path).bind (·.slot method) = some op ∧
        PassesFilters filter start op) ∧
    (∀ path, path ∈ Assoc.keys chosen.paths ↔
      ∃ method op, (Assoc.get? whole.paths path).bind (·.slot method) = some op ∧
        PassesFilters filter start op) ∧
    chosen.components.schemas = whole.components.schemas ∧
    chosen.general = whole.general := by
  intro filtered whole chosen
  have hplain : filtered.unfiltered = ctx.unfiltered := rfl
  have hslot : ∀ path method op, slotAt chosen.paths ⟨path, method⟩ = some op ↔
      slotAt whole.paths ⟨path, method⟩ = some op ∧ PassesFilters filter start op := by
    intro path method op
    have hfilter := slotAt_addFiles_eq_filter filtered hroutes ⟨path, method⟩
    rw [hplain] at hfilter
    rw [hfilter, Option.filter_eq_some_iff]
    exact and_congr_right fun _ => Config.keeps_iff_passesFilters
  have hgeneral := general_addFiles_unfiltered filtered files
  rw [hplain] at hgeneral
  refine ⟨hslot, fun path => ?_, ?_, hgeneral⟩
  · rw [mem_keys_paths_addFiles]
    exact exists_congr fun method => exists_congr fun op => hslot path method op
  · show (({} : Build).addFiles filtered files).document.components.schemas =
      (({} : Build).addFiles ctx.unfiltered files).document.components.schemas
    rw [addFiles_schemas, addFiles_schemas]
    rfl

/-- One path has an operation that passes and one that a tag in its body comment excludes; the
only operation of the other path lacks the extension. -/
theorem filtered_pets :
    let list : FuncDecl :=
      { name := "List", line := 3
        doc := .ofLines ["@Tags pets", "@State beta", "@Router /pets [get]"] }
    let drop : FuncDecl :=
      { name := "Drop", line := 7
        doc := .ofLines ["@Tags pets", "@State beta", "@Router /pets [delete]"]
        bodyComments := [.ofLines ["@Tags internal"]] }
    let owners : FuncDecl :=
      { name := "Owners", line := 12, doc := .ofLines ["@Tags pets", "@Router /owners [get]"] }
    let file : SourceFile := { path := "pets.go", funcs := [list, drop, owners] }
    let ctx : BuildContext := { config := { parseFuncBody := true } }
    let filtered : BuildContext :=
      { ctx with config := (ctx.config.withTags "pets,!internal").withExtensionStart "x-" }
    let chosen := (({} : Build).addFiles filtered [file]).document
    ((([file].flatMap (·.funcs)).filterMap
      fun func => Directive.firstRoute? func.doc.lines).Nodup) ∧
    (∃ op, (Assoc.get? chosen.paths "/pets").bind (·.slot .get) = some op ∧
      PassesFilters "pets,!internal" "x-" op) ∧
    Assoc.keys chosen.paths = ["/pets"] ∧
    (Assoc.get? chosen.paths "/pets").bind (·.slot .delete) = none := by
  intro list drop owners file ctx filtered chosen
  have hroutes : ((([file].flatMap (·.funcs)).filterMap
      fun func => Directive.firstRoute? func.doc.lines).Nodup) := by decide
  have hslot := (filtering_commutes_with_building ctx "pets,!internal" "x-" [file] hroutes).1
  have hkept : ((Assoc.get? chosen.paths "/pets").bind (·.slot .get)).isSome = true := by
    decide
  have hdropped : ((Assoc.get? chosen.paths "/pets").bind (·.slot .delete)).isNone = true := by
    decide
  obtain ⟨op, hop⟩ := Option.isSome_iff_exists.mp hkept
  exact ⟨hroutes, ⟨op, hop, ((hslot "/pets" .get op).mp hop).2⟩, by decide,
    Option.isNone_iff_eq_none.mp hdropped⟩

end Build

end AnnotatedApi
