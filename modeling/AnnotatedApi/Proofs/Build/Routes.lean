import AnnotatedApi.Proofs.Assoc
import AnnotatedApi.Proofs.Build.Frame

/-!
Which operation a route gets.

A function is kept with a route (`Build.keptRoute?`) when its documentation has a directive, the
operation that its comments describe passes the filters, and its documentation declares the route.
Neither this nor the operation depends on what a build has registered so far, so the paths of a
document are what placing the kept operations one after another gives (`addFiles_paths`).  Main
statement: every slot holds the operation of the last function kept with its route, paths come in the
order of their first kept function, and none is without an operation
(`slots_hold_last_kept_function`).
-/

namespace AnnotatedApi.Build

/-- The operation that the comments of a function describe: its documentation, followed by the
comments in its body if these count. -/
def describedOperation (ctx : BuildContext) (func : FuncDecl) : Operation :=
  (func.doc :: if ctx.config.parseFuncBody then func.bodyComments else []).foldl
    (Operation.applyComment ctx.operationContext) {}

/-- The route that a function is kept with, if it is kept. -/
def keptRoute? (ctx : BuildContext) (func : FuncDecl) : Option Route :=
  let op := describedOperation ctx func
  if func.doc.lines.any CommentGroup.isDirective && ctx.config.keepsTags op.tags &&
      ctx.config.keepsExtensions (Assoc.keys op.extensions) then
    Directive.firstRoute? func.doc.lines
  else none

theorem keptOperation?_eq (ctx : BuildContext) (func : FuncDecl) :
    keptOperation? ctx func = (keptRoute? ctx func).map (·, describedOperation ctx func) := by
  have hdescribed : (if ctx.config.parseFuncBody then
      func.bodyComments.foldl (Operation.applyComment ctx.operationContext)
        (Operation.applyComment ctx.operationContext {} func.doc)
      else Operation.applyComment ctx.operationContext {} func.doc) =
      describedOperation ctx func := by
    unfold describedOperation
    split <;> rfl
  have hdirectives : func.doc.directives.isEmpty = !func.doc.lines.any CommentGroup.isDirective := by
    rw [Bool.eq_iff_iff]
    simp [CommentGroup.directives]
  unfold keptOperation? keptRoute? Operation.ofComment?
  rw [hdirectives]
  cases func.doc.lines.any CommentGroup.isDirective with
  | false => rfl
  | true =>
    simp only [Bool.not_true, Bool.false_eq_true, if_false, Option.bind_eq_bind, Option.bind_some,
      hdescribed, Bool.true_and]
    split <;> rfl

/-! ### Placing kept operations -/

/-- Places the operation of a function, if the function is kept. -/
def placeKept (ctx : BuildContext) (paths : Assoc PathItem) (func : FuncDecl) : Assoc PathItem :=
  match keptRoute? ctx func with
  | some route =>
    Assoc.alter paths route.path {} (·.place route.method (describedOperation ctx func))
  | none => paths

theorem addFunc_paths (ctx : BuildContext) (b : Build) (func : FuncDecl) :
    (b.addFunc ctx func).document.paths = placeKept ctx b.document.paths func := by
  unfold addFunc placeKept
  rw [keptOperation?_eq]
  cases keptRoute? ctx func <;> rfl

theorem foldl_addFunc_paths (ctx : BuildContext) (funcs : List FuncDecl) (b : Build) :
    (funcs.foldl (addFunc ctx) b).document.paths =
      funcs.foldl (placeKept ctx) b.document.paths := by
  induction funcs generalizing b with
  | nil => rfl
  | cons func rest ih => rw [List.foldl_cons, List.foldl_cons, ih, addFunc_paths]

/-- The paths of a document depend on the functions of its files alone. -/
theorem addFiles_paths (ctx : BuildContext) (b : Build) (files : List SourceFile) :
    (b.addFiles ctx files).document.paths =
      (files.flatMap (·.funcs)).foldl (placeKept ctx) b.document.paths := by
  unfold addFiles
  induction files generalizing b with
  | nil => rfl
  | cons file rest ih =>
    rw [List.foldl_cons, ih, List.flatMap_cons, List.foldl_append, addFile_paths,
      foldl_addFunc_paths, (sameContents_addInfo ctx.config file b).paths]

/-! ### Slots -/

/-- The operation in the slot of a route. -/
def slotAt (paths : Assoc PathItem) (route : Route) : Option Operation :=
  (Assoc.get? paths route.path).bind (·.slot route.method)

/-- One function fills the slot of its route, if it is kept, and no other slot. -/
theorem slotAt_placeKept (ctx : BuildContext) (paths : Assoc PathItem) (func : FuncDecl)
    (route : Route) :
    slotAt (placeKept ctx paths func) route =
      if keptRoute? ctx func = some route then some (describedOperation ctx func)
      else slotAt paths route := by
  unfold placeKept slotAt
  cases hkept : keptRoute? ctx func with
  | none => simp
  | some kept =>
    obtain ⟨path, method⟩ := kept
    obtain ⟨path', method'⟩ := route
    simp only [Assoc.get?_alter, Option.some_inj, Route.mk.injEq]
    by_cases hpath : path = path'
    · subst hpath
      rw [if_pos rfl, Option.bind_some, PathItem.slot_place]
      -- A path that is new has nothing in its other slots.
      have hrest : ((Assoc.get? paths path).getD {}).slot method' =
          (Assoc.get? paths path).bind (·.slot method') := by
        cases Assoc.get? paths path with
        | none => cases method' <;> rfl
        | some item => rfl
      rw [hrest]
      simp
    · simp [hpath]

/-- Many functions: the last one kept with the route fills its slot. -/
theorem slotAt_foldl_placeKept (ctx : BuildContext) (paths : Assoc PathItem)
    (funcs : List FuncDecl) (route : Route) :
    slotAt (funcs.foldl (placeKept ctx) paths) route =
      ((funcs.reverse.find? fun f => keptRoute? ctx f = some route).map
        (describedOperation ctx)).or (slotAt paths route) := by
  refine view_foldl_eq_last_write (slotAt · route) (fun paths func => ?_) funcs paths
  rw [slotAt_placeKept]
  simp only [decide_eq_true_eq]

/-! ### Paths -/

theorem keys_placeKept (ctx : BuildContext) (paths : Assoc PathItem) (func : FuncDecl) :
    Assoc.keys (placeKept ctx paths func) =
      match keptRoute? ctx func with
      | some route =>
        if route.path ∈ Assoc.keys paths then Assoc.keys paths
        else Assoc.keys paths ++ [route.path]
      | none => Assoc.keys paths := by
  unfold placeKept
  split
  · exact Assoc.keys_alter _ _ _ _
  · rfl

/-- Each path stands where its first kept function put it. -/
theorem keys_foldl_placeKept (ctx : BuildContext) (funcs : List FuncDecl) :
    Assoc.keys (funcs.foldl (placeKept ctx) []) =
      ((funcs.filterMap (keptRoute? ctx)).map (·.path)).eraseDups := by
  rw [List.map_filterMap]
  refine Assoc.keys_foldl_eq_eraseDups (fun paths func => ?_) funcs
  rw [keys_placeKept]
  cases keptRoute? ctx func <;> rfl

/-- Some slot of the item is filled. -/
def HasOperation (item : PathItem) : Prop :=
  ∃ method op, item.slot method = some op

theorem hasOperation_placeKept {ctx : BuildContext} {paths : Assoc PathItem} {func : FuncDecl}
    (h : ∀ e ∈ paths, HasOperation e.2) : ∀ e ∈ placeKept ctx paths func, HasOperation e.2 := by
  unfold placeKept
  split
  · next route _ =>
    refine Assoc.forall_mem_insert h ⟨route.method, describedOperation ctx func, ?_⟩
    rw [PathItem.slot_place, if_pos rfl]
  · exact h

theorem hasOperation_foldl_placeKept {ctx : BuildContext} {paths : Assoc PathItem}
    (funcs : List FuncDecl) (h : ∀ e ∈ paths, HasOperation e.2) :
    ∀ e ∈ funcs.foldl (placeKept ctx) paths, HasOperation e.2 := by
  induction funcs generalizing paths with
  | nil => exact h
  | cons func rest ih => exact ih (hasOperation_placeKept h)

/-- **Every route gets the operation of the last function kept with it.**  This holds of files that
are added to any build without paths, whatever types it has registered. -/
theorem slots_hold_last_kept_function (ctx : BuildContext) (b : Build)
    (hb : b.document.paths = []) (files : List SourceFile) :
    let paths := (b.addFiles ctx files).document.paths
    let funcs := files.flatMap (·.funcs)
    (∀ path method op,
      (Assoc.get? paths path).bind (·.slot method) = some op ↔
        ∃ before func after, funcs = before ++ func :: after ∧
          keptRoute? ctx func = some ⟨path, method⟩ ∧ op = describedOperation ctx func ∧
          ∀ later ∈ after, keptRoute? ctx later ≠ some ⟨path, method⟩) ∧
    (∀ path method,
      (Assoc.get? paths path).bind (·.slot method) = none ↔
        ∀ func ∈ funcs, keptRoute? ctx func ≠ some ⟨path, method⟩) ∧
    Assoc.keys paths = ((funcs.filterMap (keptRoute? ctx)).map (·.path)).eraseDups ∧
    ∀ e ∈ paths, ∃ method op, e.2.slot method = some op := by
  intro paths funcs
  have hpaths : paths = funcs.foldl (placeKept ctx) [] := by
    rw [← hb]
    exact addFiles_paths ctx b files
  have hslot : ∀ path method, (Assoc.get? paths path).bind (·.slot method) =
      (funcs.reverse.find? fun f => keptRoute? ctx f = some ⟨path, method⟩).map
        (describedOperation ctx) := by
    intro path method
    have h := slotAt_foldl_placeKept ctx [] funcs ⟨path, method⟩
    rw [← hpaths] at h
    simpa [slotAt, Assoc.get?] using h
  refine ⟨fun path method op => ?_, fun path method => ?_, ?_, ?_⟩
  · rw [hslot, Option.map_eq_some_iff]
    simp only [find?_reverse_eq_some_iff, decide_eq_true_eq, decide_eq_false_iff_not]
    constructor
    · rintro ⟨func, ⟨before, after, heq, hkept, hlater⟩, rfl⟩
      exact ⟨before, func, after, heq, hkept, rfl, hlater⟩
    · rintro ⟨before, func, after, heq, hkept, rfl, hlater⟩
      exact ⟨func, ⟨before, after, heq, hkept, hlater⟩, rfl⟩
  · rw [hslot, Option.map_eq_none_iff, List.find?_eq_none]
    simp
  · rw [hpaths]
    exact keys_foldl_placeKept ctx funcs
  · rw [hpaths]
    exact hasOperation_foldl_placeKept funcs (by simp)

/-- Two functions declare the same route: the second one gets it. -/
theorem slot_of_redeclared_route :
    let first : FuncDecl :=
      { name := "List", doc := .ofLines ["@Summary All pets", "@Router /pets [get]"], line := 3 }
    let second : FuncDecl :=
      { name := "Find", doc := .ofLines ["@Summary Some pets", "@Router /pets [GET]"], line := 7 }
    let file : SourceFile := { path := "pets.go", funcs := [first, second] }
    (({} : Build).document.paths = []) ∧
    (Assoc.get? (({} : Build).addFiles {} [file]).document.paths "/pets").bind (·.slot .get) =
      some (describedOperation {} second) := by
  intro first second file
  have hkept : keptRoute? {} second = some ⟨"/pets", .get⟩ := by decide +kernel
  exact ⟨rfl, ((slots_hold_last_kept_function {} {} rfl [file]).1 "/pets" .get _).mpr
    ⟨[first], second, [], rfl, hkept, rfl, by simp⟩⟩

end AnnotatedApi.Build
