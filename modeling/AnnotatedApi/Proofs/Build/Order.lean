import AnnotatedApi.Proofs.Build.GeneralInfo
import AnnotatedApi.Proofs.Build.Registry
import AnnotatedApi.Proofs.Build.Routes
import AnnotatedApi.Proofs.Document.FirstProblem

/-!
The order in which files are added.

Files are independent (`Build.Independent`) when no route, no name of a type and no general
information comes from two of them.  Then each slot of the document, each component and the
document-level sections depend on one file alone, whatever its place, so that in another order the
files give the same document but for the order of its entries (`Document.SameUpToOrder`), which the
check does not see (`SameUpToOrder.validate_iff`).  Main statement: `file_order_does_not_matter`.
-/

namespace AnnotatedApi

/-! ### Documents that differ in order -/

/-- The documents differ at most in the order of their paths and of their component schemas. -/
structure Document.SameUpToOrder (d d' : Document) : Prop where
  general : d.general = d'.general
  paths : d.paths.Perm d'.paths
  schemas : d.components.schemas.Perm d'.components.schemas

namespace Document.SameUpToOrder

variable {d d' : Document}

theorem symm (h : d.SameUpToOrder d') : d'.SameUpToOrder d :=
  ⟨h.general.symm, h.paths.symm, h.schemas.symm⟩

theorem info (h : d.SameUpToOrder d') : d.info = d'.info := by
  have hinfo := congrArg Document.info h.general
  exact hinfo

theorem attached (h : d.SameUpToOrder d') {path : String} {method : HttpMethod} {op : Operation}
    (hop : d'.Attached path method op) : d.Attached path method op := by
  obtain ⟨item, hitem, hslot⟩ := hop
  exact ⟨item, h.paths.mem_iff.mpr hitem, hslot⟩

theorem resolves (h : d.SameUpToOrder d') {reference : String}
    (href : Resolves d.components.schemas reference) :
    Resolves d'.components.schemas reference := by
  obtain ⟨name, hname, heq⟩ := href
  exact ⟨name, (h.schemas.map (·.1)).mem_iff.mp hname, heq⟩

theorem valid (h : d.SameUpToOrder d') (hd : d.Valid) : d'.Valid where
  title := h.info ▸ hd.title
  version := h.info ▸ hd.version
  responses path method op hop := hd.responses path method op (h.attached hop)
  references path method op s t reference hop hs ht href :=
    h.resolves (hd.references path method op s t reference (h.attached hop) hs ht href)

/-- The check accepts both documents or none. -/
theorem validate_iff (h : d.SameUpToOrder d') : d.validate = .ok () ↔ d'.validate = .ok () := by
  rw [validate_eq_ok_iff, validate_eq_ok_iff, problem?_eq_none_iff, problem?_eq_none_iff]
  exact ⟨h.valid, h.symm.valid⟩

end Document.SameUpToOrder

/-! ### Paths as maps from routes -/

/-- The slots make the item. -/
theorem PathItem.ext_slot {item item' : PathItem}
    (h : ∀ method, item.slot method = item'.slot method) : item = item' := by
  obtain ⟨get, put, post, delete, options, head, patch, trace⟩ := item
  obtain ⟨get', put', post', delete', options', head', patch', trace'⟩ := item'
  have hget : get = get' := h .get
  have hput : put = put' := h .put
  have hpost : post = post' := h .post
  have hdelete : delete = delete' := h .delete
  have hoptions : options = options' := h .options
  have hhead : head = head' := h .head
  have hpatch : patch = patch' := h .patch
  have htrace : trace = trace' := h .trace
  subst hget hput hpost hdelete hoptions hhead hpatch htrace
  rfl

namespace Build

/-- Paths without empty items are told apart by their slots. -/
theorem get?_eq_of_slotAt_eq {paths paths' : Assoc PathItem}
    (hpaths : ∀ e ∈ paths, HasOperation e.2) (hpaths' : ∀ e ∈ paths', HasOperation e.2)
    (hslots : ∀ route, slotAt paths route = slotAt paths' route) (path : String) :
    Assoc.get? paths path = Assoc.get? paths' path := by
  have hbind : ∀ method, (Assoc.get? paths path).bind (·.slot method) =
      (Assoc.get? paths' path).bind (·.slot method) := fun method => hslots ⟨path, method⟩
  -- An item that only one of them had would have an operation that the other one lacks.
  cases hitem : Assoc.get? paths path with
  | none =>
    cases hitem' : Assoc.get? paths' path with
    | none => rfl
    | some item' =>
      obtain ⟨method, op, hop⟩ := hpaths' _ (Assoc.mem_of_get? hitem')
      have h := hbind method
      rw [hitem, hitem', Option.bind_none, Option.bind_some, hop] at h
      exact absurd h (by simp)
  | some item =>
    cases hitem' : Assoc.get? paths' path with
    | none =>
      obtain ⟨method, op, hop⟩ := hpaths _ (Assoc.mem_of_get? hitem)
      have h := hbind method
      rw [hitem, hitem', Option.bind_none, Option.bind_some, hop] at h
      exact absurd h (by simp)
    | some item' =>
      refine congrArg some (PathItem.ext_slot fun method => ?_)
      have h := hbind method
      rwa [hitem, hitem'] at h

theorem nodup_keys_foldl_placeKept (ctx : BuildContext) (funcs : List FuncDecl) :
    (Assoc.keys (funcs.foldl (placeKept ctx) [])).Nodup := by
  refine Assoc.nodup_keys_foldl (fun paths func hpaths => ?_) funcs
  unfold placeKept
  split
  · exact Assoc.nodup_keys_insert _ _ _ hpaths
  · exact hpaths

theorem nodup_keys_schemas_addFiles (ctx : BuildContext) (files : List SourceFile) :
    (Assoc.keys (({} : Build).addFiles ctx files).document.components.schemas).Nodup := by
  rw [addFiles_schemas]
  exact Assoc.nodup_keys_foldl (fun schemas info => Assoc.nodup_keys_insert _ _ _) _

/-! ### Independent files -/

/-- Files that do not meet: they have distinct paths, no two of them keep functions with the same
route or register the same name, and at most one is eligible for the general information. -/
structure Independent (ctx : BuildContext) (files : List SourceFile) : Prop where
  paths : files.Pairwise fun f g => Path.same f.path g.path = false
  routes : files.Pairwise fun f g => ∀ func ∈ f.funcs, ∀ func' ∈ g.funcs, ∀ route,
    keptRoute? ctx func = some route → keptRoute? ctx func' ≠ some route
  names : files.Pairwise fun f g => ∀ x ∈ structsOf f, ∀ y ∈ structsOf g, ∀ name,
    x.Registers name → ¬ y.Registers name
  info : files.Pairwise fun f g =>
    ¬ (isEligible ctx.config f = true ∧ isEligible ctx.config g = true)

namespace Independent

variable {ctx : BuildContext} {files files' : List SourceFile}

theorem general_eq (h : Independent ctx files) (hperm : files.Perm files') :
    (({} : Build).addFiles ctx files).document.general =
      (({} : Build).addFiles ctx files').document.general := by
  have hpaths' : files'.Pairwise fun f g => Path.same f.path g.path = false := by
    refine h.paths.perm hperm fun {f g} hfg => ?_
    rw [Path.same, Bool.beq_comm]
    exact hfg
  have hfind : files.find? (isEligible ctx.config) = files'.find? (isEligible ctx.config) := by
    refine find?_perm hperm (h.info.imp fun {f g} hfg => ?_)
    rwa [not_and_or, Bool.not_eq_true, Bool.not_eq_true] at hfg
  have hpart : (({} : Build).addFiles ctx files).infoPart =
      (({} : Build).addFiles ctx files').infoPart := by
    rw [infoPart_addFiles_eq ctx h.paths, infoPart_addFiles_eq ctx hpaths', hfind]
  exact congrArg document hpart

theorem paths_perm (h : Independent ctx files) (hperm : files.Perm files') :
    (({} : Build).addFiles ctx files).document.paths.Perm
      (({} : Build).addFiles ctx files').document.paths := by
  have hpaths : ∀ files, (({} : Build).addFiles ctx files).document.paths =
      (files.flatMap (·.funcs)).foldl (placeKept ctx) [] := addFiles_paths ctx {}
  rw [hpaths, hpaths]
  refine Assoc.perm_of_get?_eq (nodup_keys_foldl_placeKept ctx _)
    (nodup_keys_foldl_placeKept ctx _) ?_
  refine get?_eq_of_slotAt_eq (hasOperation_foldl_placeKept _ (by simp))
    (hasOperation_foldl_placeKept _ (by simp)) fun route => ?_
  -- The functions that are kept with the route stand in one file.
  rw [slotAt_foldl_placeKept, slotAt_foldl_placeKept, find?_reverse_flatMap_perm hperm]
  refine h.routes.imp fun {f g} hfg func hfunc func' hfunc' hkept => ?_
  rw [decide_eq_true_eq] at hkept
  exact decide_eq_false (hfg func hfunc func' hfunc' route hkept)

theorem schemas_perm (h : Independent ctx files) (hperm : files.Perm files') :
    (({} : Build).addFiles ctx files).document.components.schemas.Perm
      (({} : Build).addFiles ctx files').document.components.schemas := by
  refine Assoc.perm_of_get?_eq (nodup_keys_schemas_addFiles ctx files)
    (nodup_keys_schemas_addFiles ctx files') fun name => ?_
  rw [get?_schemas_addFiles, get?_schemas_addFiles, declaredStructs, declaredStructs,
    find?_reverse_flatMap_perm hperm]
  -- The structs that register the name stand in one file.
  refine h.names.imp fun {f g} hfg x hx y hy hname => ?_
  rw [decide_eq_true_eq, DeclaredStruct.mem_names] at hname
  rw [decide_eq_false_iff_not, DeclaredStruct.mem_names]
  exact hfg x hx y hy name hname

end Independent

/-- **The order of independent files does not matter.**  In any order they give the same document,
but for the order of its paths and of its component schemas, and the check accepts all of them or
none. -/
theorem file_order_does_not_matter (ctx : BuildContext) {files files' : List SourceFile}
    (hperm : files.Perm files') (h : Independent ctx files) :
    let d := (({} : Build).addFiles ctx files).document
    let d' := (({} : Build).addFiles ctx files').document
    d.SameUpToOrder d' ∧ (d.validate = .ok () ↔ d'.validate = .ok ()) := by
  intro d d'
  have hsame : d.SameUpToOrder d' :=
    ⟨h.general_eq hperm, h.paths_perm hperm, h.schemas_perm hperm⟩
  exact ⟨hsame, hsame.validate_iff⟩

/-- Two files that each have a route, a struct and a path of their own, in either order. -/
theorem order_of_two_files :
    let main : SourceFile :=
      { path := "main.go", package := "main"
        comments := [.ofLines ["@title Pets", "@version 1.0"]]
        types := [{ name := "Fault", type := .struct [], line := 3 }]
        funcs := [{ name := "List", line := 9
                    doc := .ofLines
                      ["@Failure 404 \x7bobject\x7d Fault", "@Router /pets [get]"] }] }
    let pets : SourceFile :=
      { path := "models/pets.go", package := "models"
        types := [{ name := "Pet", type := .struct [], line := 4 }]
        funcs := [{ name := "Add", line := 8
                    doc := .ofLines
                      ["@Success 200 \x7bobject\x7d Pet", "@Router /pets [post]"] }] }
    let d := (({} : Build).addFiles {} [main, pets]).document
    let d' := (({} : Build).addFiles {} [pets, main]).document
    Independent {} [main, pets] ∧ d.SameUpToOrder d' ∧
    (d.validate = .ok () ↔ d'.validate = .ok ()) ∧ d.validate = .ok () := by
  intro main pets d d'
  have hindependent : Independent {} [main, pets] := by
    refine ⟨by decide +kernel, List.pairwise_pair.mpr ?_, List.pairwise_pair.mpr ?_,
      by decide +kernel⟩
    · have hroutes : main.funcs.all (fun func => pets.funcs.all fun func' =>
          keptRoute? {} func != keptRoute? {} func') = true := by decide +kernel
      simp only [List.all_eq_true, bne_iff_ne] at hroutes
      intro func hfunc func' hfunc' route hkept hkept'
      exact hroutes func hfunc func' hfunc' (hkept.trans hkept'.symm)
    · have hnames : (structsOf main).all (fun x => (structsOf pets).all fun y =>
          x.names.all fun name => !y.names.contains name) = true := by decide +kernel
      simp only [List.all_eq_true, Bool.not_eq_true', List.contains_eq_mem,
        decide_eq_false_iff_not] at hnames
      intro x hx y hy name hname hname'
      exact hnames x hx y hy name (DeclaredStruct.mem_names.mpr hname)
        (DeclaredStruct.mem_names.mpr hname')
  have hsame := file_order_does_not_matter {} (List.Perm.swap pets main []) hindependent
  exact ⟨hindependent, hsame.1, hsame.2, Document.validate_eq_ok_iff.mpr (by decide +kernel)⟩

end Build

end AnnotatedApi
