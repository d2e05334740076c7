import AnnotatedApi.Proofs.Build.Frame
import Mathlib.Tactic.ByContra

/-!
Where the document-level sections come from.

A document consists of its paths, its component schemas and the general rest (`Document.general`):
info, servers, tags, external documentation and security schemes.  Reading general information sees
and changes the rest alone (`Document.general_applyInfo`), and functions and types do not touch it.
So the rest is what reading the general information of files gives by itself (`infoPart_addFiles`),
and that is what the first eligible file says (`infoPart_addFiles_eq`).  Main statements:

* `one_file_feeds_general_sections` — exactly one file feeds the document-level sections;
* `first_ending_file_is_reported` — of files whose paths end with a configured path the first one is
  taken, and not the one that has exactly this path (`ending_file_wins_over_exact_file`).
-/

namespace AnnotatedApi

/-! ### The general part of a document -/

/-- The document without its paths and component schemas. -/
def Document.general (d : Document) : Document :=
  { d with paths := [], components := { d.components with schemas := [] } }

/-- The state of a reading, without the paths and component schemas of its document. -/
def InfoState.general (st : InfoState) : InfoState :=
  { st with document := st.document.general }

theorem InfoState.general_updateTag (st : InfoState) (f : Tag → Tag) :
    st.general.updateTag f = (st.updateTag f).general := by
  unfold InfoState.updateTag
  rw [show st.general.hasTag = st.hasTag from rfl]
  split <;> rfl

/-- One line does to the general part what it does to the document. -/
theorem InfoLine.apply_general (line : InfoLine) (st : InfoState) :
    line.apply st.general = (line.apply st).general := by
  cases line with
  | schemes text =>
    rw [InfoLine.apply, InfoLine.apply]
    split <;> rfl
  | tagDescription text => exact st.general_updateTag _
  | tagDocsUrl token => exact st.general_updateTag _
  | tagDocsDescription text => exact st.general_updateTag _
  | _ => rfl

theorem InfoState.applyLine_general (st : InfoState) (line : String) :
    st.general.applyLine line = (st.applyLine line).general := by
  unfold InfoState.applyLine
  split
  · next l _ => exact l.apply_general st
  · rfl

/-- All lines of a file. -/
theorem Document.general_applyInfo (d : Document) (groups : List CommentGroup) :
    (d.applyInfo groups).general = d.general.applyInfo groups := by
  rw [Document.applyInfo, Document.applyInfo]
  exact congrArg InfoState.document
    (List.foldl_hom InfoState.general InfoState.applyLine_general).symm

namespace Build

/-! ### The general part of a build -/

/-- The general part of the document, and the file that it was taken from. -/
def infoPart (b : Build) : Build :=
  { document := b.document.general, generalInfoFile := b.generalInfoFile }

theorem infoPart_addInfo (config : Config) (file : SourceFile) (b : Build) :
    (b.addInfo config file).infoPart = b.infoPart.addInfo config file := by
  unfold addInfo
  rw [show b.infoPart.readsInfo config file = b.readsInfo config file from rfl]
  split
  · rw [infoPart, Document.general_applyInfo]
    rfl
  · rfl

theorem infoPart_addFunc (ctx : BuildContext) (b : Build) (func : FuncDecl) :
    (b.addFunc ctx func).infoPart = b.infoPart := by
  unfold addFunc
  split <;> rfl

theorem infoPart_foldl_register (infos : List TypeInfo) (b : Build) :
    (infos.foldl register b).infoPart = b.infoPart := by
  induction infos generalizing b with
  | nil => rfl
  | cons info rest ih =>
    rw [List.foldl_cons, ih]
    rfl

theorem infoPart_addType (ctx : BuildContext) (file : SourceFile) (b : Build) (decl : TypeDecl) :
    (b.addType ctx file decl).infoPart = b.infoPart := by
  unfold addType
  split
  · exact infoPart_foldl_register _ b
  · rfl

/-- A file changes the general part by its general information and by nothing else. -/
theorem infoPart_addFile (ctx : BuildContext) (b : Build) (file : SourceFile) :
    (b.addFile ctx file).infoPart = b.infoPart.addInfo ctx.config file := by
  have hfuncs : ∀ (funcs : List FuncDecl) (b : Build),
      (funcs.foldl (addFunc ctx) b).infoPart = b.infoPart := by
    intro funcs
    induction funcs with
    | nil => exact fun b => rfl
    | cons func rest ih => exact fun b => (ih _).trans (infoPart_addFunc ctx b func)
  rw [addFile, foldl_addType_eq, infoPart_foldl_register, hfuncs, infoPart_addInfo]

/-- The general part is what the general information of the files gives by itself. -/
theorem infoPart_addFiles (ctx : BuildContext) (b : Build) (files : List SourceFile) :
    (b.addFiles ctx files).infoPart =
      files.foldl (fun b file => b.addInfo ctx.config file) b.infoPart :=
  (List.foldl_hom infoPart fun b file => (infoPart_addFile ctx b file).symm).symm

/-! ### Which file is read -/

theorem readsInfo_of_none {config : Config} {file : SourceFile} {b : Build}
    (h : b.generalInfoFile = none) : b.readsInfo config file = isEligible config file := by
  rw [readsInfo, h]

theorem addInfo_eq_self {config : Config} {file : SourceFile} {b : Build}
    (h : b.readsInfo config file = false) : b.addInfo config file = b := by
  rw [addInfo, if_neg (by simp [h])]

/-- The file that was taken stays the one. -/
theorem generalInfoFile_addInfo {config : Config} {file : SourceFile} {b : Build} {current : String}
    (h : b.generalInfoFile = some current) :
    (b.addInfo config file).generalInfoFile = some current := by
  unfold addInfo
  split
  · simp [h]
  · exact h

theorem generalInfoFile_addFiles (ctx : BuildContext) (files : List SourceFile) {b : Build}
    {current : String} (h : b.generalInfoFile = some current) :
    (b.addFiles ctx files).generalInfoFile = some current := by
  induction files generalizing b with
  | nil => exact h
  | cons file rest ih =>
    have hfile := congrArg generalInfoFile (infoPart_addFile ctx b file)
    exact ih (hfile.trans (generalInfoFile_addInfo h))

/-- Files that are not read change nothing. -/
theorem foldl_addInfo_eq_self {config : Config} {files : List SourceFile} {b : Build}
    (h : ∀ file ∈ files, b.readsInfo config file = false) :
    files.foldl (fun b file => b.addInfo config file) b = b := by
  induction files with
  | nil => rfl
  | cons file rest ih =>
    rw [List.forall_mem_cons] at h
    rw [List.foldl_cons, addInfo_eq_self h.1, ih h.2]

/-- What files with distinct paths leave: what the first eligible one says, and where it stands. -/
theorem infoPart_addFiles_eq (ctx : BuildContext) {files : List SourceFile}
    (hpaths : files.Pairwise fun f g => Path.same f.path g.path = false) :
    (({} : Build).addFiles ctx files).infoPart =
      match files.find? (isEligible ctx.config) with
      | some file =>
        { document := Document.initial.applyInfo file.comments
          generalInfoFile := some file.path }
      | none => {} := by
  rw [infoPart_addFiles]
  cases hfind : files.find? (isEligible ctx.config) with
  | none =>
    rw [List.find?_eq_none] at hfind
    refine foldl_addInfo_eq_self fun file hfile => ?_
    rw [readsInfo_of_none rfl]
    exact Bool.eq_false_iff.mpr (hfind file hfile)
  | some file =>
    obtain ⟨heligible, before, after, rfl, hbefore⟩ := List.find?_eq_some_iff_append.mp hfind
    rw [List.foldl_append, List.foldl_cons]
    -- Nothing is read before the eligible file, which is then taken.
    have hskip :
        before.foldl (fun b file => b.addInfo ctx.config file) ({} : Build).infoPart = {} := by
      refine foldl_addInfo_eq_self fun earlier hmem => ?_
      rw [readsInfo_of_none rfl]
      simpa using hbefore earlier hmem
    have htake : ({} : Build).addInfo ctx.config file =
        { document := Document.initial.applyInfo file.comments
          generalInfoFile := some file.path } := by
      rw [addInfo, readsInfo_of_none rfl, if_pos heligible]
      rfl
    rw [hskip, htake]
    -- No later file has the path of the one that was taken.
    have hafter := (List.pairwise_cons.mp (List.pairwise_append.mp hpaths).2.1).1
    exact foldl_addInfo_eq_self hafter

/-- The file that is to feed the document-level sections: with a configured path the one that the
path means, otherwise the first one that declares a title or a version. -/
inductive IsInfoSource (config : Config) (files : List SourceFile) (file : SourceFile) : Prop
  | configured {path : String} : config.generalInfoFile = some path → file ∈ files →
      sameFile path file.path = true → IsInfoSource config files file
  | first {before after : List SourceFile} : config.generalInfoFile = none →
      files = before ++ file :: after → file.hasGeneralInfo = true →
      (∀ earlier ∈ before, earlier.hasGeneralInfo = false) → IsInfoSource config files file

theorem isInfoSource_of_find? {config : Config} {files : List SourceFile} {file : SourceFile}
    (h : files.find? (isEligible config) = some file) : IsInfoSource config files file := by
  obtain ⟨heligible, before, after, hfiles, hbefore⟩ := List.find?_eq_some_iff_append.mp h
  cases hconfig : config.generalInfoFile with
  | some path =>
    rw [isEligible, hconfig] at heligible
    exact .configured hconfig (by simp [hfiles]) heligible
  | none =>
    simp only [isEligible, hconfig] at heligible hbefore
    exact .first hconfig hfiles heligible fun earlier hmem => by simpa using hbefore earlier hmem

/-- If a configured path means at most one file, the first eligible file is the one that is to feed
the sections. -/
theorem find?_isEligible_of_isInfoSource {config : Config} {files : List SourceFile}
    (hone : ∀ path, config.generalInfoFile = some path →
      files.Pairwise fun f g => ¬ (sameFile path f.path = true ∧ sameFile path g.path = true))
    {file : SourceFile} (h : IsInfoSource config files file) :
    files.find? (isEligible config) = some file := by
  cases h with
  | @configured path hconfig hmem hsame =>
    have heligible : isEligible config = fun f => sameFile path f.path := by
      funext f
      rw [isEligible, hconfig]
    rw [heligible, List.find?_eq_some_iff_append]
    obtain ⟨before, after, rfl⟩ := List.append_of_mem hmem
    refine ⟨hsame, before, after, rfl, fun earlier hearlier => ?_⟩
    -- The path means this file, so it means no earlier one.
    have hboth : ¬ (sameFile path earlier.path = true ∧ sameFile path file.path = true) :=
      (List.pairwise_append.mp (hone path hconfig)).2.2 earlier hearlier file (by simp)
    simpa [hsame] using hboth
  | @first before after hconfig hfiles hinfo hbefore =>
    have heligible : isEligible config = fun f => f.hasGeneralInfo := by
      funext f
      rw [isEligible, hconfig]
    rw [heligible, List.find?_eq_some_iff_append]
    exact ⟨hinfo, before, after, hfiles, fun earlier hmem => by simp [hbefore earlier hmem]⟩

/-- **One file feeds the document-level sections.**  For files with distinct paths, at most one of
which a configured path means: all of the document but its paths and component schemas is what the
directives in the comments of that file make of the initial document, and the file is reported and
never replaced.  Without such a file these sections are the initial ones.  No other file, no
function and no type changes them, and general information changes neither paths nor component
schemas. -/
theorem one_file_feeds_general_sections (ctx : BuildContext) (files : List SourceFile)
    (hpaths : files.Pairwise fun f g => Path.same f.path g.path = false)
    (hone : ∀ path, ctx.config.generalInfoFile = some path →
      files.Pairwise fun f g => ¬ (sameFile path f.path = true ∧ sameFile path g.path = true)) :
    let b := ({} : Build).addFiles ctx files
    (∀ file, IsInfoSource ctx.config files file →
      b.document.general = Document.initial.applyInfo file.comments ∧
      b.generalInfoFile = some file.path) ∧
    ((∀ file, ¬ IsInfoSource ctx.config files file) →
      b.document.general = Document.initial ∧ b.generalInfoFile = none) ∧
    (∀ (b : Build) (current : String) (more : List SourceFile),
      b.generalInfoFile = some current → (b.addFiles ctx more).generalInfoFile = some current) ∧
    (∀ before other after, files = before ++ other :: after →
      ¬ IsInfoSource ctx.config files other →
      (({} : Build).addFiles ctx (before ++ [other])).document.general =
        (({} : Build).addFiles ctx before).document.general) ∧
    (∀ (b : Build) (func : FuncDecl), (b.addFunc ctx func).document.general = b.document.general) ∧
    (∀ (b : Build) (file : SourceFile) (decl : TypeDecl),
      (b.addType ctx file decl).document.general = b.document.general) ∧
    ∀ (d : Document) (groups : List CommentGroup),
      (d.applyInfo groups).paths = d.paths ∧
      (d.applyInfo groups).components.schemas = d.components.schemas := by
  intro b
  have hpart := infoPart_addFiles_eq ctx hpaths
  refine ⟨fun file hfile => ?_, fun hnone => ?_,
    fun b current more => generalInfoFile_addFiles ctx more,
    fun before other after hfiles hother => ?_,
    fun b func => congrArg document (infoPart_addFunc ctx b func),
    fun b file decl => congrArg document (infoPart_addType ctx file b decl),
    fun d groups => ?_⟩
  · rw [find?_isEligible_of_isInfoSource hone hfile] at hpart
    exact ⟨congrArg document hpart, congrArg generalInfoFile hpart⟩
  · have hfind : files.find? (isEligible ctx.config) = none :=
      Option.eq_none_iff_forall_ne_some.mpr fun file h => hnone file (isInfoSource_of_find? h)
    rw [hfind] at hpart
    exact ⟨congrArg document hpart, congrArg generalInfoFile hpart⟩
  · have hsplit : files = (before ++ [other]) ++ after := by rw [hfiles, List.append_cons]
    -- The other file is not the first eligible one, neither among all files nor so far.
    have hfind : (before ++ [other]).find? (isEligible ctx.config) =
        before.find? (isEligible ctx.config) := by
      rw [List.find?_append]
      cases hbefore : before.find? (isEligible ctx.config) with
      | some file => rfl
      | none =>
        by_contra hne
        rw [Option.none_or, List.find?_singleton, ite_eq_right_iff, Classical.not_imp] at hne
        refine hother (isInfoSource_of_find? ?_)
        rw [hfiles, List.find?_append, hbefore, Option.none_or, List.find?_cons_of_pos hne.1]
    have hsofar : (before ++ [other]).Pairwise fun f g => Path.same f.path g.path = false :=
      (List.pairwise_append.mp (hsplit ▸ hpaths)).1
    have hsame : (({} : Build).addFiles ctx (before ++ [other])).infoPart =
        (({} : Build).addFiles ctx before).infoPart := by
      rw [infoPart_addFiles_eq ctx hsofar,
        infoPart_addFiles_eq ctx (List.pairwise_append.mp hsofar).1, hfind]
    exact congrArg document hsame
  · have hsame := d.sameContents_applyInfo groups
    exact ⟨hsame.paths, hsame.schemas⟩

/-- Both files declare a title; the configured path means the second one. -/
theorem general_sections_of_configured_file :
    let ctx : BuildContext := { config := { generalInfoFile := some "cmd/api/main.go" } }
    let first : SourceFile :=
      { path := "svc/a.go", comments := [.ofLines ["@title From A", "@version 1"]] }
    let second : SourceFile :=
      { path := "svc/cmd/api/main.go"
        comments := [.ofLines ["@title From main", "@version 2", "@host example.com"]] }
    let b := ({} : Build).addFiles ctx [first, second]
    IsInfoSource ctx.config [first, second] second ∧
    b.document.general = Document.initial.applyInfo second.comments ∧
    b.generalInfoFile = some "svc/cmd/api/main.go" ∧
    (Document.initial.applyInfo second.comments).info =
      { title := "From main", version := "2" } := by
  intro ctx first second b
  have hsource : IsInfoSource ctx.config [first, second] second :=
    .configured rfl (by simp) (by decide +kernel)
  have hpaths : [first, second].Pairwise fun f g => Path.same f.path g.path = false := by
    decide +kernel
  have hone : ∀ path, ctx.config.generalInfoFile = some path → [first, second].Pairwise fun f g =>
      ¬ (sameFile path f.path = true ∧ sameFile path g.path = true) := by
    rintro path ⟨⟩
    decide +kernel
  have hfed := (one_file_feeds_general_sections ctx [first, second] hpaths hone).1 second hsource
  exact ⟨hsource, hfed.1, hfed.2, by decide +kernel⟩

/-! ### A configured path -/

/-- Every path ends with itself, so a file is the one that a path means iff its path ends so. -/
theorem sameFile_eq_endsWith (configured path : String) :
    sameFile configured path = Path.endsWith path configured := by
  rw [sameFile, Bool.or_eq_right_iff_imp]
  intro hsame
  rw [Path.same, beq_iff_eq] at hsame
  rw [Path.endsWith, hsame]
  exact List.isSuffixOf_iff_suffix.mpr (List.suffix_refl _)

/-- The file that is reported is the first one whose path ends with the configured path. -/
theorem generalInfoFile_eq_find? {ctx : BuildContext} {configured : String}
    (hconfig : ctx.config.generalInfoFile = some configured) {files : List SourceFile}
    (hpaths : files.Pairwise fun f g => Path.same f.path g.path = false) :
    (({} : Build).addFiles ctx files).generalInfoFile =
      (files.find? fun file => Path.endsWith file.path configured).map (·.path) := by
  have heligible : isEligible ctx.config = fun file => Path.endsWith file.path configured := by
    funext file
    rw [isEligible, hconfig]
    exact sameFile_eq_endsWith configured file.path
  have hpart := congrArg generalInfoFile (infoPart_addFiles_eq ctx hpaths)
  rw [heligible] at hpart
  rw [show (({} : Build).addFiles ctx files).generalInfoFile =
    (({} : Build).addFiles ctx files).infoPart.generalInfoFile from rfl, hpart]
  cases files.find? fun file => Path.endsWith file.path configured <;> rfl

/-- **The first file that ends with a configured path is taken.**  Of files with distinct paths let
one have exactly the configured path.  Then a file is reported, the first one whose path ends with
the configured one; it is the file with exactly this path iff no file in front of that one ends with
it too, and no other file that may be reported has this path. -/
theorem first_ending_file_is_reported (ctx : BuildContext) {configured : String}
    (hconfig : ctx.config.generalInfoFile = some configured) {files before after : List SourceFile}
    {file : SourceFile} (hfiles : files = before ++ file :: after)
    (hpaths : files.Pairwise fun f g => Path.same f.path g.path = false)
    (hexact : Path.same file.path configured = true) :
    let reported := (({} : Build).addFiles ctx files).generalInfoFile
    (∃ earlier first later, files = earlier ++ first :: later ∧
      Path.endsWith first.path configured = true ∧
      (∀ other ∈ earlier, Path.endsWith other.path configured = false) ∧
      reported = some first.path) ∧
    (reported = some file.path ↔
      ∀ other ∈ before, Path.endsWith other.path configured = false) ∧
    ∀ path, reported = some path → Path.same path configured = true → path = file.path := by
  intro reported
  have hreported : reported =
      (files.find? fun f => Path.endsWith f.path configured).map (·.path) :=
    generalInfoFile_eq_find? hconfig hpaths
  have hends : Path.endsWith file.path configured = true := by
    rw [← sameFile_eq_endsWith, sameFile, hexact, Bool.true_or]
  -- The file itself is a hit, so the search succeeds.
  obtain ⟨first, hfirst⟩ : ∃ first, files.find? (fun f => Path.endsWith f.path configured) =
      some first := by
    rw [← Option.isSome_iff_exists, List.find?_isSome]
    exact ⟨file, by simp [hfiles], hends⟩
  obtain ⟨hfirstEnds, earlier, later, hsplit, hearlier⟩ :=
    List.find?_eq_some_iff_append.mp hfirst
  rw [hfirst, Option.map_some] at hreported
  -- Files with the same components in their paths are one file.
  have hunique : ∀ f ∈ files, Path.same f.path file.path = true → f.path = file.path := by
    intro f hf hsame
    rw [hfiles, List.mem_append, List.mem_cons] at hf
    rw [hfiles, List.pairwise_append, List.pairwise_cons] at hpaths
    rcases hf with hf | rfl | hf
    · rw [hpaths.2.2 f hf file (by simp)] at hsame
      exact absurd hsame (by simp)
    · rfl
    · have hdistinct := hpaths.2.1.1 f hf
      rw [Path.same, BEq.comm] at hdistinct
      rw [Path.same, hdistinct] at hsame
      exact absurd hsame (by simp)
  refine ⟨⟨earlier, first, later, hsplit, hfirstEnds, fun other hother => ?_, hreported⟩, ?_, ?_⟩
  · simpa using hearlier other hother
  · rw [hreported, Option.some_inj]
    constructor
    · intro hpath other hother
      -- A hit in front of the file would have been found instead of it.
      by_contra hhit
      rw [Bool.not_eq_false] at hhit
      have hfound : before.find? (fun f => Path.endsWith f.path configured) = some first := by
        rw [hfiles, List.find?_append] at hfirst
        have hsome : (before.find? fun f => Path.endsWith f.path configured).isSome = true :=
          List.find?_isSome.mpr ⟨other, hother, hhit⟩
        rwa [Option.or_of_isSome hsome] at hfirst
      rw [hfiles, List.pairwise_append] at hpaths
      have hdistinct := hpaths.2.2 first (List.mem_of_find?_eq_some hfound) file (by simp)
      rw [hpath, Path.same, beq_self_eq_true] at hdistinct
      exact absurd hdistinct (by simp)
    · intro hnone
      have hfound : files.find? (fun f => Path.endsWith f.path configured) = some file := by
        rw [hfiles, List.find?_eq_some_iff_append]
        exact ⟨hends, before, after, rfl, fun other hother => by simp [hnone other hother]⟩
      rw [hfirst, Option.some_inj] at hfound
      rw [hfound]
  · intro path hpath hsame
    rw [hreported, Option.some_inj] at hpath
    subst hpath
    refine hunique first (by simp [hsplit]) ?_
    rw [Path.same, beq_iff_eq] at hsame hexact ⊢
    rw [hsame, hexact]

/-- The file with the configured path stands between two others; only the later one has a path that
ends with it too. -/
theorem exact_file_reported_before_ending_file :
    let ctx : BuildContext := { config := { generalInfoFile := some "cmd/main.go" } }
    let file : SourceFile := { path := "cmd//main.go" }
    let files := [{ path := "cmd/tool.go" }, file, { path := "svc/cmd/main.go" }]
    (files.Pairwise fun f g => Path.same f.path g.path = false) ∧
    Path.same file.path "cmd/main.go" = true ∧
    Path.endsWith "svc/cmd/main.go" "cmd/main.go" = true ∧
    (({} : Build).addFiles ctx files).generalInfoFile = some file.path := by
  intro ctx file files
  have hpaths : files.Pairwise fun f g => Path.same f.path g.path = false := by decide +kernel
  have hexact : Path.same file.path "cmd/main.go" = true := by decide +kernel
  have hsplit : files = [{ path := "cmd/tool.go" }] ++ file :: [{ path := "svc/cmd/main.go" }] := rfl
  have hreported := (first_ending_file_is_reported ctx rfl hsplit hpaths hexact).2.1
  exact ⟨hpaths, hexact, by decide +kernel, hreported.mpr (by decide +kernel)⟩

/-- A file whose path only ends with the configured path is taken when it stands in front of the file
that has exactly this path. -/
theorem ending_file_wins_over_exact_file :
    let ctx : BuildContext := { config := { generalInfoFile := some "main.go" } }
    let ending : SourceFile :=
      { path := "svc/main.go", comments := [.ofLines ["@title Service", "@version 1"]] }
    let precise : SourceFile :=
      { path := "main.go", comments := [.ofLines ["@title Main", "@version 2"]] }
    let b := ({} : Build).addFiles ctx [ending, precise]
    ([ending, precise].Pairwise fun f g => Path.same f.path g.path = false) ∧
    b.generalInfoFile = some "svc/main.go" ∧
    Path.same "svc/main.go" "main.go" = false ∧
    b.document.info = { title := "Service", version := "1" } := by
  decide +kernel

end Build

end AnnotatedApi
