import AnnotatedApi.CommandLine.Run
import AnnotatedApi.Proofs.Disk.Unread
import Mathlib.Control.Monad.Basic

/-!
What a run prints and writes.

* `generate_yields` — the generation of a document looks at the disk and leaves only log lines, so
  its result is a function of the disk (`Arguments.generation`);
* `Disk.writes_of_save`, `Disk.inWriting_of_save` — what saving the text changes, and how it fails;
* `SameInputs.generation` — disks that differ only in files that cannot be read give the same
  document;
* `run_publishes_valid_documents_only` — the main statement, about whole runs.
-/

namespace AnnotatedApi

open Text

/-! ### Steps that only look at the disk -/

@[simp] theorem Session.note_nil (s : Session) : s.note [] = s := by
  simp [Session.note]

@[simp] theorem Session.disk_note (lines : List LogLine) (s : Session) :
    (s.note lines).disk = s.disk :=
  rfl

theorem Session.note_note (first second : List LogLine) (s : Session) :
    (s.note first).note second = s.note (first ++ second) := by
  simp [Session.note]

namespace Step

variable {ε α β : Type}

/-- One step after another, from a session. -/
theorem bind_apply (x : Step ε α) (k : α → Step ε β) (s : Session) :
    (x >>= k) s = match x s with
      | (.ok a, s) => k a s
      | (.error e, s) => (.error e, s) :=
  rfl

/-- The step has the given result, and leaves nothing but log lines. -/
def Yields (x : Step ε α) (s : Session) (result : Except ε α) : Prop :=
  ∃ lines, x s = (result, s.note lines)

variable {s : Session}

theorem yields_pure (a : α) : (pure a : Step ε α).Yields s (.ok a) :=
  ⟨[], by rw [Session.note_nil]; rfl⟩

theorem yields_fail (e : ε) : (fail e : Step ε α).Yields s (.error e) :=
  ⟨[], by rw [Session.note_nil]; rfl⟩

/-- Log lines do not count. -/
theorem Yields.after_note {lines : List LogLine} {k : Unit → Step ε β} {result : Except ε β}
    (h : (k ()).Yields (s.note lines) result) : (note lines >>= k).Yields s result := by
  obtain ⟨more, hmore⟩ := h
  exact ⟨lines ++ more, by rw [← Session.note_note]; exact hmore⟩

/-- What is seen on the disk does not change it. -/
theorem Yields.after_look {f : Disk → α} {k : α → Step ε β} {result : Except ε β}
    (h : (k (f s.disk)).Yields s result) : (look f >>= k).Yields s result :=
  h

/-- One step after another. -/
theorem Yields.bind {x : Step ε α} {first : Except ε α} (hx : x.Yields s first) {k : α → Step ε β}
    {r : α → Except ε β} (hk : ∀ a lines, first = .ok a → (k a).Yields (s.note lines) (r a)) :
    (x >>= k).Yields s (first >>= r) := by
  obtain ⟨lines, hlines⟩ := hx
  rw [Yields, bind_apply, hlines]
  cases first with
  | error e => exact ⟨lines, rfl⟩
  | ok a =>
    obtain ⟨more, hmore⟩ := hk a lines rfl
    exact ⟨lines ++ more, by rw [← Session.note_note]; exact hmore⟩

theorem Yields.bind_ok {x : Step ε α} {a : α} (hx : x.Yields s (.ok a)) {k : α → Step ε β}
    {result : Except ε β} (hk : ∀ lines, (k a).Yields (s.note lines) result) :
    (x >>= k).Yields s result := by
  have hresult : (Except.ok a >>= fun _ => result) = result := rfl
  rw [← hresult]
  refine hx.bind fun b lines hb => ?_
  rw [← Except.ok.inj hb]
  exact hk lines

theorem Yields.bind_error {x : Step ε α} {e : ε} (hx : x.Yields s (.error e)) (k : α → Step ε β) :
    (x >>= k).Yields s (.error e) :=
  hx.bind (r := fun _ => .error e) fun _ _ ha => by simp at ha

theorem yields_lift {δ : Type} (wrap : δ → ε) (x : Except δ α) :
    (lift wrap x).Yields s (x.mapError wrap) := by
  cases x with
  | ok a => exact yields_pure a
  | error e => exact yields_fail (wrap e)

end Step

/-! ### The generation of a document -/

/-- The overrides that a configuration names. -/
def Config.overridesOn (config : Config) (disk : Disk) : Overrides :=
  match config.overridesFile with
  | none => []
  | some path => (Overrides.load disk path).1

/-- What stays the same while files are added. -/
def Config.contextOn (config : Config) (disk : Disk) : Except RunError BuildContext := do
  let content ← (ContentStore.load disk config.markdownDir config.codeDir).mapError .content
  return { config, content, overrides := config.overridesOn disk }

/-- The sources that a scan finds. -/
def Arguments.sourcesOn (a : Arguments) (disk : Disk) : Except RunError (List String) := do
  let paths ← (disk.scan a.scanRules a.dir).mapError .scan
  if paths.isEmpty then throw (.noSources a.dir) else return paths

/-- The source files that can be read and parsed, if there are any. -/
def parsedOn (parser : GoParser) (disk : Disk) (paths : List String) :
    Except RunError (List SourceFile) :=
  if (parsedSources parser disk paths).isEmpty then .error .noneParsed
  else .ok (parsedSources parser disk paths)

/-- The document that is generated from a disk, without the log. -/
def Arguments.generation (parser : GoParser) (a : Arguments) (disk : Disk) :
    Except RunError Generation := do
  let paths ← a.sourcesOn disk
  let files ← parsedOn parser disk paths
  let ctx ← a.config.contextOn disk
  let document := (({} : Build).addFiles ctx files).document
  document.validate.mapError .invalid
  return { document, scanned := paths.length, parsed := files.length }

theorem findSources_yields (a : Arguments) (s : Session) :
    (findSources a).Yields s (a.sourcesOn s.disk) := by
  refine .after_note (.after_look (.after_look (.after_note ?_)))
  refine (Step.yields_lift _ _).bind fun paths lines _ => .after_note (.after_note ?_)
  split
  · exact Step.yields_fail _
  · exact Step.yields_pure _

theorem parseSources_yields (parser : GoParser) (paths : List String) (s : Session) :
    (parseSources parser paths).Yields s (parsedOn parser s.disk paths) := by
  refine .after_note (.after_look (.after_look (.after_note (.after_note ?_))))
  rw [parsedOn, Session.disk_note]
  split
  · exact Step.yields_fail _
  · exact Step.yields_pure _

theorem loadOverrides_yields (config : Config) (s : Session) :
    (loadOverrides config).Yields s (.ok (config.overridesOn s.disk)) := by
  rw [loadOverrides, Config.overridesOn]
  cases config.overridesFile with
  | none => exact Step.yields_pure []
  | some path =>
    refine .after_look ?_
    dsimp only
    split
    · exact .after_note (Step.yields_pure _)
    · exact Step.yields_pure _

theorem loadContext_yields (config : Config) (s : Session) :
    (loadContext config).Yields s (config.contextOn s.disk) := by
  refine .after_look ((Step.yields_lift _ _).bind fun content lines _ => .after_note ?_)
  exact (loadOverrides_yields config _).bind fun overrides _ _ => Step.yields_pure _

theorem buildDocument_yields (ctx : BuildContext) (files : List SourceFile) (s : Session) :
    (buildDocument ctx files).Yields s (.ok (({} : Build).addFiles ctx files).document) :=
  .after_note (.after_note (Step.yields_pure _))

/-- The generation of a document looks at the disk and leaves only log lines. -/
theorem generate_yields (parser : GoParser) (a : Arguments) (s : Session) :
    (generate parser a).Yields s (a.generation parser s.disk) := by
  refine .after_note ((findSources_yields a _).bind fun paths _ _ => ?_)
  refine (parseSources_yields parser paths _).bind fun files _ _ => .after_note ?_
  refine (loadContext_yields a.config _).bind fun ctx _ _ => ?_
  refine (buildDocument_yields ctx files _).bind_ok fun _ => .after_note ?_
  exact (Step.yields_lift _ _).bind fun _ _ _ => Step.yields_pure _

/-- The document is built, in the order of the scan, from the scanned files that can be read and
parsed, and it is valid. -/
def Arguments.Builds (parser : GoParser) (a : Arguments) (disk : Disk) (document : Document) :
    Prop :=
  ∃ paths content, disk.scan a.scanRules a.dir = .ok paths ∧
    parsedSources parser disk paths ≠ [] ∧
    ContentStore.load disk a.config.markdownDir a.config.codeDir = .ok content ∧
    document = (({} : Build).addFiles
      { config := a.config, content, overrides := a.config.overridesOn disk }
      (parsedSources parser disk paths)).document ∧
    document.validate = .ok ()

variable {parser : GoParser}

/-- The rest of the generation, after sources were found and parsed. -/
theorem generation_of_scan {a : Arguments} {disk : Disk} {paths : List String}
    (hscan : disk.scan a.scanRules a.dir = .ok paths)
    (hparse : parsedSources parser disk paths ≠ []) :
    a.generation parser disk = do
      let ctx ← a.config.contextOn disk
      let document := (({} : Build).addFiles ctx (parsedSources parser disk paths)).document
      document.validate.mapError .invalid
      return { document, scanned := paths.length,
               parsed := (parsedSources parser disk paths).length } := by
  have hpaths : paths ≠ [] := by
    rintro rfl
    exact hparse rfl
  have hsources : a.sourcesOn disk = .ok paths := by
    simp [Arguments.sourcesOn, hscan, Except.mapError, hpaths]
  have hfiles : parsedOn parser disk paths = .ok (parsedSources parser disk paths) := by
    simp [parsedOn, hparse]
  rw [Arguments.generation, hsources, ok_bind, hfiles, ok_bind]

theorem mapError_eq_ok_iff {ε δ α : Type} {wrap : ε → δ} {x : Except ε α} {a : α} :
    x.mapError wrap = .ok a ↔ x = .ok a := by
  cases x <;> simp [Except.mapError]

theorem builds_of_generation {a : Arguments} {disk : Disk} {g : Generation}
    (h : a.generation parser disk = .ok g) : a.Builds parser disk g.document := by
  obtain ⟨paths, hpaths, h⟩ := bind_eq_ok_iff.mp h
  obtain ⟨files, hfiles, h⟩ := bind_eq_ok_iff.mp h
  obtain ⟨ctx, hctx, h⟩ := bind_eq_ok_iff.mp h
  obtain ⟨⟨⟩, hvalid, h⟩ := bind_eq_ok_iff.mp h
  obtain ⟨found, hscan, hpaths⟩ := bind_eq_ok_iff.mp hpaths
  obtain ⟨content, hcontent, hctx⟩ := bind_eq_ok_iff.mp hctx
  rw [mapError_eq_ok_iff] at hvalid hscan hcontent
  obtain rfl : found = paths := by
    split at hpaths
    · simp at hpaths
    · exact Except.ok.inj hpaths
  rw [parsedOn] at hfiles
  split at hfiles
  · simp at hfiles
  · next hsome =>
    obtain rfl := Except.ok.inj hfiles
    obtain rfl := Except.ok.inj hctx
    obtain rfl := Except.ok.inj h
    exact ⟨found, content, hscan, by simpa using hsome, hcontent, rfl, hvalid⟩

/-! ### Publishing -/

/-- A failure of the writing step. -/
def RunError.inWriting : RunError → Bool
  | .makeDir _ _ | .write _ _ => true
  | _ => false

namespace Disk

variable {omitted : List String → Bool} {disk other : Disk} {path : String}

theorem adds_makeParents (path : String) (disk : Disk) :
    Adds (disk.start path) (named path).dropLast disk (disk.makeParents path).2 := by
  rw [makeParents]
  cases hparent : Path.parent? path with
  | none => exact .refl _ _ _
  | some parent =>
    rw [← start_of_parent? disk hparent]
    exact (adds_makeDirs parent.length parent disk).of_isPrefix (named_of_parent? hparent)

@[simp] theorem start_makeParents (path other : String) (disk : Disk) :
    (disk.makeParents path).2.start other = disk.start other :=
  start_eq_of_here (adds_makeParents path disk).here other

/-- What saving a text comes to: the directories on the way cannot be made, or the file cannot be
written, or it is written. -/
theorem save_cases (path text : String) (disk : Disk) :
    (∃ e middle, disk.makeParents path = (.error e, middle) ∧
      disk.save path text = (.error e, middle)) ∨
    (∃ fault middle, disk.makeParents path = (.ok (), middle) ∧
      middle.writeText path text = .error fault ∧
      disk.save path text = (.error (.write path fault), middle)) ∨
    ∃ middle after, disk.makeParents path = (.ok (), middle) ∧
      middle.writeText path text = .ok after ∧ disk.save path text = (.ok (), after) := by
  rw [save]
  obtain ⟨result, middle⟩ := disk.makeParents path
  cases result with
  | error e => exact .inl ⟨e, middle, rfl, rfl⟩
  | ok _ =>
    simp only [thenChange, writeFile]
    cases hwrite : middle.writeText path text with
    | error fault => exact .inr (.inl ⟨fault, middle, rfl, hwrite, rfl⟩)
    | ok after => exact .inr (.inr ⟨middle, after, rfl, hwrite, rfl⟩)

/-- A text that was saved was written after the directories on the way had been made. -/
theorem save_eq_ok {text : String} (h : (disk.save path text).1 = .ok ()) :
    (disk.makeParents path).2.writeText path text = .ok (disk.save path text).2 := by
  obtain ⟨e, middle, -, hsave⟩ | ⟨fault, middle, -, -, hsave⟩ |
    ⟨middle, after, hmade, hwrite, hsave⟩ := save_cases path text disk
  · simp [hsave] at h
  · simp [hsave] at h
  · rwa [hmade, hsave]

/-- A text that is saved is written to its file, and nothing else changes but for directories on the
way. -/
theorem writes_of_save {text : String} (h : (disk.save path text).1 = .ok ()) :
    Writes path text disk (disk.save path text).2 :=
  writes_of_writeText (by simpa using adds_makeParents path disk) (save_eq_ok h)

/-- The way to a file that was saved is clear, if the file is none of the omitted ones. -/
theorem wayIsClear_of_save_ok {text : String} (h : (disk.save path text).1 = .ok ())
    (hplace : ∀ place, (disk.save path text).2.locate path = .ok place → omitted place = false) :
    (disk.save path text).2.WayIsClear omitted path :=
  wayIsClear_after_writeText (save_eq_ok h) hplace

/-- The way to a file is clear before it is written, if it is so in the end. -/
theorem wayIsClear_of_save {text : String} (h : (disk.save path text).2.WayIsClear omitted path) :
    (disk.makeParents path).2.WayIsClear omitted path := by
  obtain ⟨e, middle, hmade, hsave⟩ | ⟨fault, middle, hmade, -, hsave⟩ |
    ⟨middle, after, hmade, hwrite, hsave⟩ := save_cases path text disk
  · rwa [hmade, ← hsave]
  · rw [hmade]
    rwa [hsave] at h
  · rw [hmade]
    rw [hsave] at h
    exact h.of_writeText hwrite

/-- Making the directories on the way to a file fails with a failure of the writing step. -/
theorem inWriting_of_makeParents {e : RunError} (h : (disk.makeParents path).1 = .error e) :
    e.inWriting = true := by
  rw [makeParents] at h
  cases hparent : Path.parent? path with
  | none => simp [hparent] at h
  | some parent =>
    simp only [hparent, wrapFault] at h
    cases hmade : (disk.makeDirs parent.length parent).1 with
    | ok _ => simp [hmade, Except.mapError] at h
    | error fault =>
      rw [hmade] at h
      obtain rfl := Except.error.inj h
      rfl

/-- Saving fails with a failure of the writing step. -/
theorem inWriting_of_save {text : String} {e : RunError} (h : (disk.save path text).1 = .error e) :
    e.inWriting = true := by
  obtain ⟨e', middle, hmade, hsave⟩ | ⟨fault, middle, -, -, hsave⟩ |
    ⟨middle, after, -, -, hsave⟩ := save_cases path text disk
  · rw [hsave] at h
    obtain rfl := Except.error.inj h
    exact inWriting_of_makeParents (congrArg Prod.fst hmade)
  · rw [hsave] at h
    obtain rfl := Except.error.inj h
    rfl
  · simp [hsave] at h

namespace Alike

/-- Making the directories on the way has the same result on disks that look alike, if in the end the
way is clear. -/
theorem makeParents (h : Alike omitted disk other)
    (hdisk : (disk.makeParents path).2.Clear omitted (disk.start path) (named path).dropLast)
    (hother : (other.makeParents path).2.Clear omitted (other.start path) (named path).dropLast) :
    (disk.makeParents path).1 = (other.makeParents path).1 ∧
      Alike omitted (disk.makeParents path).2 (other.makeParents path).2 := by
  rw [Disk.makeParents] at hdisk hother ⊢
  rw [Disk.makeParents]
  cases hparent : Path.parent? path with
  | none => exact ⟨rfl, h⟩
  | some parent =>
    simp only [hparent] at hdisk hother
    have hfront := named_of_parent? hparent
    rw [← start_of_parent? _ hparent] at hdisk hother
    obtain ⟨hresult, halike⟩ := h.makeDirs parent.length
      (hdisk.of_isPrefix hfront) (hother.of_isPrefix hfront)
    exact ⟨by simp only [wrapFault, hresult], halike⟩

theorem writeFile (h : Alike omitted disk other) (text : String)
    (hdisk : disk.WayIsClear omitted path) (hother : other.WayIsClear omitted path) :
    (disk.writeFile path text).1 = (other.writeFile path text).1 ∧
      Alike omitted (disk.writeFile path text).2 (other.writeFile path text).2 := by
  rw [Disk.writeFile, Disk.writeFile]
  obtain ⟨after, after', hwrite, hwrite', halike⟩ | ⟨fault, hwrite, hwrite'⟩ :=
    (h.writeText text hdisk hother).cases
  · rw [hwrite, hwrite']
    exact ⟨rfl, halike⟩
  · rw [hwrite, hwrite']
    exact ⟨rfl, h⟩

/-- Saving has the same result on disks that look alike, if in the end the way is clear. -/
theorem save (h : Alike omitted disk other) {text : String}
    (hdisk : (disk.save path text).2.WayIsClear omitted path)
    (hother : (other.save path text).2.WayIsClear omitted path) :
    (disk.save path text).1 = (other.save path text).1 ∧
      Alike omitted (disk.save path text).2 (other.save path text).2 := by
  have hway := wayIsClear_of_save hdisk
  have hway' := wayIsClear_of_save hother
  have hparents := h.makeParents (by simpa using hway.clear) (by simpa using hway'.clear)
  exact thenChange hparents fun _ => hparents.2.writeFile text hway hway'

end Alike

end Disk

/-- The text is printed and the disk stays as it is, or it is written to the output file and nothing
is printed. -/
def Arguments.Publishes (a : Arguments) (before after : Session) (text : String) : Prop :=
  match a.output with
  | none => after.printed = before.printed ++ text ++ "\n" ∧ after.disk = before.disk
  | some path => after.printed = before.printed ∧ Disk.Writes path text before.disk after.disk

/-! ### Runs -/

/-- A run goes on with what was generated. -/
theorem run_eq {a : Arguments} {s : Session} {g : Generation}
    (h : a.generation parser s.disk = .ok g) :
    ∃ lines, runWith parser a s =
      (publish a (a.format.write g.document) >>= fun _ => Step.note (summary g)) (s.note lines) := by
  obtain ⟨lines, hlines⟩ := generate_yields parser a s
  rw [h] at hlines
  rw [runWith, Step.bind_apply, hlines]
  exact ⟨lines ++ [.info ("Serializing to " ++ a.format.label ++ " format...")],
    by rw [← Session.note_note]; rfl⟩

/-- A run whose generation fails does nothing else. -/
theorem run_fails {a : Arguments} {s : Session} {e : RunError}
    (h : a.generation parser s.disk = .error e) :
    (runWith parser a s).1 = .error e ∧ (runWith parser a s).2.printed = s.printed ∧
      (runWith parser a s).2.disk = s.disk := by
  have hgenerate := generate_yields parser a s
  rw [h] at hgenerate
  obtain ⟨lines, hlines⟩ := hgenerate.bind_error fun g => do
    Step.info ("Serializing to " ++ a.format.label ++ " format...")
    publish a (a.format.write g.document)
    Step.note (summary g)
  have hrun : runWith parser a s = (.error e, s.note lines) := hlines
  rw [hrun]
  exact ⟨rfl, rfl, rfl⟩

theorem run_prints {a : Arguments} {s : Session} {g : Generation}
    (h : a.generation parser s.disk = .ok g) (houtput : a.output = none) :
    (runWith parser a s).1 = .ok () ∧
      (runWith parser a s).2.printed = s.printed ++ a.format.write g.document ++ "\n" ∧
      (runWith parser a s).2.disk = s.disk := by
  obtain ⟨lines, hlines⟩ := run_eq h
  rw [hlines, publish, houtput]
  exact ⟨rfl, (String.append_assoc ..).symm, rfl⟩

theorem publish_saves {a : Arguments} {path : String} (houtput : a.output = some path)
    (text : String) (s : Session) :
    publish a text s = Step.change (Disk.save path text)
      (s.note [.info ("Writing output to: " ++ path)]) := by
  rw [publish, houtput]
  rfl

theorem run_saves {a : Arguments} {s : Session} {g : Generation} {path : String}
    (h : a.generation parser s.disk = .ok g) (houtput : a.output = some path) :
    (runWith parser a s).1 = (s.disk.save path (a.format.write g.document)).1 ∧
      (runWith parser a s).2.printed = s.printed ∧
      (runWith parser a s).2.disk = (s.disk.save path (a.format.write g.document)).2 := by
  obtain ⟨lines, hlines⟩ := run_eq h
  rw [hlines, Step.bind_apply, publish_saves houtput, Step.change, Session.disk_note,
    Session.disk_note]
  generalize s.disk.save path (a.format.write g.document) = saved
  obtain ⟨result, after⟩ := saved
  cases result with
  | ok _ => exact ⟨rfl, rfl, rfl⟩
  | error e => exact ⟨rfl, rfl, rfl⟩

/-- A run that fails before the writing step prints nothing and leaves the disk as it is. -/
theorem unchanged_of_run_error {a : Arguments} {s : Session} {e : RunError}
    (h : (runWith parser a s).1 = .error e) (hbefore : e.inWriting = false) :
    (runWith parser a s).2.printed = s.printed ∧ (runWith parser a s).2.disk = s.disk := by
  cases hgeneration : a.generation parser s.disk with
  | error e' => exact (run_fails hgeneration).2
  | ok g =>
    cases houtput : a.output with
    | none =>
      rw [(run_prints hgeneration houtput).1] at h
      simp at h
    | some path =>
      rw [(run_saves hgeneration houtput).1] at h
      rw [Disk.inWriting_of_save h] at hbefore
      simp at hbefore

/-- A run that succeeds publishes the text of a document that was built and is valid. -/
theorem publishes_of_run_ok {a : Arguments} {s : Session} (h : (runWith parser a s).1 = .ok ()) :
    ∃ g, a.generation parser s.disk = .ok g ∧
      a.Publishes s (runWith parser a s).2 (a.format.write g.document) := by
  cases hgeneration : a.generation parser s.disk with
  | error e =>
    rw [(run_fails hgeneration).1] at h
    simp at h
  | ok g =>
    refine ⟨g, rfl, ?_⟩
    rw [Arguments.Publishes]
    cases houtput : a.output with
    | none => exact (run_prints hgeneration houtput).2
    | some path =>
      obtain ⟨hresult, hprinted, hdisk⟩ := run_saves hgeneration houtput
      rw [hresult] at h
      exact ⟨hprinted, hdisk ▸ Disk.writes_of_save h⟩

/-! ### Runs on disks that differ in files that cannot be read -/

variable {omitted : List String → Bool}

/-- The disks differ only in files at the omitted places, which cannot be read, and in none that
external texts are loaded from. -/
structure SameInputs (omitted : List String → Bool) (a : Arguments) (disk other : Disk) :
    Prop where
  texts : Disk.SameTexts omitted disk other
  markdown : ∀ dir, a.config.markdownDir = some dir →
    (disk.markdownFiles dir).filter (!·.2.isOk) = (other.markdownFiles dir).filter (!·.2.isOk)
  code : ∀ dir, a.config.codeDir = some dir →
    (disk.filesBelow dir).filter (!·.2.isOk) = (other.filesBelow dir).filter (!·.2.isOk)

namespace SameInputs

variable {a : Arguments} {disk other : Disk}

theorem overridesOn (h : SameInputs omitted a disk other) :
    a.config.overridesOn disk = a.config.overridesOn other := by
  have hload : ∀ path, Overrides.load disk path = Overrides.load other path := by
    intro path
    have hsame := h.texts.readText path
    rw [Overrides.load, Overrides.load]
    cases hdisk : disk.readText path with
    | error fault =>
      cases hother : other.readText path with
      | error fault' => rfl
      | ok text =>
        rw [hdisk, hother] at hsame
        cases hsame
    | ok text => rw [h.texts.readText_eq_ok hdisk]
  rw [Config.overridesOn, Config.overridesOn]
  cases a.config.overridesFile with
  | none => rfl
  | some path => exact congrArg Prod.fst (hload path)

theorem load (h : SameInputs omitted a disk other) :
    ContentStore.load disk a.config.markdownDir a.config.codeDir =
      ContentStore.load other a.config.markdownDir a.config.codeDir := by
  have hmarkdown : ∀ dir, a.config.markdownDir = some dir →
      readFiles dir (disk.markdownFiles dir) = readFiles dir (other.markdownFiles dir) := by
    intro dir hdir
    exact Disk.readFiles_congr (h.texts.filter_markdownFiles dir) (h.markdown dir hdir)
  have hcode : ∀ dir, a.config.codeDir = some dir →
      readFiles dir (disk.filesBelow dir) = readFiles dir (other.filesBelow dir) := by
    intro dir hdir
    exact Disk.readFiles_congr (h.texts.filter_filesBelow dir) (h.code dir hdir)
  unfold ContentStore.load
  cases hdir : a.config.markdownDir with
  | none =>
    cases hdir' : a.config.codeDir with
    | none => rfl
    | some dir' => simp only [hcode dir' hdir']
  | some dir =>
    cases hdir' : a.config.codeDir with
    | none => simp only [hmarkdown dir hdir]
    | some dir' => simp only [hmarkdown dir hdir, hcode dir' hdir']

theorem contextOn (h : SameInputs omitted a disk other) :
    a.config.contextOn disk = a.config.contextOn other := by
  rw [Config.contextOn, Config.contextOn, h.load, h.overridesOn]

/-- The same document is generated, or the generation fails in the same way. -/
theorem generation (h : SameInputs omitted a disk other) {paths : List String}
    (hscan : disk.scan a.scanRules a.dir = .ok paths)
    (hparse : parsedSources parser disk paths ≠ []) :
    (a.generation parser disk).map (·.document) = (a.generation parser other).map (·.document) := by
  have hsources := h.texts.map_parsedSources parser a.scanRules a.dir
  rw [hscan] at hsources
  cases hscan' : other.scan a.scanRules a.dir with
  | error e =>
    rw [hscan'] at hsources
    exact absurd hsources (by simp [Except.map])
  | ok paths' =>
    rw [hscan'] at hsources
    have hsame : parsedSources parser disk paths = parsedSources parser other paths' :=
      Except.ok.inj hsources
    rw [generation_of_scan hscan hparse, generation_of_scan hscan' (hsame ▸ hparse), h.contextOn,
      hsame]
    cases a.config.contextOn other with
    | error e => simp only [error_bind]
    | ok ctx =>
      simp only [ok_bind]
      cases (Build.addFiles ctx {} (parsedSources parser other paths')).document.validate <;> rfl

/-- Both generations fail in the same way, or both have the same document. -/
theorem generation_cases (h : SameInputs omitted a disk other) {paths : List String}
    (hscan : disk.scan a.scanRules a.dir = .ok paths)
    (hparse : parsedSources parser disk paths ≠ []) :
    (∃ e, a.generation parser disk = .error e ∧ a.generation parser other = .error e) ∨
      ∃ g g', a.generation parser disk = .ok g ∧ a.generation parser other = .ok g' ∧
        g.document = g'.document := by
  have hsame := h.generation hscan hparse
  cases hdisk : a.generation parser disk with
  | error e =>
    rw [hdisk] at hsame
    cases hother : a.generation parser other with
    | error e' =>
      obtain rfl : e = e' := by simpa [hother, Except.map] using hsame
      exact .inl ⟨e, rfl, rfl⟩
    | ok g' => simp [hother, Except.map] at hsame
  | ok g =>
    rw [hdisk] at hsame
    cases hother : a.generation parser other with
    | error e' => simp [hother, Except.map] at hsame
    | ok g' => exact .inr ⟨g, g', rfl, rfl, by simpa [hother, Except.map] using hsame⟩

end SameInputs

/-- No omitted file is in the way of writing the output file after the run. -/
def Arguments.WayIsClear (omitted : List String → Bool) (a : Arguments) (after : Session) : Prop :=
  ∀ path, a.output = some path → after.disk.WayIsClear omitted path

/-- After a run that succeeds the way is clear, if the output file is none of the omitted ones. -/
theorem wayIsClear_of_run_ok {a : Arguments} {s : Session} (h : (runWith parser a s).1 = .ok ())
    (hplace : ∀ path place, a.output = some path →
      (runWith parser a s).2.disk.locate path = .ok place → omitted place = false) :
    a.WayIsClear omitted (runWith parser a s).2 := by
  intro path houtput
  obtain ⟨g, hgeneration, -⟩ := publishes_of_run_ok h
  obtain ⟨hresult, -, hdisk⟩ := run_saves hgeneration houtput
  have hlocate := fun place => hplace path place houtput
  rw [hdisk] at hlocate ⊢
  exact Disk.wayIsClear_of_save_ok (hresult ▸ h) hlocate

/-- Both runs generate the same document and go on with it in the same way, or fail in the same
way. -/
theorem SameInputs.run {a : Arguments} {s t : Session} (h : SameInputs omitted a s.disk t.disk)
    {paths : List String} (hscan : s.disk.scan a.scanRules a.dir = .ok paths)
    (hparse : parsedSources parser s.disk paths ≠ [])
    (hs : a.WayIsClear omitted (runWith parser a s).2)
    (ht : a.WayIsClear omitted (runWith parser a t).2) :
    (runWith parser a s).1 = (runWith parser a t).1 ∧
      Disk.Alike omitted (runWith parser a s).2.disk (runWith parser a t).2.disk := by
  obtain ⟨e, hfails, hfails'⟩ | ⟨g, g', hgeneration, hgeneration', hdocument⟩ :=
    h.generation_cases hscan hparse
  · obtain ⟨hresult, -, hdisk⟩ := run_fails hfails
    obtain ⟨hresult', -, hdisk'⟩ := run_fails hfails'
    rw [hresult, hresult', hdisk, hdisk']
    exact ⟨rfl, h.texts.alike⟩
  · cases houtput : a.output with
    | none =>
      obtain ⟨hresult, -, hdisk⟩ := run_prints hgeneration houtput
      obtain ⟨hresult', -, hdisk'⟩ := run_prints hgeneration' houtput
      rw [hresult, hresult', hdisk, hdisk']
      exact ⟨rfl, h.texts.alike⟩
    | some path =>
      obtain ⟨hresult, -, hdisk⟩ := run_saves hgeneration houtput
      obtain ⟨hresult', -, hdisk'⟩ := run_saves hgeneration' houtput
      -- Both save the same text, on disks that still look alike.
      have hway := hs path houtput
      have hway' := ht path houtput
      rw [hdisk] at hway
      rw [hdisk', ← hdocument] at hway'
      rw [hresult, hresult', hdisk, hdisk', ← hdocument]
      exact h.texts.alike.save hway hway'

/-- **A run publishes valid documents only.**  A run that fails before the writing step prints
nothing and leaves the disk as it is.  A run that succeeds has built a valid document from exactly
the scanned files that can be read and parsed, in the order of the scan, and prints its text or writes
it to the output file; then nothing else on the disk changes, apart from new directories on the way to
this file.  Files that cannot be read have no influence, as long as a source can be parsed, none of
them is among the files that external texts are loaded from, and none is in the way of writing the
output file: on two disks that differ in such files only, both runs fail in the same way, or both
publish the text of the same document. -/
theorem run_publishes_valid_documents_only (parser : GoParser) (a : Arguments) (s : Session) :
    (∀ e, (runWith parser a s).1 = .error e → e.inWriting = false →
      (runWith parser a s).2.printed = s.printed ∧ (runWith parser a s).2.disk = s.disk) ∧
    ((runWith parser a s).1 = .ok () → ∃ document, a.Builds parser s.disk document ∧
      a.Publishes s (runWith parser a s).2 (a.format.write document)) ∧
    ∀ (omitted : List String → Bool) (t : Session) (paths : List String),
      SameInputs omitted a s.disk t.disk →
      s.disk.scan a.scanRules a.dir = .ok paths → parsedSources parser s.disk paths ≠ [] →
      a.WayIsClear omitted (runWith parser a s).2 → a.WayIsClear omitted (runWith parser a t).2 →
      (runWith parser a s).1 = (runWith parser a t).1 ∧
        Disk.Alike omitted (runWith parser a s).2.disk (runWith parser a t).2.disk ∧
        ((runWith parser a s).1 = .ok () → ∃ document,
          a.Builds parser s.disk document ∧ a.Builds parser t.disk document ∧
          a.Publishes s (runWith parser a s).2 (a.format.write document) ∧
          a.Publishes t (runWith parser a t).2 (a.format.write document)) := by
  refine ⟨fun e => unchanged_of_run_error, fun h => ?_, ?_⟩
  · obtain ⟨g, hgeneration, hpublishes⟩ := publishes_of_run_ok h
    exact ⟨g.document, builds_of_generation hgeneration, hpublishes⟩
  · intro omitted t paths hinputs hscan hparse hs ht
    obtain ⟨hresult, halike⟩ := hinputs.run hscan hparse hs ht
    refine ⟨hresult, halike, fun hok => ?_⟩
    obtain ⟨g, hgeneration, hpublishes⟩ := publishes_of_run_ok hok
    obtain ⟨g', hgeneration', hpublishes'⟩ := publishes_of_run_ok (hresult ▸ hok)
    have hdocument : g.document = g'.document := by
      have hsame := hinputs.generation hscan hparse
      simpa [hgeneration, hgeneration', Except.map] using hsame
    exact ⟨g.document, builds_of_generation hgeneration,
      hdocument ▸ builds_of_generation hgeneration', hpublishes, hdocument ▸ hpublishes'⟩

/-- A scan without sources, and a run that writes to a new directory above the current one, next to
notes that may not be read. -/
theorem run_with_unreadable_notes :
    let a : Arguments := { output := some "../out/api.yaml" }
    let main : String × Node := ("main.go", .file (some
      "package main\n\n// @title Pets\n// @version 1.0\nfunc main() \x7b\x7d\n"))
    let notes : String × Node := ("notes.go", .file (some "package main\n") { read := false })
    let s : Session := { disk := { root := .dir [("work", .dir [main, notes])], here := ["work"] } }
    let t : Session := { disk := { root := .dir [("work", .dir [main])], here := ["work"] } }
    ((run a { disk := {} }).1 = .error (.noSources "./") ∧
      (run a { disk := {} }).2.printed = "" ∧ (run a { disk := {} }).2.disk = {}) ∧
    (∃ document, a.Builds (some ∘ GoSource.parse) s.disk document ∧
      a.Publishes s (run a s).2 (a.format.write document)) ∧
    (run a s).1 = (run a t).1 := by
  intro a main notes s t
  have hempty : (run a { disk := {} }).1 = .error (.noSources "./") := by decide +kernel
  have hs : (run a s).1 = .ok () := by decide +kernel
  have ht : (run a t).1 = .ok () := by decide +kernel
  have hinputs : SameInputs (· == ["work", "notes.go"]) a s.disk t.disk :=
    { texts := ⟨by decide +kernel, by decide +kernel, rfl, rfl,
        Disk.unread_beq (by decide +kernel), Disk.unread_beq (by decide +kernel)⟩
      markdown := fun _ hdir => by simp [a, Arguments.config] at hdir
      code := fun _ hdir => by simp [a, Arguments.config] at hdir }
  have hscan : s.disk.scan a.scanRules a.dir = .ok ["./main.go", "./notes.go"] := by
    decide +kernel
  have hparse : parsedSources (some ∘ GoSource.parse) s.disk ["./main.go", "./notes.go"] ≠ [] := by
    rw [ne_eq, ← List.isEmpty_iff]
    decide +kernel
  have hoff : ∀ u : Session, (run a u).2.disk.locate "../out/api.yaml" = .ok ["out", "api.yaml"] →
      ∀ path place, a.output = some path → (run a u).2.disk.locate path = .ok place →
        (place == ["work", "notes.go"]) = false := by
    intro u hu path place houtput hplace
    obtain rfl : "../out/api.yaml" = path := Option.some.inj houtput
    rw [hu] at hplace
    obtain rfl := Except.ok.inj hplace
    rfl
  refine ⟨⟨hempty, (run_publishes_valid_documents_only _ a _).1 _ hempty rfl⟩,
    (run_publishes_valid_documents_only _ a s).2.1 hs, ?_⟩
  exact ((run_publishes_valid_documents_only _ a s).2.2 _ t _ hinputs hscan hparse
    (wayIsClear_of_run_ok hs (hoff s (by decide +kernel)))
    (wayIsClear_of_run_ok ht (hoff t (by decide +kernel)))).1

/-- A file that cannot be read makes a run fail if it is a code example, if it stands where a
directory on the way to the output file is needed, or if it is the output file and may not be
changed. -/
theorem unreadable_files_fail_runs :
    let main : String × Node := ("main.go", .file (some
      "package main\n\n// @title Pets\n// @version 1.0\nfunc main() \x7b\x7d\n"))
    let parse : GoParser := some ∘ GoSource.parse
    let plain : Session := { disk := { root := .dir [main] } }
    let a : Arguments := { codeDir := some "examples" }
    let s : Session :=
      { disk := { root := .dir [("examples", .dir [("bad.go", .file none)]), main] } }
    let t : Session := { disk := { root := .dir [("examples", .dir []), main] } }
    let b : Arguments := { output := some "out/api.yaml" }
    let blocked : Session := { disk := { root := .dir [main, ("out", .file none)] } }
    let c : Arguments := { output := some "/api.yaml" }
    let old : Node := .file (some "") { read := false, write := false }
    let locked : Session := { disk := { root := .dir [("api.yaml", old), main] } }
    (Disk.SameTexts (· == ["examples", "bad.go"]) s.disk t.disk ∧
      (parsedSources parse s.disk ["./main.go"]).length = 1 ∧
      (run a s).1 = .error (.content ⟨"examples/bad.go", .notText⟩) ∧ (run a t).1 = .ok ()) ∧
    (Disk.SameTexts (· == ["out"]) blocked.disk plain.disk ∧
      (parsedSources parse blocked.disk ["./main.go"]).length = 1 ∧
      (run b blocked).1 = .error (.makeDir "out" .alreadyExists) ∧ (run b plain).1 = .ok ()) ∧
    (Disk.SameTexts (· == ["api.yaml"]) locked.disk plain.disk ∧
      (parsedSources parse locked.disk ["./main.go"]).length = 1 ∧
      (run c locked).1 = .error (.write "/api.yaml" .denied) ∧ (run c plain).1 = .ok ()) := by
  intro main parse plain a s t b blocked c old locked
  have hsame : ∀ place (disk other : Disk), disk.root.wellFormed = true →
      other.root.wellFormed = true → disk.here = other.here →
      disk.root.without (· == place) [] = other.root.without (· == place) [] →
      (∀ entry ∈ disk.view? place, entry.isUnread = true) →
      (∀ entry ∈ other.view? place, entry.isUnread = true) →
      Disk.SameTexts (· == place) disk other := fun _ _ _ hdisk hother hhere hwithout hread hread' =>
    ⟨hdisk, hother, hhere, hwithout, Disk.unread_beq hread, Disk.unread_beq hread'⟩
  refine ⟨⟨hsame _ _ _ ?_ ?_ rfl rfl ?_ ?_, ?_, ?_, ?_⟩,
    ⟨hsame _ _ _ ?_ ?_ rfl rfl ?_ ?_, ?_, ?_, ?_⟩, hsame _ _ _ ?_ ?_ rfl rfl ?_ ?_, ?_, ?_, ?_⟩
  all_goals decide +kernel

end AnnotatedApi
