import AnnotatedApi.Proofs.Disk.Changes

/-!
Disks that look alike if the files at some places do not count.

Such a file can still be in the way: no directory can be made where it stands, and nothing below it,
and a text can only be written there if the file may be changed. `Disk.Clear` says that none stands on
the way along given names, `Disk.Replaceable` that one at the end of a path may be replaced. Then
making directories and writing a file have the same results on both disks, and leave disks that look
alike again (`Disk.Alike.makeDirs`, `Disk.Alike.writeText`).
-/

namespace AnnotatedApi

open Text

/-- Whether an entry counts. Directories do at all places, files only where they are not omitted. -/
def Entry.counts (omitted : List String → Bool) (place : List String) : Entry → Bool
  | .dir _ => true
  | .file _ _ => !omitted place

namespace Disk

/-- Every place has the same entry on both, if files at the omitted places do not count. -/
structure Alike (omitted : List String → Bool) (disk other : Disk) : Prop where
  here : disk.here = other.here
  entries : ∀ place, (disk.view? place).filter (Entry.counts omitted place) =
    (other.view? place).filter (Entry.counts omitted place)

variable {omitted : List String → Bool}

namespace Alike

variable {disk other : Disk}

theorem symm (h : Alike omitted disk other) : Alike omitted other disk :=
  ⟨h.here.symm, fun place => (h.entries place).symm⟩

theorem start (h : Alike omitted disk other) (path : String) :
    disk.start path = other.start path :=
  start_eq_of_here h.here path

/-- What counts on one stands on the other as well. -/
theorem view? (h : Alike omitted disk other) {place : List String} {entry : Entry}
    (hentry : disk.view? place = some entry) (hcounts : entry.counts omitted place = true) :
    other.view? place = some entry := by
  have hother := h.entries place
  rw [hentry, Option.filter_some_pos hcounts] at hother
  exact (Option.filter_eq_some_iff.mp hother.symm).1

theorem dir (h : Alike omitted disk other) {place : List String} {access : Access}
    (hdir : disk.view? place = some (.dir access)) : other.view? place = some (.dir access) :=
  h.view? hdir rfl

theorem enterable (h : Alike omitted disk other) {place : List String}
    (hdir : disk.Enterable place) : other.Enterable place := by
  obtain ⟨access, hdir, henter⟩ := hdir
  exact ⟨access, h.dir hdir, henter⟩

/-- Steps lead to the same place, if they lead to something that counts. -/
theorem follow (h : Alike omitted disk other) {steps done place : List String} {entry : Entry}
    (hfollow : disk.follow done steps = .ok place) (hentry : disk.view? place = some entry)
    (hcounts : entry.counts omitted place = true) : other.follow done steps = .ok place := by
  induction steps generalizing done with
  | nil => exact hfollow
  | cons step rest ih =>
    obtain ⟨next, hstep, hrest⟩ := follow_cons_eq_ok_iff.mp hfollow
    refine follow_cons_eq_ok_iff.mpr ⟨next, ?_, ih hrest⟩
    obtain ⟨hdone, hnext⟩ := follow_singleton_eq_ok_iff.mp hstep
    refine follow_singleton_eq_ok_iff.mpr ⟨h.enterable hdone, hnext.imp_right (Or.imp_right ?_)⟩
    rintro ⟨hhere, hup, rfl, -⟩
    refine ⟨hhere, hup, rfl, ?_⟩
    -- What follows next is the end of the steps, or else a directory.
    cases rest with
    | nil =>
      obtain rfl := Except.ok.inj hrest
      simp [h.view? hentry hcounts]
    | cons second rest =>
      obtain ⟨_, hsecond, -⟩ := follow_cons_eq_ok_iff.mp hrest
      obtain ⟨access, hdir, -⟩ := h.enterable (follow_singleton_eq_ok_iff.mp hsecond).1
      simp [hdir]

theorem mayAdd (h : Alike omitted disk other) {place : List String} {access : Access}
    (hdir : disk.view? place = some (.dir access)) : disk.mayAdd place = other.mayAdd place := by
  rw [mayAdd_eq, mayAdd_eq, hdir, h.dir hdir]

end Alike

/-! ### What is in the way -/

/-- The entry is no omitted file. -/
def Free (omitted : List String → Bool) (disk : Disk) (place : List String) : Prop :=
  ∀ text access, disk.view? place = some (.file text access) → omitted place = false

/-- No omitted file stands where the names lead past. -/
def Clear (omitted : List String → Bool) (disk : Disk) (start names : List String) : Prop :=
  ∀ place, disk.Passes start names place → disk.Free omitted place

variable {start names : List String} {disk other before after : Disk}

theorem Clear.of_isPrefix {more : List String} (h : disk.Clear omitted start more)
    (hfront : names <+: more) : disk.Clear omitted start names := by
  rintro place ⟨steps, hsteps, hfollow⟩
  exact h place ⟨steps, hsteps.trans hfront, hfollow⟩

/-- What stands in the way still does so after directories were added. -/
theorem Clear.of_adds (h : after.Clear omitted start names) (hadds : Adds start names before after) :
    before.Clear omitted start names :=
  fun place hpasses text access hentry =>
    h place (hadds.passes hpasses) text access (hadds.keeps hentry)

/-- The way to a directory is clear. -/
theorem clear_of_follow {place : List String} {access : Access}
    (hfollow : disk.follow start names = .ok place)
    (hdir : disk.view? place = some (.dir access)) : disk.Clear omitted start names := by
  rintro passed ⟨steps, ⟨rest, rfl⟩, hsteps⟩ text access' hfile
  rw [follow_append, hsteps] at hfollow
  cases rest with
  | nil =>
    obtain rfl := Except.ok.inj hfollow
    simp [hdir] at hfile
  | cons step rest =>
    obtain ⟨_, hstep, -⟩ := follow_cons_eq_ok_iff.mp hfollow
    obtain ⟨access'', hentry, -⟩ := (follow_singleton_eq_ok_iff.mp hstep).1
    simp [hentry] at hfile

/-- If the way along all names is clear, no omitted file stands where the path leads to. -/
theorem Clear.free_target {path last : String} {place : List String}
    (h : disk.Clear omitted (disk.start path) (named path))
    (htarget : disk.target path = .ok (place, last)) (hhere : last ≠ ".") (hup : last ≠ "..") :
    disk.Free omitted (place ++ [last]) := by
  intro text access hfile
  obtain ⟨hnamed, hfollow, hdir⟩ := target_eq_ok htarget hhere
  refine h _ ⟨named path, List.prefix_rfl, ?_⟩ text access hfile
  rw [hnamed, follow_append, hfollow]
  exact follow_singleton_eq_ok_iff.mpr ⟨hdir, .inr (.inr ⟨hhere, hup, rfl, by simp [hfile]⟩)⟩

/-- An omitted file that a path leads to may be changed, and its directory takes new files. -/
def Replaceable (omitted : List String → Bool) (disk : Disk) (path : String) : Prop :=
  ∀ place last, disk.target path = .ok (place, last) → omitted (place ++ [last]) = true →
    disk.mayAdd place = true ∧
      ∀ text access, disk.view? (place ++ [last]) = some (.file text access) → access.write = true

/-- At the end of the way to an omitted file stands a directory, or a text can be written there. -/
theorem Replaceable.dir_or_writable {path last : String} {place : List String}
    (h : disk.Replaceable omitted path) (htarget : disk.target path = .ok (place, last))
    (homitted : omitted (place ++ [last]) = true) :
    (∃ access, disk.view? (place ++ [last]) = some (.dir access)) ∨
      ∃ access, disk.Writable place last access := by
  obtain ⟨hadd, hwrite⟩ := h place last htarget homitted
  cases hentry : disk.view? (place ++ [last]) with
  | none => exact .inr ⟨{}, .inr ⟨hentry, hadd, rfl⟩⟩
  | some entry =>
    cases entry with
    | dir access => exact .inl ⟨access, rfl⟩
    | file text access => exact .inr ⟨access, .inl ⟨⟨text, hentry⟩, hwrite text access hentry⟩⟩

/-- The way to a file that is written is clear. -/
theorem clear_of_writeText {path text : String} (h : disk.writeText path text = .ok after) :
    disk.Clear omitted (disk.start path) (named path).dropLast := by
  obtain ⟨place, last, access, htarget, hhere, -⟩ := writeText_eq_ok_iff.mp h
  obtain ⟨-, hfollow, access', hdir, -⟩ := target_eq_ok htarget hhere
  exact clear_of_follow hfollow hdir

/-- It is so afterwards as well. -/
theorem clear_after_writeText {path text : String} (h : disk.writeText path text = .ok after) :
    after.Clear omitted (after.start path) (named path).dropLast := by
  obtain ⟨place, last, access, htarget, hhere, -, -, hwritable, rfl⟩ := writeText_eq_ok_iff.mp h
  obtain ⟨-, hfollow, access', hdir, -⟩ := target_eq_ok htarget hhere
  have hempty : (Node.file (some text) access).entries = [] := rfl
  exact clear_of_follow (follow_of_put hempty hdir hwritable.no_dir hfollow)
    (view?_put_parent hempty hdir hwritable.no_dir)

/-- The target of a path is the same after its file was written. -/
theorem target_put {path text last : String} {place : List String} {access : Access}
    (htarget : disk.target path = .ok (place, last)) (hhere : last ≠ ".")
    (hchild : ∀ access, disk.view? (place ++ [last]) ≠ some (.dir access)) :
    (disk.put (place ++ [last]) (.file (some text) access)).target path = .ok (place, last) := by
  obtain ⟨hnamed, hfollow, access', hdir, henter⟩ := target_eq_ok htarget hhere
  have hempty : (Node.file (some text) access).entries = [] := rfl
  exact target_of_follow hnamed (follow_of_put hempty hdir hchild hfollow)
    ⟨access', view?_put_parent hempty hdir hchild, henter⟩

/-- A file that was written could be written if it may be replaced afterwards. -/
theorem Replaceable.of_writeText {path text : String} (h : disk.writeText path text = .ok after)
    (hafter : after.Replaceable omitted path) : disk.Replaceable omitted path := by
  obtain ⟨place, last, access, htarget, hhere, -, -, hwritable, rfl⟩ := writeText_eq_ok_iff.mp h
  intro place' last' htarget' homitted
  obtain ⟨rfl, rfl⟩ : place = place' ∧ last = last' := by simpa [htarget] using htarget'
  obtain ⟨-, -, access', hdir, -⟩ := target_eq_ok htarget hhere
  have hempty : (Node.file (some text) access).entries = [] := rfl
  obtain ⟨hadd, -⟩ := hafter place last (target_put htarget hhere hwritable.no_dir) homitted
  rw [mayAdd_eq, view?_put_parent hempty hdir hwritable.no_dir, ← hdir, ← mayAdd_eq] at hadd
  refine ⟨hadd, fun old access'' hold => ?_⟩
  rcases hwritable with ⟨⟨old', hold'⟩, hwrite⟩ | ⟨hnone, -⟩
  · rw [hold'] at hold
    simp only [Option.some.injEq, Entry.file.injEq] at hold
    exact hold.2 ▸ hwrite
  · simp [hnone] at hold

/-- A file that was written is no matter if it stands at no omitted place. -/
theorem replaceable_after_writeText {path text : String}
    (h : disk.writeText path text = .ok after)
    (hplace : ∀ place, after.locate path = .ok place → omitted place = false) :
    after.Replaceable omitted path := by
  obtain ⟨place, last, access, htarget, hhere, hup, -, hwritable, rfl⟩ := writeText_eq_ok_iff.mp h
  intro place' last' htarget' homitted
  rw [target_put htarget hhere hwritable.no_dir] at htarget'
  obtain ⟨rfl, rfl⟩ : place = place' ∧ last = last' := by simpa using htarget'
  have hlocate : (disk.put (place ++ [last]) (.file (some text) access)).locate path =
      .ok (place ++ [last]) :=
    locate_put rfl htarget hhere hup hwritable.no_dir
  simp [hplace _ hlocate] at homitted

/-- No omitted file is in the way of writing the one that a path leads to. -/
structure WayIsClear (omitted : List String → Bool) (disk : Disk) (path : String) : Prop where
  clear : disk.Clear omitted (disk.start path) (named path).dropLast
  replaceable : disk.Replaceable omitted path

theorem WayIsClear.of_writeText {path text : String} (h : disk.writeText path text = .ok after)
    (hafter : after.WayIsClear omitted path) : disk.WayIsClear omitted path :=
  ⟨clear_of_writeText h, hafter.replaceable.of_writeText h⟩

theorem wayIsClear_after_writeText {path text : String}
    (h : disk.writeText path text = .ok after)
    (hplace : ∀ place, after.locate path = .ok place → omitted place = false) :
    after.WayIsClear omitted path :=
  ⟨clear_after_writeText h, replaceable_after_writeText h hplace⟩

namespace Alike

/-- Where neither has an omitted file, the entries are equal. -/
theorem view?_eq (h : Alike omitted disk other) {place : List String}
    (hdisk : disk.Free omitted place) (hother : other.Free omitted place) :
    disk.view? place = other.view? place := by
  have hseen : ∀ d : Disk, d.Free omitted place →
      (d.view? place).filter (Entry.counts omitted place) = d.view? place := by
    intro d hd
    cases hentry : d.view? place with
    | none => rfl
    | some entry =>
      refine Option.filter_some_pos ?_
      cases entry with
      | dir access => rfl
      | file text access => simp [Entry.counts, hd text access hentry]
  rw [← hseen disk hdisk, ← hseen other hother, h.entries place]

/-- One step has the same result, if no omitted file stands where it starts and ends. -/
theorem follow_singleton_eq (h : Alike omitted disk other) {done : List String} {step : String}
    (hdone : disk.view? done = other.view? done)
    (hdisk : ∀ place, disk.follow done [step] = .ok place → disk.Free omitted place)
    (hother : ∀ place, other.follow done [step] = .ok place → other.Free omitted place) :
    disk.follow done [step] = other.follow done [step] := by
  by_cases hname : disk.Enterable done ∧ step ≠ "." ∧ step ≠ ".."
  · -- Only here the step needs something to be there.
    obtain ⟨hdir, hhere, hup⟩ := hname
    have hfree : ∀ d : Disk, d.Enterable done →
        (∀ place, d.follow done [step] = .ok place → d.Free omitted place) →
        d.Free omitted (done ++ [step]) := by
      intro d hd hclear text access hfile
      refine hclear _ (follow_singleton_eq_ok_iff.mpr ⟨hd, .inr (.inr ?_)⟩) text access hfile
      exact ⟨hhere, hup, rfl, by simp [hfile]⟩
    have hchild := h.view?_eq (hfree disk hdir hdisk) (hfree other (h.enterable hdir) hother)
    rw [follow_cons, follow_cons, hdone, hchild]
    rfl
  · rw [follow_cons, follow_cons, hdone]
    cases hentry : other.view? done with
    | none => rfl
    | some entry =>
      cases entry with
      | file text access => rfl
      | dir access =>
        cases henter : access.enter with
        | false => simp [henter]
        | true =>
          have hdir : disk.Enterable done := ⟨access, hdone.trans hentry, henter⟩
          obtain rfl | rfl : step = "." ∨ step = ".." := by tauto
          · simp [henter]
          · simp [henter]

/-- Steps have the same result, if no omitted file stands in their way. -/
theorem follow_eq (h : Alike omitted disk other) {steps done : List String}
    (hdisk : disk.Clear omitted done steps) (hother : other.Clear omitted done steps) :
    disk.follow done steps = other.follow done steps := by
  induction steps generalizing done with
  | nil => rfl
  | cons step rest ih =>
    have hfirst : [step] <+: step :: rest := ⟨rest, rfl⟩
    have hstart : ∀ d : Disk, d.Passes done (step :: rest) done := fun d =>
      ⟨[], List.nil_prefix, rfl⟩
    have hdone := h.view?_eq (hdisk done (hstart disk)) (hother done (hstart other))
    have hstep := h.follow_singleton_eq hdone
      (fun place hplace => hdisk place ⟨[step], hfirst, hplace⟩)
      (fun place hplace => hother place ⟨[step], hfirst, hplace⟩)
    rw [← List.singleton_append, follow_append, follow_append, hstep]
    cases hnext : other.follow done [step] with
    | error fault => rfl
    | ok next =>
      refine ih ?_ ?_
      · rintro place ⟨passed, hpassed, hplace⟩
        exact hdisk place ⟨step :: passed, (List.prefix_cons_inj step).mpr hpassed,
          follow_cons_eq_ok_iff.mpr ⟨next, hstep.trans hnext, hplace⟩⟩
      · rintro place ⟨passed, hpassed, hplace⟩
        exact hother place ⟨step :: passed, (List.prefix_cons_inj step).mpr hpassed,
          follow_cons_eq_ok_iff.mpr ⟨next, hnext, hplace⟩⟩

/-! ### Changing both -/

/-- Both attempts fail in the same way, or leave disks that look alike. -/
def SameResult (omitted : List String → Bool) :
    Except FileFault Disk → Except FileFault Disk → Prop
  | .ok disk, .ok other => Alike omitted disk other
  | .error fault, .error fault' => fault = fault'
  | _, _ => False

theorem SameResult.cases {x y : Except FileFault Disk} (h : SameResult omitted x y) :
    (∃ after after', x = .ok after ∧ y = .ok after' ∧ Alike omitted after after') ∨
      ∃ fault, x = .error fault ∧ y = .error fault := by
  cases x with
  | ok after =>
    cases y with
    | ok after' => exact .inl ⟨after, after', rfl, rfl, h⟩
    | error _ => exact h.elim
  | error fault =>
    cases y with
    | ok _ => exact h.elim
    | error fault' => exact .inr ⟨fault, rfl, congrArg Except.error h.symm⟩

/-- Two changes that have the same result so far go on in the same way. -/
theorem thenChange {ε : Type} {change : Disk → Except ε Unit × Disk}
    {done done' : Except ε Unit × Disk} (h : done.1 = done'.1 ∧ Alike omitted done.2 done'.2)
    (hchange : done.1 = .ok () → (change done.2).1 = (change done'.2).1 ∧
      Alike omitted (change done.2).2 (change done'.2).2) :
    (Disk.thenChange change done).1 = (Disk.thenChange change done').1 ∧
      Alike omitted (Disk.thenChange change done).2 (Disk.thenChange change done').2 := by
  obtain ⟨result, middle⟩ := done
  obtain ⟨result', middle'⟩ := done'
  obtain ⟨rfl, halike⟩ : result = result' ∧ Alike omitted middle middle' := h
  cases result with
  | ok _ => exact hchange rfl
  | error e => exact ⟨rfl, halike⟩

theorem isDir_of_isDir (h : Alike omitted disk other) {path : String}
    (hdir : disk.isDir path = true) : other.isDir path = true := by
  obtain ⟨place, access, hlocate, hentry⟩ := isDir_iff.mp hdir
  obtain ⟨hempty, hfollow⟩ := locate_eq_ok_iff.mp hlocate
  refine isDir_iff.mpr ⟨place, access, locate_eq_ok_iff.mpr ⟨hempty, ?_⟩, h.dir hentry⟩
  exact h.start path ▸ h.follow hfollow hentry rfl

theorem isDir (h : Alike omitted disk other) (path : String) : disk.isDir path = other.isDir path :=
  Bool.eq_iff_iff.mpr ⟨h.isDir_of_isDir, h.symm.isDir_of_isDir⟩

/-- What is put at the same place looks alike, if it is the same or does not count. -/
theorem put (h : Alike omitted disk other) {node node' : Node} (hnode : node.entries = [])
    (hnode' : node'.entries = []) {parent : List String} {name : String} {access : Access}
    (hparent : disk.view? parent = some (.dir access))
    (hchild : ∀ access, disk.view? (parent ++ [name]) ≠ some (.dir access))
    (hsame : (some node.toEntry).filter (Entry.counts omitted (parent ++ [name])) =
      (some node'.toEntry).filter (Entry.counts omitted (parent ++ [name]))) :
    Alike omitted (disk.put (parent ++ [name]) node) (other.put (parent ++ [name]) node') := by
  have hother : ∀ access, other.view? (parent ++ [name]) ≠ some (.dir access) :=
    fun access hdir => hchild access (h.symm.dir hdir)
  refine ⟨h.here, fun place => ?_⟩
  rw [view?_put hnode hparent hchild, view?_put hnode' (h.dir hparent) hother]
  split
  · next hplace => rw [hplace, hsame]
  · exact h.entries place

/-- The same text at the same place looks alike, if the files have the same access or do not count. -/
theorem put_file (h : Alike omitted disk other) {parent : List String} {name : String}
    {dirAccess access access' : Access} (hparent : disk.view? parent = some (.dir dirAccess))
    (hchild : ∀ access, disk.view? (parent ++ [name]) ≠ some (.dir access)) (text : String)
    (hsame : omitted (parent ++ [name]) = true ∨ access = access') :
    Alike omitted (disk.put (parent ++ [name]) (.file (some text) access))
      (other.put (parent ++ [name]) (.file (some text) access')) := by
  refine h.put rfl rfl hparent hchild ?_
  rcases hsame with homitted | rfl
  · simp [Node.toEntry, Entry.counts, homitted, Option.filter_some]
  · rfl

theorem target (h : Alike omitted disk other) {path : String}
    (hdisk : disk.Clear omitted (disk.start path) (named path).dropLast)
    (hother : other.Clear omitted (other.start path) (named path).dropLast) :
    disk.target path = other.target path := by
  rw [← h.start path] at hother
  have hfollow := h.follow_eq hdisk hother
  rw [target_eq, target_eq, ← h.start path, hfollow]
  cases hplace : other.follow (disk.start path) (named path).dropLast with
  | error fault => rfl
  | ok place =>
    have hentry := h.view?_eq (hdisk place ⟨_, List.prefix_rfl, hfollow.trans hplace⟩)
      (hother place ⟨_, List.prefix_rfl, hplace⟩)
    simp only [ok_bind, hentry]

theorem makeDir (h : Alike omitted disk other) {path : String}
    (hdisk : disk.Clear omitted (disk.start path) (named path))
    (hother : other.Clear omitted (other.start path) (named path)) :
    SameResult omitted (disk.makeDir path) (other.makeDir path) := by
  have htarget := h.target (hdisk.of_isPrefix (List.dropLast_prefix _))
    (hother.of_isPrefix (List.dropLast_prefix _))
  rw [makeDir_eq, makeDir_eq, htarget]
  cases hplace : other.target path with
  | error fault => exact rfl
  | ok found =>
    obtain ⟨place, last⟩ := found
    simp only [ok_bind]
    by_cases hname : last = "." ∨ last = ".."
    · rw [if_pos (by tauto), if_pos (by tauto)]
      exact rfl
    · rw [not_or] at hname
      have hchild := h.view?_eq (hdisk.free_target (htarget.trans hplace) hname.1 hname.2)
        (hother.free_target hplace hname.1 hname.2)
      obtain ⟨-, -, access, hdir, -⟩ := target_eq_ok (htarget.trans hplace) hname.1
      rw [hchild, h.mayAdd hdir]
      split
      · exact rfl
      · next hnone =>
        rw [not_or, not_or, Option.not_isSome_iff_eq_none, ← hchild] at hnone
        split
        · exact h.put rfl rfl hdir (by simp [hnone.2.2]) rfl
        · exact rfl

/-- A file that does not count can be written on both disks, or a directory stands in its place. -/
theorem writeText_of_omitted (h : Alike omitted disk other) {path last : String}
    {place : List String} (text : String) (htarget : disk.target path = .ok (place, last))
    (htarget' : other.target path = .ok (place, last))
    (hname : last ≠ "." ∧ last ≠ ".." ∧ endsWith "/" path = false)
    (homitted : omitted (place ++ [last]) = true) (hdisk : disk.Replaceable omitted path)
    (hother : other.Replaceable omitted path) :
    SameResult omitted (disk.writeText path text) (other.writeText path text) := by
  obtain ⟨hhere, hup, hslash⟩ := hname
  obtain ⟨-, -, access, hdir, -⟩ := target_eq_ok htarget hhere
  rcases hdisk.dir_or_writable htarget homitted with ⟨access', hdir'⟩ | ⟨access', hwritable⟩
  · rw [writeText_of_target htarget, writeText_of_target htarget', hdir', h.dir hdir']
    split <;> exact rfl
  · rcases hother.dir_or_writable htarget' homitted with ⟨_, hdir'⟩ | ⟨_, hwritable'⟩
    · exact absurd (h.symm.dir hdir') (hwritable.no_dir _)
    · rw [writeText_eq_ok_iff.mpr ⟨_, _, _, htarget, hhere, hup, hslash, hwritable, rfl⟩,
        writeText_eq_ok_iff.mpr ⟨_, _, _, htarget', hhere, hup, hslash, hwritable', rfl⟩]
      exact h.put_file hdir hwritable.no_dir text (.inl homitted)

/-- Writing has the same result, if no omitted file is in the way. -/
theorem writeText (h : Alike omitted disk other) {path : String} (text : String)
    (hdisk : disk.WayIsClear omitted path) (hother : other.WayIsClear omitted path) :
    SameResult omitted (disk.writeText path text) (other.writeText path text) := by
  have htarget := h.target hdisk.clear hother.clear
  cases hplace' : other.target path with
  | error fault =>
    rw [writeText_of_error (htarget.trans hplace'), writeText_of_error hplace']
    exact rfl
  | ok found =>
    obtain ⟨place, last⟩ := found
    have hplace : disk.target path = .ok (place, last) := htarget.trans hplace'
    by_cases hname : last = "." ∨ last = ".." ∨ endsWith "/" path = true
    · rw [writeText_of_target hplace, writeText_of_target hplace', if_pos hname, if_pos hname]
      exact rfl
    · have hproper : last ≠ "." ∧ last ≠ ".." ∧ endsWith "/" path = false := by
        simpa [not_or] using hname
      by_cases homitted : omitted (place ++ [last]) = true
      · exact h.writeText_of_omitted text hplace hplace' hproper homitted hdisk.replaceable
          hother.replaceable
      · have hfree : ∀ d : Disk, d.Free omitted (place ++ [last]) := fun _ _ _ _ => by
          simpa using homitted
        obtain ⟨-, -, access, hdir, -⟩ := target_eq_ok hplace hproper.1
        rw [writeText_of_target hplace, writeText_of_target hplace', if_neg hname, if_neg hname,
          ← h.view?_eq (hfree disk) (hfree other), ← h.mayAdd hdir]
        split
        · exact rfl
        · next old access' hold =>
          split
          · exact h.put_file hdir (by simp [hold]) text (.inr rfl)
          · exact rfl
        · next hnone =>
          split
          · exact h.put_file hdir (by simp [hnone]) text (.inr rfl)
          · exact rfl

theorem ensureDir (h : Alike omitted disk other) {path : String}
    (hdisk : disk.Clear omitted (disk.start path) (named path))
    (hother : other.Clear omitted (other.start path) (named path)) :
    (disk.ensureDir path).1 = (other.ensureDir path).1 ∧
      Alike omitted (disk.ensureDir path).2 (other.ensureDir path).2 := by
  have hsame := h.makeDir hdisk hother
  rw [Disk.ensureDir, Disk.ensureDir]
  split
  · exact ⟨rfl, h⟩
  · obtain ⟨made, made', hmake, hmake', halike⟩ | ⟨fault, hmake, hmake'⟩ := hsame.cases
    · rw [hmake, hmake']
      exact ⟨rfl, halike⟩
    · rw [hmake, hmake', h.isDir]
      exact ⟨rfl, h⟩

theorem missingParent? (h : Alike omitted disk other) {path : String}
    (hdisk : disk.Clear omitted (disk.start path) (named path))
    (hother : other.Clear omitted (other.start path) (named path)) :
    disk.missingParent? path = other.missingParent? path := by
  have hsame := h.makeDir hdisk hother
  rw [Disk.missingParent?, Disk.missingParent?]
  obtain ⟨made, made', hmake, hmake', -⟩ | ⟨fault, hmake, hmake'⟩ := hsame.cases
  · rw [hmake, hmake']
  · rw [hmake, hmake']

/-- Making directories has the same result, if in the end no omitted file stands in the way. -/
theorem makeDirs (h : Alike omitted disk other) (fuel : Nat) {path : String}
    (hdisk : (disk.makeDirs fuel path).2.Clear omitted (disk.start path) (named path))
    (hother : (other.makeDirs fuel path).2.Clear omitted (other.start path) (named path)) :
    (disk.makeDirs fuel path).1 = (other.makeDirs fuel path).1 ∧
      Alike omitted (disk.makeDirs fuel path).2 (other.makeDirs fuel path).2 := by
  have hclear := hdisk.of_adds (adds_makeDirs fuel path disk)
  have hclear' := hother.of_adds (adds_makeDirs fuel path other)
  induction fuel generalizing path with
  | zero => exact h.ensureDir hclear hclear'
  | succ fuel ih =>
    have hmissing := h.missingParent? hclear hclear'
    rw [Disk.makeDirs, hmissing] at hdisk ⊢
    rw [Disk.makeDirs] at hother ⊢
    cases hparent : other.missingParent? path with
    | none => exact h.ensureDir hclear hclear'
    | some parent =>
      simp only [hparent] at hdisk hother ⊢
      have hup := parent?_of_missingParent? hparent
      have hfront := (named_of_parent? hup).trans (List.dropLast_prefix _)
      have hstart := start_of_parent? disk hup
      have hstart' := start_of_parent? other hup
      -- Directories are only added, so the way was clear at each point before.
      have hadds := adds_makeDirs fuel parent disk
      have hadds' := adds_makeDirs fuel parent other
      have hmiddle : (disk.makeDirs fuel parent).2.Clear omitted (disk.start path) (named path) :=
        hdisk.of_adds (adds_thenEnsureDir hadds.here)
      have hmiddle' :
          (other.makeDirs fuel parent).2.Clear omitted (other.start path) (named path) :=
        hother.of_adds (adds_thenEnsureDir hadds'.here)
      have hfirst := hstart.symm ▸ hmiddle.of_isPrefix hfront
      have hfirst' := hstart'.symm ▸ hmiddle'.of_isPrefix hfront
      have hparents := ih hfirst hfirst' (hfirst.of_adds hadds) (hfirst'.of_adds hadds')
      refine thenChange hparents fun _ => hparents.2.ensureDir ?_ ?_
      · rwa [start_eq_of_here hadds.here]
      · rwa [start_eq_of_here hadds'.here]

end Alike

end Disk

end AnnotatedApi
