import AnnotatedApi.Proofs.Disk.Tree

/-!
What making directories and writing a file change.

* `Disk.adds_makeDirs` — making directories only adds directories on the way, also where it fails;
* `Disk.writes_of_writeText` — a file that is written holds the text, and everything else stays as it
  is, apart from directories on the way.
-/

namespace AnnotatedApi.Disk

open Text

/-! ### Adding directories on the way -/

/-- The names lead past the place, one after the other. -/
def Passes (disk : Disk) (start names place : List String) : Prop :=
  ∃ steps, steps <+: names ∧ disk.follow start steps = .ok place

/-- Everything stays as it is, apart from new directories that the names lead past. -/
structure Adds (start names : List String) (before after : Disk) : Prop where
  here : after.here = before.here
  entries : ∀ place, after.view? place = before.view? place ∨
    before.view? place = none ∧ after.view? place = some (.dir {}) ∧ after.Passes start names place

variable {start names : List String} {disk before middle after : Disk}

theorem Adds.refl (start names : List String) (disk : Disk) : Adds start names disk disk :=
  ⟨rfl, fun _ => .inl rfl⟩

/-- No entry is lost. -/
theorem Adds.keeps (h : Adds start names before after) {place : List String} {entry : Entry}
    (hentry : before.view? place = some entry) : after.view? place = some entry := by
  rcases h.entries place with hsame | ⟨hnone, -⟩
  · rw [hsame, hentry]
  · rw [hnone] at hentry
    simp at hentry

theorem Adds.follow (h : Adds start names before after) {done steps place : List String}
    (hfollow : before.follow done steps = .ok place) : after.follow done steps = .ok place :=
  follow_mono (fun _ _ => h.keeps)
    (fun _ hsome => by
      obtain ⟨entry, hentry⟩ := Option.isSome_iff_exists.mp hsome
      simp [h.keeps hentry])
    hfollow

theorem Adds.passes (h : Adds start names before after) {place : List String}
    (hpasses : before.Passes start names place) : after.Passes start names place := by
  obtain ⟨steps, hfront, hfollow⟩ := hpasses
  exact ⟨steps, hfront, h.follow hfollow⟩

theorem Adds.trans (h : Adds start names before middle) (h' : Adds start names middle after) :
    Adds start names before after := by
  refine ⟨h'.here.trans h.here, fun place => ?_⟩
  rcases h.entries place with hsame | ⟨hnone, hdir, hpasses⟩
  · rw [← hsame]
    exact h'.entries place
  · exact .inr ⟨hnone, h'.keeps hdir, h'.passes hpasses⟩

theorem Adds.of_isPrefix {more : List String} (hfront : names <+: more)
    (h : Adds start names before after) : Adds start more before after := by
  refine ⟨h.here, fun place => (h.entries place).imp_right ?_⟩
  rintro ⟨hnone, hdir, steps, hsteps, hfollow⟩
  exact ⟨hnone, hdir, steps, hsteps.trans hfront, hfollow⟩

/-! ### What making directories does -/

/-- The target of a path, by what stands there. -/
theorem target_eq (disk : Disk) (path : String) :
    disk.target path =
      match (named path).getLast? with
      | none => if path.isEmpty then .error .notFound else .ok ([], ".")
      | some last =>
        disk.follow (disk.start path) (named path).dropLast >>= fun place =>
          match disk.view? place with
          | some (.dir access) => if access.enter then .ok (place, last) else .error .denied
          | some (.file _ _) => .error .notDirectory
          | none => .error .notFound := by
  rw [target]
  cases (named path).getLast? with
  | none => rfl
  | some last =>
    cases disk.follow (disk.start path) (named path).dropLast with
    | error fault => rfl
    | ok place =>
      simp only [ok_bind, view?, Node.view?]
      cases disk.root.at? place with
      | none => rfl
      | some node => cases node <;> rfl

/-- The target of a path is a directory that one may go through, and the last name of the path. -/
theorem target_eq_ok {path last : String} {place : List String}
    (h : disk.target path = .ok (place, last)) (hhere : last ≠ ".") :
    named path = (named path).dropLast ++ [last] ∧
      disk.follow (disk.start path) (named path).dropLast = .ok place ∧ disk.Enterable place := by
  rw [target_eq] at h
  split at h
  · split at h
    · simp at h
    · simp [Ne.symm hhere] at h
  · next found hlast =>
    obtain ⟨front, hfront, h⟩ := bind_eq_ok_iff.mp h
    split at h
    · next access hdir =>
      split at h
      · next henter =>
        obtain ⟨rfl, rfl⟩ := Prod.mk.inj (Except.ok.inj h)
        exact ⟨(List.dropLast_append_getLast? _ hlast).symm, hfront, access, hdir, henter⟩
      · simp at h
    · simp at h
    · simp at h

theorem target_of_follow {path last : String} {place : List String}
    (hnamed : named path = (named path).dropLast ++ [last])
    (hfollow : disk.follow (disk.start path) (named path).dropLast = .ok place)
    (hplace : disk.Enterable place) : disk.target path = .ok (place, last) := by
  obtain ⟨access, hdir, henter⟩ := hplace
  have hlast : (named path).getLast? = some last := by rw [hnamed, List.getLast?_concat]
  rw [target_eq, hlast, hfollow]
  simp [hdir, henter]

/-- Making a directory, by what stands where it is to be. -/
theorem makeDir_eq (disk : Disk) (path : String) :
    disk.makeDir path = disk.target path >>= fun (place, last) =>
      if last = "." ∨ last = ".." ∨ (disk.view? (place ++ [last])).isSome then
        .error .alreadyExists
      else if disk.mayAdd place then .ok (disk.put (place ++ [last]) (.dir []))
      else .error .denied := by
  rw [makeDir]
  cases disk.target path with
  | error fault => rfl
  | ok found =>
    obtain ⟨place, last⟩ := found
    simp only [ok_bind, isSome_view?, Bool.or_eq_true, beq_iff_eq, or_assoc,
      throw_eq_error, pure_eq_ok]
    split <;> rfl

/-- A directory that is made stands below the target of its path, where nothing stood. -/
theorem makeDir_eq_ok {path : String} (h : disk.makeDir path = .ok after) :
    ∃ place last, disk.target path = .ok (place, last) ∧ last ≠ "." ∧ last ≠ ".." ∧
      disk.view? (place ++ [last]) = none ∧ after = disk.put (place ++ [last]) (.dir []) := by
  rw [makeDir_eq] at h
  obtain ⟨⟨place, last⟩, htarget, h⟩ := bind_eq_ok_iff.mp h
  dsimp only at h
  split at h
  · simp at h
  · next hfree =>
    split at h
    · rw [not_or, not_or, Option.not_isSome_iff_eq_none] at hfree
      exact ⟨place, last, htarget, hfree.1, hfree.2.1, hfree.2.2, (Except.ok.inj h).symm⟩
    · simp at h

section Put

variable {node : Node} {parent : List String} {name : String}

@[simp] theorem start_put (disk : Disk) (place : List String) (node : Node) (path : String) :
    (disk.put place node).start path = disk.start path :=
  rfl

/-- Steps lead to the same place after a file or an empty directory was put somewhere. -/
theorem follow_of_put (hnode : node.entries = []) {access : Access}
    (hparent : disk.view? parent = some (.dir access))
    (hchild : ∀ access, disk.view? (parent ++ [name]) ≠ some (.dir access))
    {done steps place : List String} (h : disk.follow done steps = .ok place) :
    (disk.put (parent ++ [name]) node).follow done steps = .ok place := by
  have hentry := view?_put hnode hparent hchild
  refine follow_mono (fun other access hother => ?_) (fun other hother => ?_) h
  · rw [hentry, if_neg (by rintro rfl; exact hchild access hother), hother]
  · rw [hentry]
    split
    · rfl
    · exact hother

/-- What is put below a target can be reached by the path of the target. -/
theorem follow_put (hnode : node.entries = []) {path last : String} {place : List String}
    (htarget : disk.target path = .ok (place, last)) (hhere : last ≠ ".") (hup : last ≠ "..")
    (hchild : ∀ access, disk.view? (place ++ [last]) ≠ some (.dir access)) :
    (disk.put (place ++ [last]) node).follow (disk.start path) (named path) =
      .ok (place ++ [last]) := by
  obtain ⟨hnamed, hfollow, access, hdir, henter⟩ := target_eq_ok htarget hhere
  have hplace : (disk.put (place ++ [last]) node).Enterable place :=
    ⟨access, view?_put_parent hnode hdir hchild, henter⟩
  have hlast : ((disk.put (place ++ [last]) node).view? (place ++ [last])).isSome = true := by
    rw [view?_put hnode hdir hchild, if_pos rfl, Option.isSome_some]
  have hstep : (disk.put (place ++ [last]) node).follow place [last] = .ok (place ++ [last]) :=
    follow_singleton_eq_ok_iff.mpr ⟨hplace, .inr (.inr ⟨hhere, hup, rfl, hlast⟩)⟩
  rw [hnamed, follow_append, follow_of_put hnode hdir hchild hfollow]
  exact hstep

end Put

/-- Making a directory adds it. -/
theorem adds_of_makeDir {path : String} (h : disk.makeDir path = .ok after) :
    Adds (disk.start path) (named path) disk after := by
  obtain ⟨place, last, htarget, hhere, hup, hfree, rfl⟩ := makeDir_eq_ok h
  obtain ⟨-, -, access, hdir, -⟩ := target_eq_ok htarget hhere
  have hchild : ∀ access, disk.view? (place ++ [last]) ≠ some (.dir access) := by simp [hfree]
  have hempty : (Node.dir []).entries = [] := rfl
  have hentry := view?_put hempty hdir hchild
  refine ⟨rfl, fun other => ?_⟩
  by_cases hother : other = place ++ [last]
  · subst hother
    exact .inr ⟨hfree, by rw [hentry, if_pos rfl]; rfl, named path, List.prefix_rfl,
      follow_put rfl htarget hhere hup hchild⟩
  · exact .inl (by rw [hentry, if_neg hother])

theorem adds_ensureDir (path : String) (disk : Disk) :
    Adds (disk.start path) (named path) disk (disk.ensureDir path).2 := by
  rw [ensureDir]
  split
  · exact .refl _ _ _
  · cases hmake : disk.makeDir path with
    | ok after => exact adds_of_makeDir hmake
    | error fault => exact .refl _ _ _

theorem start_eq_of_here {other : Disk} (h : other.here = disk.here) (path : String) :
    other.start path = disk.start path := by
  rw [Disk.start, Disk.start, h]

theorem parent?_of_missingParent? {path parent : String}
    (h : disk.missingParent? path = some parent) : Path.parent? path = some parent := by
  rw [missingParent?] at h
  split at h
  · exact h
  · simp at h

/-- Directories are added behind others. -/
theorem adds_thenEnsureDir {path : String} {done : Except FileFault Unit × Disk}
    (h : done.2.here = disk.here) :
    Adds (disk.start path) (named path) done.2 (thenChange (Disk.ensureDir path) done).2 := by
  obtain ⟨result, middle⟩ := done
  cases result with
  | ok _ => exact start_eq_of_here h path ▸ adds_ensureDir path middle
  | error e => exact .refl _ _ _

/-- Making directories only adds directories on the way, also where it fails. -/
theorem adds_makeDirs (fuel : Nat) (path : String) (disk : Disk) :
    Adds (disk.start path) (named path) disk (disk.makeDirs fuel path).2 := by
  induction fuel generalizing path with
  | zero => exact adds_ensureDir path disk
  | succ fuel ih =>
    rw [makeDirs]
    cases hmissing : disk.missingParent? path with
    | none => exact adds_ensureDir path disk
    | some parent =>
      have hparent := parent?_of_missingParent? hmissing
      have hfront := (named_of_parent? hparent).trans (List.dropLast_prefix _)
      have hparents := start_of_parent? disk hparent ▸ (ih parent).of_isPrefix hfront
      exact hparents.trans (adds_thenEnsureDir hparents.here)

/-! ### What writing a file does -/

theorem writeText_of_error {path text : String} {fault : FileFault}
    (h : disk.target path = .error fault) : disk.writeText path text = .error fault := by
  rw [writeText, h]
  rfl

/-- Writing a file, by what stands where it is to be. -/
theorem writeText_of_target {path text last : String} {place : List String}
    (htarget : disk.target path = .ok (place, last)) :
    disk.writeText path text =
      if last = "." ∨ last = ".." ∨ endsWith "/" path = true then .error .isDirectory
      else match disk.view? (place ++ [last]) with
        | some (.dir _) => .error .isDirectory
        | some (.file _ access) =>
          if access.write then .ok (disk.put (place ++ [last]) (.file (some text) access))
          else .error .denied
        | none =>
          if disk.mayAdd place then .ok (disk.put (place ++ [last]) (.file (some text)))
          else .error .denied := by
  rw [writeText, htarget]
  simp only [ok_bind, throw_eq_error, pure_eq_ok, Bool.or_eq_true, beq_iff_eq, or_assoc]
  split
  · rfl
  · rw [view?, Node.view?]
    cases disk.root.at? (place ++ [last]) with
    | none => rfl
    | some node => cases node <;> rfl

/-- Writing finds a file that it may change, or a place where it may add one. A new file has no
restrictions. -/
def Writable (disk : Disk) (place : List String) (last : String) (access : Access) : Prop :=
  (∃ old, disk.view? (place ++ [last]) = some (.file old access)) ∧ access.write = true ∨
    disk.view? (place ++ [last]) = none ∧ disk.mayAdd place = true ∧ access = {}

theorem Writable.no_dir {place : List String} {last : String} {access : Access}
    (h : disk.Writable place last access) (access' : Access) :
    disk.view? (place ++ [last]) ≠ some (.dir access') := by
  rcases h with ⟨⟨old, hold⟩, -⟩ | ⟨hnone, -⟩
  · simp [hold]
  · simp [hnone]

/-- A file that is written stands below the target of its path. -/
theorem writeText_eq_ok_iff {path text : String} :
    disk.writeText path text = .ok after ↔
      ∃ place last access, disk.target path = .ok (place, last) ∧ last ≠ "." ∧ last ≠ ".." ∧
        endsWith "/" path = false ∧ disk.Writable place last access ∧
        after = disk.put (place ++ [last]) (.file (some text) access) := by
  constructor
  · intro h
    cases htarget : disk.target path with
    | error fault => simp [writeText_of_error htarget] at h
    | ok found =>
      obtain ⟨place, last⟩ := found
      rw [writeText_of_target htarget] at h
      split at h
      · simp at h
      · next hname =>
        rw [not_or, not_or, Bool.not_eq_true] at hname
        obtain ⟨hhere, hup, hslash⟩ := hname
        refine ⟨place, last, ?_⟩
        split at h
        · simp at h
        · next old access hold =>
          split at h
          · next hwrite =>
            exact ⟨access, rfl, hhere, hup, hslash, .inl ⟨⟨old, hold⟩, hwrite⟩,
              (Except.ok.inj h).symm⟩
          · simp at h
        · next hnone =>
          split at h
          · next hadd =>
            exact ⟨{}, rfl, hhere, hup, hslash, .inr ⟨hnone, hadd, rfl⟩, (Except.ok.inj h).symm⟩
          · simp at h
  · rintro ⟨place, last, access, htarget, hhere, hup, hslash, hwritable, rfl⟩
    rw [writeText_of_target htarget, if_neg (by simp [hhere, hup, hslash])]
    rcases hwritable with ⟨⟨old, hold⟩, hwrite⟩ | ⟨hnone, hadd, rfl⟩
    · simp [hold, hwrite]
    · simp [hnone, hadd]

/-- The file that `path` leads to holds the text, which is what reading it gives if it may be read,
and everything else stays as it is, apart from new directories on the way to it. -/
def Writes (path text : String) (before after : Disk) : Prop :=
  after.here = before.here ∧
    ∃ place access, after.locate path = .ok place ∧
      after.view? place = some (.file (some text) access) ∧
      (access.read = true → after.readText path = .ok text) ∧
      ∀ other, other ≠ place → after.view? other = before.view? other ∨
        before.view? other = none ∧ after.view? other = some (.dir {}) ∧
          after.Passes (after.start path) (named path).dropLast other

/-- The path of a target leads to what is put there. -/
theorem locate_put {node : Node} (hnode : node.entries = []) {path last : String}
    {place : List String} (htarget : disk.target path = .ok (place, last)) (hhere : last ≠ ".")
    (hup : last ≠ "..") (hchild : ∀ access, disk.view? (place ++ [last]) ≠ some (.dir access)) :
    (disk.put (place ++ [last]) node).locate path = .ok (place ++ [last]) := by
  refine locate_eq_ok_iff.mpr ⟨?_, follow_put hnode htarget hhere hup hchild⟩
  obtain ⟨hnamed, -⟩ := target_eq_ok htarget hhere
  cases hpath : path.isEmpty with
  | false => rfl
  | true => simp [String.isEmpty_iff.mp hpath] at hnamed

/-- Writing a file after directories were added. -/
theorem writes_of_writeText {path text : String}
    (hadds : Adds (disk.start path) (named path).dropLast before disk)
    (h : disk.writeText path text = .ok after) : Writes path text before after := by
  obtain ⟨place, last, access, htarget, hhere, hup, hslash, hwritable, rfl⟩ :=
    writeText_eq_ok_iff.mp h
  have hchild := hwritable.no_dir
  obtain ⟨-, -, access', hdir, -⟩ := target_eq_ok htarget hhere
  have hempty : (Node.file (some text) access).entries = [] := rfl
  have hentry := view?_put hempty hdir hchild
  have hfile : (disk.put (place ++ [last]) (.file (some text) access)).view? (place ++ [last]) =
      some (.file (some text) access) := (hentry _).trans (if_pos rfl)
  have hlocate : (disk.put (place ++ [last]) (.file (some text) access)).locate path =
      .ok (place ++ [last]) :=
    locate_put hempty htarget hhere hup hchild
  refine ⟨hadds.here, place ++ [last], access, hlocate, hfile, fun hread => ?_, fun other hother => ?_⟩
  · refine readText_eq_ok_iff.mpr ⟨access, node?_eq_ok_iff.mpr ⟨_, hlocate, ?_, ?_⟩, hread⟩
    · exact Node.at?_eq_some_file hfile
    · exact fun _ _ _ => hslash
  · rw [hentry, if_neg hother]
    -- Elsewhere only the directories are new, and the steps that pass them still do.
    refine (hadds.entries other).imp_right ?_
    rintro ⟨hnone, hnew, names, hfront, hpasses⟩
    exact ⟨hnone, hnew, names, hfront, follow_of_put rfl hdir hchild hpasses⟩

end AnnotatedApi.Disk
