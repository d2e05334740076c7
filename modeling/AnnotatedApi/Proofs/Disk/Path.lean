import AnnotatedApi.Disk.Basic
import AnnotatedApi.Proofs.Text
import Mathlib.Data.List.Infix

/-!
The names in a path, and where it starts.

* `Disk.named_append_slash` — a slash separates the names before it from those after it;
* `Disk.named_join`, `Disk.start_join` — the path of an entry starts where that of its directory
  does, and has one name more;
* `Disk.named_of_parent?`, `Disk.start_of_parent?` — the path of the directory that holds an entry
  starts where that of the entry does, and has names from the front.
-/

namespace AnnotatedApi.Disk

open Text

/-! ### Names between slashes -/

/-- A slash separates the names before it from those after it. -/
theorem named_append_slash (before after : String) :
    named (before ++ "/" ++ after) = named before ++ named after := by
  have hsplit : splitOn '/' (before ++ "/" ++ after) = splitOn '/' before ++ splitOn '/' after :=
    splitOn_append_sep '/' before after
  rw [named, named, named, hsplit, List.filter_append]

@[simp] theorem named_empty : named "" = [] := rfl

/-- A text without slashes is one name, unless it is empty. -/
theorem named_of_forall {name : String} (h : ∀ c ∈ name.toList, c ≠ '/') :
    named name = if name.isEmpty then [] else [name] := by
  rw [named, splitOn_of_forall h]
  cases hempty : name.isEmpty <;> simp [hempty]

/-- The names of a path that is put together from pieces without slashes. -/
theorem named_join_pieces {pieces : List String}
    (h : ∀ piece ∈ pieces, ∀ c ∈ piece.toList, c ≠ '/') :
    named (Text.join "/" pieces) = pieces.filter (!·.isEmpty) := by
  have hone : ∀ piece ∈ pieces, named piece = [piece].filter (!·.isEmpty) := by
    intro piece hpiece
    rw [named_of_forall (h piece hpiece)]
    cases hempty : piece.isEmpty <;> simp [hempty]
  induction pieces with
  | nil => rfl
  | cons piece rest ih =>
    have hpiece := hone piece (by simp)
    cases rest with
    | nil => exact hpiece
    | cons next rest =>
      rw [Text.join, named_append_slash, hpiece,
        ih (fun p hp => h p (by simp [hp])) (fun p hp => hone p (by simp [hp])),
        ← List.filter_append, List.singleton_append]
      simp

/-! ### The path of an entry -/

/-- Text that ends with another. -/
theorem eq_append_of_endsWith {ending s : String} (h : endsWith ending s = true) :
    ∃ start, s = start ++ ending := by
  obtain ⟨rest, hrest⟩ := Option.isSome_iff_exists.mp h
  refine ⟨.ofList rest.reverse, String.toList_injective ?_⟩
  rw [← List.reverse_inj, eq_append_of_afterStart? hrest]
  simp

/-- The path of an entry has one name more than that of its directory. -/
theorem named_join (dir entry : String) :
    named (Path.join dir entry) = named dir ++ named entry := by
  rw [Path.join]
  split
  · next h =>
    rcases Bool.or_eq_true _ _ |>.mp h with hempty | hslash
    · rw [String.isEmpty_iff.mp hempty]
      simp
    · obtain ⟨start, rfl⟩ := eq_append_of_endsWith hslash
      have hdir : named (start ++ "/") = named start := by
        rw [← String.append_empty (s := start ++ "/"), named_append_slash]
        simp
      rw [named_append_slash, hdir]
  · rw [named_append_slash]

/-- An absolute path starts with a slash. -/
theorem isAbsolute_eq (path : String) :
    Path.isAbsolute path = (path.toList.head? == some '/') := by
  rw [Path.isAbsolute, startsWith]
  cases path.toList with
  | nil => rfl
  | cons c cs => by_cases hc : c = '/' <;> simp [afterStart?, hc, eq_comm (a := '/')]

/-- The path of an entry starts where that of its directory does. -/
theorem start_join (disk : Disk) {dir : String} (hdir : dir.isEmpty = false) (entry : String) :
    disk.start (Path.join dir entry) = disk.start dir := by
  obtain ⟨c, cs, hcs⟩ : ∃ c cs, dir.toList = c :: cs := by
    refine List.exists_cons_of_ne_nil fun hnil => ?_
    simp [String.toList_eq_nil_iff.mp hnil] at hdir
  have hhead : Path.isAbsolute (Path.join dir entry) = Path.isAbsolute dir := by
    rw [isAbsolute_eq, isAbsolute_eq, Path.join]
    split <;> simp [hcs]
  rw [start, start, hhead]

theorem isEmpty_join {dir : String} (hdir : dir.isEmpty = false) (entry : String) :
    (Path.join dir entry).isEmpty = false := by
  have hne : dir ≠ "" := by simpa using hdir
  rw [Path.join]
  split <;> simp [hne]

/-- The path of an entry does not end with a slash. -/
theorem endsWith_join (dir : String) {entry : String} (hempty : entry.isEmpty = false)
    (hslash : ∀ c ∈ entry.toList, c ≠ '/') : endsWith "/" (Path.join dir entry) = false := by
  cases hends : endsWith "/" (Path.join dir entry) with
  | false => rfl
  | true =>
    -- The last character would be a slash, but it is one of the entry.
    obtain ⟨start, hstart⟩ := eq_append_of_endsWith hends
    have hlast : (Path.join dir entry).toList.getLast? = entry.toList.getLast? := by
      obtain ⟨c, cs, hentry⟩ : ∃ c cs, entry.toList = c :: cs := by
        refine List.exists_cons_of_ne_nil fun hnil => ?_
        simp [String.toList_eq_nil_iff.mp hnil] at hempty
      rw [Path.join]
      split <;> simp [hentry, List.getLast?_cons]
    rw [hstart] at hlast
    have hmem : '/' ∈ entry.toList := List.mem_of_getLast? (by simpa using hlast.symm)
    exact absurd rfl (hslash _ hmem)

/-! ### The path of the directory that holds an entry -/

/-- What is kept of the parts of a path are parts from the front. -/
theorem dropIdle_isPrefix (parts : List String) : Path.dropIdle parts <+: parts := by
  cases parts with
  | nil => exact List.prefix_rfl
  | cons first rest =>
    rw [Path.dropIdle, List.prefix_cons_inj, ← List.reverse_suffix, List.reverse_reverse]
    exact List.dropWhile_suffix _

/-- The last part that is kept is no empty one, apart from the first. -/
theorem dropIdle_eq_cons {parts : List String} (h : parts ≠ []) :
    ∃ first rest, Path.dropIdle parts = first :: rest ∧
      ∀ last, rest.getLast? = some last → last.isEmpty = false := by
  obtain ⟨first, rest, rfl⟩ := List.exists_cons_of_ne_nil h
  refine ⟨first, _, rfl, fun last hlast => ?_⟩
  rw [List.getLast?_reverse] at hlast
  have hkept := List.head?_dropWhile_not (fun part => part.isEmpty || part == ".") rest.reverse
  rw [hlast] at hkept
  simp_all

/-- The path of the directory that holds an entry has names from the front. -/
theorem named_of_parent? {path parent : String} (h : Path.parent? path = some parent) :
    named parent <+: (named path).dropLast := by
  have hparent : named parent =
      (Path.dropIdle (Path.dropIdle (splitOn '/' path)).dropLast).filter (!·.isEmpty) := by
    have hpieces : ∀ piece ∈ Path.dropIdle (Path.dropIdle (splitOn '/' path)).dropLast,
        ∀ c ∈ piece.toList, c ≠ '/' := by
      intro piece hpiece
      have hmem := List.dropLast_subset _ ((dropIdle_isPrefix _).subset hpiece)
      exact forall_of_mem_splitOn ((dropIdle_isPrefix _).subset hmem)
    unfold Path.parent? at h
    split at h
    · simp at h
    · simp at h
    · split at h
      · next hkept =>
        rw [hkept, ← Option.some.inj h]
        rfl
      · rw [← Option.some.inj h, named_join_pieces hpieces]
  rw [hparent]
  refine ((dropIdle_isPrefix _).filter _).trans ?_
  -- The last part that was kept is a name, unless no part is left.
  obtain ⟨first, rest, hfirst, hlast⟩ := dropIdle_eq_cons (splitOn_ne_nil '/' path)
  have hfront : (first :: rest).filter (!·.isEmpty) <+: named path :=
    hfirst ▸ (dropIdle_isPrefix _).filter _
  rw [hfirst]
  rcases List.eq_nil_or_concat' rest with rfl | ⟨init, last, rfl⟩
  · simp
  · have hnonempty : last.isEmpty = false := hlast last (by simp)
    have hsplit : (first :: (init ++ [last])).filter (!·.isEmpty) =
        (first :: init).filter (!·.isEmpty) ++ [last] := by
      rw [← List.cons_append, List.filter_append]
      simp [hnonempty]
    rw [hsplit] at hfront
    obtain ⟨names, hnames⟩ := hfront
    rw [← List.cons_append, List.dropLast_concat, ← hnames, List.append_assoc,
      List.dropLast_append_of_ne_nil (by simp)]
    exact List.prefix_append _ _

/-- A path is absolute if there is an empty part in front of the first slash. -/
theorem isAbsolute_iff_of_splitOn {path first : String} {rest : List String}
    (h : splitOn '/' path = first :: rest) :
    Path.isAbsolute path = true ↔ first = "" ∧ rest ≠ [] := by
  rw [isAbsolute_eq]
  rw [splitOn] at h
  cases hpath : path.toList with
  | nil =>
    rw [hpath] at h
    obtain ⟨rfl, rfl⟩ := List.cons.inj h
    simp
  | cons c cs =>
    rw [hpath, splitWhere] at h
    obtain ⟨piece, pieces, hpieces⟩ := List.exists_cons_of_ne_nil (splitWhere_ne_nil (· == '/') cs)
    by_cases hc : c = '/'
    · rw [if_pos (by simpa using hc), hpieces] at h
      obtain ⟨rfl, rfl⟩ := List.cons.inj h
      simp [hc]
    · rw [if_neg (by simpa using hc), hpieces] at h
      obtain ⟨rfl, rfl⟩ := List.cons.inj h
      simp [hc, ← String.toList_inj]

/-- Parts that do not count are no components. -/
theorem filterMap_component?_of_dropIdle {first : String} {rest : List String}
    (h : Path.dropIdle (first :: rest) = [first]) :
    rest.filterMap (Path.component? false) = [] := by
  rw [Path.dropIdle, List.cons_inj_right, List.reverse_eq_nil_iff, List.dropWhile_eq_nil_iff] at h
  refine List.filterMap_eq_nil_iff.mpr fun part hpart => ?_
  have hidle := h part (List.mem_reverse.mpr hpart)
  rw [Bool.or_eq_true, beq_iff_eq] at hidle
  rcases hidle with hempty | rfl
  · simp [Path.component?, hempty]
  · rfl

/-- The path of the root has only parts that do not count. -/
theorem components_eq_root {path : String} {rest : List String}
    (hsplit : splitOn '/' path = "" :: rest) (hrest : rest ≠ [])
    (hidle : Path.dropIdle ("" :: rest) = [""]) : Path.components path = [.root] := by
  have hne : path.isEmpty = false := by
    cases hempty : path.isEmpty with
    | false => rfl
    | true =>
      rw [String.isEmpty_iff.mp hempty] at hsplit
      exact absurd (List.cons.inj hsplit).2.symm hrest
  simp [Path.components, hsplit, hne, filterMap_component?_of_dropIdle hidle]

/-- A path has a parent unless it is that of the root, and the parent has its parts but the last. -/
theorem parent?_eq_some {path parent : String} (h : Path.parent? path = some parent) :
    Path.components path ≠ [.root] ∧ ∃ parts,
      parts = Path.dropIdle (Path.dropIdle (splitOn '/' path)).dropLast ∧
      (parts = [""] ∧ parent = "/" ∨ parts ≠ [""] ∧ parent = join "/" parts) := by
  rw [Path.parent?] at h
  split at h
  · simp at h
  · simp at h
  · next hroot =>
    refine ⟨hroot, _, rfl, ?_⟩
    split at h
    · next hparts => exact .inl ⟨hparts, (Option.some.inj h).symm⟩
    · next hparts => exact .inr ⟨hparts, (Option.some.inj h).symm⟩

/-- The path of the directory that holds an entry is absolute if that of the entry is. -/
theorem isAbsolute_of_parent? {path parent : String} (h : Path.parent? path = some parent) :
    Path.isAbsolute parent = Path.isAbsolute path := by
  obtain ⟨hroot, parts, hparts, hparent⟩ := parent?_eq_some h
  obtain ⟨first, rest, hsplit⟩ := List.exists_cons_of_ne_nil (splitOn_ne_nil '/' path)
  obtain ⟨kept, hkept⟩ : ∃ kept, Path.dropIdle (first :: rest) = first :: kept := ⟨_, rfl⟩
  have hfront : kept <+: rest := by
    have hpieces := dropIdle_isPrefix (first :: rest)
    rwa [hkept, List.prefix_cons_inj] at hpieces
  rw [hsplit, hkept] at hparts
  rw [Bool.eq_iff_iff, isAbsolute_iff_of_splitOn hsplit]
  cases kept with
  | nil =>
    -- Only one part counts, so the path is a name.
    obtain rfl : parts = [] := hparts
    obtain rfl : parent = "" := (hparent.resolve_left (by simp)).2
    refine iff_of_false (by decide) ?_
    rintro ⟨rfl, hrest⟩
    exact hroot (components_eq_root hsplit hrest hkept)
  | cons next kept =>
    have hrest : rest ≠ [] := by
      rintro rfl
      simp at hfront
    obtain ⟨more, hmore⟩ : ∃ more,
        Path.dropIdle (first :: (next :: kept).dropLast) = first :: more := ⟨_, rfl⟩
    have hpieces : ∀ piece ∈ first :: more, '/' ∉ piece.toList := by
      intro piece hpiece hmem
      have hkeeps := hmore ▸ dropIdle_isPrefix (first :: (next :: kept).dropLast)
      have hall : piece ∈ first :: rest := by
        rcases List.mem_cons.mp (hkeeps.subset hpiece) with rfl | hlater
        · exact List.mem_cons_self
        · exact List.mem_cons_of_mem _ (hfront.subset (List.dropLast_subset _ hlater))
      exact forall_of_mem_splitOn (hsplit ▸ hall) _ hmem rfl
    rw [List.dropLast_cons_cons, hmore] at hparts
    subst hparts
    rw [and_iff_left hrest]
    rcases hparent with ⟨hslash, rfl⟩ | ⟨hslash, rfl⟩
    · exact iff_of_true (by decide) (List.cons.inj hslash).1
    · -- The parts put together are absolute if the first one is empty.
      have hjoin := isAbsolute_iff_of_splitOn (splitOn_join (List.cons_ne_nil first more) hpieces)
      refine hjoin.trans (and_iff_left_of_imp fun hempty hnil => ?_)
      exact hslash (by rw [hempty, hnil])

/-- The path of the directory that holds an entry starts where that of the entry does. -/
theorem start_of_parent? (disk : Disk) {path parent : String} (h : Path.parent? path = some parent) :
    disk.start parent = disk.start path := by
  rw [start, start, isAbsolute_of_parent? h]

end AnnotatedApi.Disk
