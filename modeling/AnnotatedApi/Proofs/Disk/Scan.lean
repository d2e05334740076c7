import AnnotatedApi.Proofs.Disk.Unread
import Mathlib.Data.List.Lex

/-!
What a scan finds.

A scan leaves out whole directories on its way.  Where all directories can be opened, it finds the
files that a walk through everything finds, as far as each step on the way to them passes
(`sources_scanEntries`).  Since what is below an excluded path is excluded as well, the steps can be
judged by the place of the file alone (`ScanRules.passes_iff_admits`).  The walk goes through the
places in lexicographic order (`Node.pairwise_placesIn`), since disks are sorted
(`Disk.isSorted_addFile`, `Disk.entriesSorted_of_node?`), and paths are in the order of their places.
Main statement: `Disk.scan_lists_admitted_files`.
-/

namespace AnnotatedApi

open Text

/-! ### A walk through everything -/

/-- A name without slashes of either kind, as entries have it. -/
def isPlainName (name : String) : Bool :=
  isEntryName name && name.toList.all (· != '\\')

/-- The names of a place. -/
structure IsPlain (name : String) : Prop where
  ne_empty : name ≠ ""
  slash : ∀ c ∈ name.toList, c ≠ '/'
  backslash : ∀ c ∈ name.toList, c ≠ '\\'

theorem isPlain_of_isPlainName {name : String} (h : isPlainName name = true) : IsPlain name := by
  simp only [isPlainName, isEntryName, Bool.and_eq_true, Bool.not_eq_true', bne_iff_ne,
    List.all_eq_true] at h
  obtain ⟨⟨⟨⟨hempty, -⟩, -⟩, hslash⟩, hbackslash⟩ := h
  exact ⟨by simpa using hempty, hslash, hbackslash⟩

namespace Node

mutual

/-- Whether the entries of each directory have plain names and are in order of them. -/
def isSorted : Node → Bool
  | .file _ _ => true
  | .dir entries _ => entriesSorted entries

/-- The same for the entries of a directory. -/
def entriesSorted : List (String × Node) → Bool
  | [] => true
  | (name, node) :: rest =>
    isPlainName name && rest.all (name < ·.1) && node.isSorted && entriesSorted rest

end

mutual

/-- Whether the entries of each directory can be listed, and one may go on to them. -/
def isOpen : Node → Bool
  | .file _ _ => true
  | .dir entries access => access.read && access.enter && entriesOpen entries

/-- The same for the entries of a directory. -/
def entriesOpen : List (String × Node) → Bool
  | [] => true
  | (_, node) :: rest => node.isOpen && entriesOpen rest

end

mutual

/-- The places of the files of a tree, depth first. -/
def filePlaces : Node → List (List String)
  | .file _ _ => [[]]
  | .dir entries _ => placesIn entries

/-- The places of the files below the entries of a directory. -/
def placesIn : List (String × Node) → List (List String)
  | [] => []
  | (name, node) :: rest => node.filePlaces.map (name :: ·) ++ placesIn rest

end

theorem entriesSorted_cons {name : String} {node : Node} {rest : List (String × Node)} :
    entriesSorted ((name, node) :: rest) = true ↔
      isPlainName name = true ∧ (∀ entry ∈ rest, name < entry.1) ∧ node.isSorted = true ∧
        entriesSorted rest = true := by
  simp [entriesSorted, and_assoc]

theorem mem_putEntry {name : String} {node : Node} {entries : List (String × Node)}
    {entry : String × Node} (h : entry ∈ putEntry name node entries) :
    entry = (name, node) ∨ entry ∈ entries := by
  induction entries with
  | nil => exact .inl (List.mem_singleton.mp h)
  | cons first rest ih =>
    rw [putEntry] at h
    split at h
    · exact List.mem_cons.mp h
    · split at h
      · exact (List.mem_cons.mp h).imp_right (List.mem_cons_of_mem _)
      · rcases List.mem_cons.mp h with rfl | hrest
        · exact .inr List.mem_cons_self
        · exact (ih hrest).imp_right (List.mem_cons_of_mem _)

theorem entriesSorted_putEntry {name : String} {node : Node} {entries : List (String × Node)}
    (hname : isPlainName name = true) (hnode : node.isSorted = true)
    (h : entriesSorted entries = true) : entriesSorted (putEntry name node entries) = true := by
  induction entries with
  | nil => simp [putEntry, entriesSorted, hname, hnode]
  | cons entry rest ih =>
    obtain ⟨n, old⟩ := entry
    obtain ⟨hn, hbehind, hold, hrest⟩ := entriesSorted_cons.mp h
    rw [putEntry]
    split
    · next hlt =>
      refine entriesSorted_cons.mpr ⟨hname, ?_, hnode, h⟩
      rw [List.forall_mem_cons]
      exact ⟨hlt, fun entry hentry => String.lt_trans hlt (hbehind entry hentry)⟩
    · next hnlt =>
      split
      · next heq =>
        obtain rfl := eq_of_beq heq
        exact entriesSorted_cons.mpr ⟨hname, hbehind, hnode, hrest⟩
      · next hne =>
        have hlt : n < name :=
          Std.lt_of_le_of_ne (String.not_lt.mp hnlt) fun heq => hne (beq_iff_eq.mpr heq.symm)
        refine entriesSorted_cons.mpr ⟨hn, fun entry hentry => ?_, hold, ih hrest⟩
        rcases mem_putEntry hentry with rfl | hmem
        · exact hlt
        · exact hbehind entry hmem

theorem isSorted_of_child? {entries : List (String × Node)} (h : entriesSorted entries = true)
    {name : String} {child : Node} (hchild : child? name entries = some child) :
    child.isSorted = true :=
  inherited_of_child? (P := (·.isSorted = true)) (E := (entriesSorted · = true))
    (fun _ _ h => (entriesSorted_cons.mp h).2.2) h hchild

theorem isSorted_of_at? {node found : Node} {place : List String} (h : node.isSorted = true)
    (hat : node.at? place = some found) : found.isSorted = true := by
  refine inherited_of_at? (P := (·.isSorted = true)) (E := (entriesSorted · = true))
    (fun entries access hdir => ?_) (fun _ _ h => (entriesSorted_cons.mp h).2.2) h hat
  rwa [isSorted] at hdir

/-- Files and directories are put where the order wants them, so a tree that is filled step by step
stays sorted. -/
theorem isSorted_put {new : Node} (hnew : new.isSorted = true) {place : List String}
    (hplain : ∀ name ∈ place, isPlainName name = true) {node : Node} (h : node.isSorted = true) :
    (put new place node).isSorted = true := by
  induction place generalizing node with
  | nil => exact hnew
  | cons name rest ih =>
    rw [List.forall_mem_cons] at hplain
    have hentries : entriesSorted node.entries = true := by
      cases node with
      | file text access => rfl
      | dir entries access => rwa [isSorted] at h
    have hchild : ((child? name node.entries).getD (.dir [])).isSorted = true := by
      cases hfound : child? name node.entries with
      | none => rfl
      | some child => exact isSorted_of_child? hentries hfound
    rw [put, isSorted]
    exact entriesSorted_putEntry hplain.1 (ih hplain.2 hchild) hentries

/-- A place among the entries starts with the name of one of them. -/
theorem head_of_mem_placesIn {entries : List (String × Node)} {place : List String}
    (h : place ∈ placesIn entries) : ∃ entry ∈ entries, ∃ below, place = entry.1 :: below := by
  induction entries with
  | nil => exact absurd h List.not_mem_nil
  | cons entry rest ih =>
    obtain ⟨name, node⟩ := entry
    rw [placesIn, List.mem_append, List.mem_map] at h
    rcases h with ⟨below, -, rfl⟩ | hrest
    · exact ⟨_, List.mem_cons_self, below, rfl⟩
    · obtain ⟨entry, hentry, below, rfl⟩ := ih hrest
      exact ⟨entry, List.mem_cons_of_mem _ hentry, below, rfl⟩

mutual

/-- The walk finds the places of all files. -/
theorem mem_filePlaces {place : List String} : (node : Node) → node.isSorted = true →
    (place ∈ node.filePlaces ↔ ∃ text access, node.at? place = some (.file text access))
  | .file text access, _ => by
    cases place with
    | nil => simp [filePlaces, at?]
    | cons name rest => simp [filePlaces, at?]
  | .dir entries access, h => by
    rw [isSorted] at h
    rw [filePlaces]
    exact mem_placesIn access entries h

theorem mem_placesIn {place : List String} (dirAccess : Access) :
    (entries : List (String × Node)) → entriesSorted entries = true →
    (place ∈ placesIn entries ↔
      ∃ text access, (Node.dir entries dirAccess).at? place = some (.file text access))
  | [], _ => by
    cases place with
    | nil => simp [placesIn, at?]
    | cons first below => simp [placesIn, at?, child?]
  | (name, node) :: rest, h => by
    obtain ⟨-, hbehind, hnode, hrest⟩ := entriesSorted_cons.mp h
    have hfiles : ∀ below, below ∈ node.filePlaces ↔
        ∃ text access, node.at? below = some (.file text access) :=
      fun _ => mem_filePlaces node hnode
    have hplaces : place ∈ placesIn rest ↔
        ∃ text access, (Node.dir rest dirAccess).at? place = some (.file text access) :=
      mem_placesIn dirAccess rest hrest
    rw [placesIn, List.mem_append, List.mem_map, hplaces]
    cases place with
    | nil => simp [at?]
    | cons first below =>
      rw [at?_cons, at?_cons, Node.entries, Node.entries, child?_cons]
      by_cases hname : name = first
      · subst hname
        -- No entry behind it has the same name.
        have hnone : child? name rest = none := by
          refine child?_eq_none (List.any_eq_false.mpr fun entry hentry => ?_)
          simpa using (String.ne_of_lt (hbehind entry hentry)).symm
        rw [if_pos rfl, hnone]
        simp [hfiles]
      · rw [if_neg hname]
        simp [hname]

end

mutual

/-- The walk goes through the places in lexicographic order. -/
theorem pairwise_filePlaces : (node : Node) → node.isSorted = true →
    node.filePlaces.Pairwise (· < ·)
  | .file _ _, _ => List.pairwise_singleton _ _
  | .dir entries access, h => by
    rw [isSorted] at h
    exact pairwise_placesIn entries h

theorem pairwise_placesIn : (entries : List (String × Node)) → entriesSorted entries = true →
    (placesIn entries).Pairwise (· < ·)
  | [], _ => List.Pairwise.nil
  | (name, node) :: rest, h => by
    obtain ⟨-, hbehind, hnode, hrest⟩ := entriesSorted_cons.mp h
    rw [placesIn, List.pairwise_append, List.pairwise_map]
    refine ⟨?_, pairwise_placesIn rest hrest, ?_⟩
    · exact (pairwise_filePlaces node hnode).imp fun hlt => List.cons_lt_cons_iff.mpr (.inr ⟨rfl, hlt⟩)
    · intro place hplace other hother
      obtain ⟨below, -, rfl⟩ := List.mem_map.mp hplace
      obtain ⟨entry, hentry, below', rfl⟩ := head_of_mem_placesIn hother
      exact List.cons_lt_cons_iff.mpr (.inl (hbehind entry hentry))

end

mutual

theorem isPlain_of_mem_filePlaces {place : List String} : (node : Node) → node.isSorted = true →
    place ∈ node.filePlaces → ∀ name ∈ place, IsPlain name
  | .file _ _, _, hplace => by
    obtain rfl : place = [] := by simpa [filePlaces] using hplace
    simp
  | .dir entries access, h, hplace => by
    rw [isSorted] at h
    rw [filePlaces] at hplace
    exact isPlain_of_mem_placesIn entries h hplace

theorem isPlain_of_mem_placesIn {place : List String} : (entries : List (String × Node)) →
    entriesSorted entries = true → place ∈ placesIn entries → ∀ name ∈ place, IsPlain name
  | [], _, hplace => by simp [placesIn] at hplace
  | (name, node) :: rest, h, hplace => by
    obtain ⟨hname, -, hnode, hrest⟩ := entriesSorted_cons.mp h
    rw [placesIn, List.mem_append, List.mem_map] at hplace
    rcases hplace with ⟨below, hbelow, rfl⟩ | hplace
    · rw [List.forall_mem_cons]
      exact ⟨isPlain_of_isPlainName hname, isPlain_of_mem_filePlaces node hnode hbelow⟩
    · exact isPlain_of_mem_placesIn rest hrest hplace

end

end Node

/-! ### The steps of a scan -/

namespace ScanRules

/-- Whether a scan gets from the directory at the place `above` to a source file below it. -/
def passes (rules : ScanRules) (above : List String) : List String → Bool
  | [] => false
  | [name] => !rules.isExcluded (join "/" (above ++ [name])) && isSourceName name
  | name :: next :: rest =>
    !rules.isExcluded (join "/" (above ++ [name])) &&
      (rules.enters name && rules.passes (above ++ [name]) (next :: rest))

theorem passes_cons (rules : ScanRules) (above : List String) (name : String) {below : List String}
    (hbelow : below ≠ []) : rules.passes above (name :: below) =
      (!rules.isExcluded (join "/" (above ++ [name])) &&
        (rules.enters name && rules.passes (above ++ [name]) below)) := by
  obtain ⟨next, rest, rfl⟩ := List.exists_cons_of_ne_nil hbelow
  rw [passes]

end ScanRules

/-- The relative path of an entry. -/
theorem below_eq_join {above : List String} (habove : ∀ name ∈ above, name ≠ "") (name : String) :
    (if (join "/" above).isEmpty then name else join "/" above ++ "/" ++ name) =
      join "/" (above ++ [name]) := by
  cases above with
  | nil => rfl
  | cons first rest =>
    obtain ⟨back, hback⟩ := exists_join_cons "/" first rest
    have hne : (join "/" (first :: rest)).isEmpty = false := by
      simp [hback, habove first List.mem_cons_self]
    rw [hne, join_append (List.cons_ne_nil _ _) (List.cons_ne_nil _ _)]
    rfl

mutual

/-- An entry that is not excluded: the scan finds what the walk finds as far as each step passes. -/
theorem sources_scanNode (rules : ScanRules) {above : List String}
    (habove : ∀ name ∈ above, name ≠ "") {name : String} (path : String) (hname : name ≠ "")
    (hincluded : rules.isExcluded (join "/" (above ++ [name])) = false) :
    (node : Node) → node.isSorted = true → node.isOpen = true →
      (scanNode rules name path (join "/" (above ++ [name])) true node).filterMap Finding.source? =
        (node.filePlaces.filter fun place => rules.passes above (name :: place)).map
          (·.foldl Path.join path)
  | .file _ _, _, _ => by
    rw [scanNode, Node.filePlaces, List.filter_singleton, ScanRules.passes, hincluded]
    cases isSourceName name <;> rfl
  | .dir entries access, h, hopen => by
    rw [Node.isSorted] at h
    rw [Node.isOpen, Bool.and_eq_true, Bool.and_eq_true] at hopen
    obtain ⟨⟨hread, henter⟩, hopen⟩ := hopen
    have habove' : ∀ n ∈ above ++ [name], n ≠ "" := by
      simpa [or_imp, forall_and] using ⟨habove, hname⟩
    have hentries := sources_scanEntries rules habove' path entries h hopen
    have hstep : ∀ place ∈ Node.placesIn entries, rules.passes above (name :: place) =
        (rules.enters name && rules.passes (above ++ [name]) place) := by
      intro place hplace
      obtain ⟨entry, -, below, rfl⟩ := Node.head_of_mem_placesIn hplace
      rw [ScanRules.passes_cons _ _ _ (List.cons_ne_nil _ _), hincluded]
      rfl
    rw [scanNode, Node.filePlaces, List.filter_congr hstep, hread, henter]
    cases rules.enters name with
    | false => simp
    | true => simpa using hentries

/-- The entries of a directory: the scan finds what the walk finds as far as each step passes. -/
theorem sources_scanEntries (rules : ScanRules) {above : List String}
    (habove : ∀ name ∈ above, name ≠ "") (dir : String) :
    (entries : List (String × Node)) → Node.entriesSorted entries = true →
      Node.entriesOpen entries = true →
      (scanEntries rules dir (join "/" above) true entries).filterMap Finding.source? =
        ((Node.placesIn entries).filter (rules.passes above)).map (·.foldl Path.join dir)
  | [], _, _ => rfl
  | (name, node) :: rest, h, hopen => by
    obtain ⟨hname, -, hnode, hrest⟩ := Node.entriesSorted_cons.mp h
    rw [Node.entriesOpen, Bool.and_eq_true] at hopen
    have hempty : name ≠ "" := (isPlain_of_isPlainName hname).ne_empty
    rw [scanEntries, List.filterMap_append, sources_scanEntries rules habove dir rest hrest hopen.2,
      below_eq_join habove, Node.placesIn, List.filter_append, List.map_append, List.filter_map,
      List.map_map]
    congr 1
    cases hexcluded : rules.isExcluded (join "/" (above ++ [name])) with
    | true =>
      -- The first step to everything below does not pass.
      have hnone : ∀ place, rules.passes above (name :: place) = false := by
        intro place
        cases place <;> simp [ScanRules.passes, hexcluded]
      simp [Function.comp_def, hnone]
    | false =>
      rw [if_neg Bool.false_ne_true,
        sources_scanNode rules habove _ hempty hexcluded node hnode hopen.1]
      rfl

end

/-! ### Excluded paths -/

namespace ScanRules

/-- What is left of an excluded path when the blanks around it, then all `./` in front and then all
slashes at the end are taken away. -/
def Leaves (pattern left : String) : Prop :=
  ∃ dots slashes, (trim pattern).toList =
      (List.replicate dots "./".toList).flatten ++ (left.toList ++ List.replicate slashes '/') ∧
    ¬"./".toList <+: left.toList ++ List.replicate slashes '/' ∧ left.toList.getLast? ≠ some '/'

/-- Whether a relative path is an excluded one or below it.  If nothing is left of the excluded path,
none is. -/
def Excludes (pattern relative : String) : Prop :=
  ∃ left, Leaves pattern left ∧ left ≠ "" ∧
    (relative = left ∨ ∃ rest, relative = left ++ "/" ++ rest)

/-- Whether the file at a place, given by the names that lead to it from the start of the scan, is
one that the scan is to find. -/
structure Admits (rules : ScanRules) (place : List String) : Prop where
  source : ∀ name ∈ place.getLast?, endsWith ".go" name = true ∧ endsWith "_test.go" name = false
  entered : ∀ dir ∈ place.dropLast, dir ∉ ["vendor", "testdata", "docs", "node_modules"] ∧
    startsWith "." dir = false ∧ startsWith "_" dir = false ∧
    (dir = "internal" → rules.parseInternal = true)
  included : ∀ pattern ∈ rules.exclude, ¬Excludes pattern (join "/" place)

theorem normalize_eq_iff {pattern left : String} : normalize pattern = left ↔ Leaves pattern left := by
  have hfuel : (trimChars pattern.toList).length ≤ pattern.length := by
    rw [← String.length_toList]
    exact (isInfix_trimChars _).length_le
  have htrim : (trim pattern).toList = trimChars pattern.toList := String.toList_ofList
  rw [normalize, ← String.toList_inj, String.toList_ofList, dropEndWhile_eq_iff, Leaves, htrim]
  constructor
  · rintro ⟨⟨slashes, hslashes⟩, hlast⟩
    obtain ⟨⟨dots, hdots⟩, hnone⟩ :=
      (dropStartRepeated_eq_iff (by decide) hfuel).mp hslashes
    exact ⟨dots, slashes, hdots, hnone, hlast⟩
  · rintro ⟨dots, slashes, hdots, hnone, hlast⟩
    exact ⟨⟨slashes, (dropStartRepeated_eq_iff (by decide) hfuel).mpr ⟨⟨dots, hdots⟩, hnone⟩⟩, hlast⟩

/-- Comparing paths, backslashes are slashes. -/
def slashed (s : String) : String :=
  .ofList (s.toList.map fun c => if c == '\\' then '/' else c)

theorem slashed_append (s t : String) : slashed (s ++ t) = slashed s ++ slashed t := by
  simp [slashed]

theorem slashed_of_forall {s : String} (h : ∀ c ∈ s.toList, c ≠ '\\') : slashed s = s := by
  rw [← String.toList_inj, slashed, String.toList_ofList]
  refine (List.map_congr_left fun c hc => ?_).trans (List.map_id _)
  exact if_neg (by simpa using h c hc)

theorem isExcluded_iff {rules : ScanRules} {relative : String} :
    rules.isExcluded relative = true ↔ ∃ pattern ∈ rules.exclude, slashed relative = normalize pattern ∨
      ∃ rest, slashed relative = normalize pattern ++ "/" ++ rest := by
  show rules.exclude.any (fun pattern => slashed relative == normalize pattern ||
    startsWith (normalize pattern ++ "/") (slashed relative)) = true ↔ _
  simp only [List.any_eq_true, Bool.or_eq_true, beq_iff_eq, startsWith_iff]

/-- What is below an excluded path is excluded. -/
theorem isExcluded_below {rules : ScanRules} {relative : String}
    (h : rules.isExcluded relative = true) (more : String) :
    rules.isExcluded (relative ++ "/" ++ more) = true := by
  rw [isExcluded_iff] at h ⊢
  obtain ⟨pattern, hpattern, h⟩ := h
  refine ⟨pattern, hpattern, .inr ?_⟩
  rw [slashed_append, slashed_append, show slashed "/" = "/" by decide]
  rcases h with h | ⟨rest, h⟩
  · exact ⟨slashed more, by rw [h]⟩
  · exact ⟨rest ++ "/" ++ slashed more, by rw [h]; simp only [String.append_assoc]⟩

/-- Without backslashes a path is compared as it is, and nothing is left to compare with an empty
one. -/
theorem isExcluded_join_iff {rules : ScanRules} {place : List String} (hne : place ≠ [])
    (hplain : ∀ name ∈ place, IsPlain name) : rules.isExcluded (join "/" place) = true ↔
      ∃ pattern ∈ rules.exclude, Excludes pattern (join "/" place) := by
  obtain ⟨first, rest, rfl⟩ := List.exists_cons_of_ne_nil hne
  obtain ⟨back, hback⟩ := exists_join_cons "/" first rest
  have hfirst := hplain first List.mem_cons_self
  obtain ⟨c, cs, hcs⟩ : ∃ c cs, first.toList = c :: cs :=
    List.exists_cons_of_ne_nil (by simpa using hfirst.ne_empty)
  have hslash : c ≠ '/' := hfirst.slash c (by simp [hcs])
  have hsep : ∀ c ∈ "/".toList, c ≠ '\\' := List.forall_mem_singleton.mpr (by decide)
  have hslashed : slashed (join "/" (first :: rest)) = join "/" (first :: rest) :=
    slashed_of_forall (forall_mem_join hsep fun name hname => (hplain name hname).backslash)
  rw [isExcluded_iff, hslashed]
  refine exists_congr fun pattern => and_congr_right fun _ => ?_
  simp only [Excludes, ← normalize_eq_iff]
  constructor
  · intro h
    refine ⟨_, rfl, fun hempty => ?_, h⟩
    -- The path starts with a character of its first name, and this is no slash.
    rw [hempty, hback] at h
    rcases h with h | ⟨rest', h⟩
    · simp [← String.toList_inj, hcs] at h
    · simp [← String.toList_inj, hcs, hslash] at h
  · rintro ⟨left, rfl, -, h⟩
    exact h

theorem enters_iff {rules : ScanRules} {dir : String} : rules.enters dir = true ↔
    dir ∉ ["vendor", "testdata", "docs", "node_modules"] ∧ startsWith "." dir = false ∧
      startsWith "_" dir = false ∧ (dir = "internal" → rules.parseInternal = true) := by
  have hinternal : (dir == "internal" && !rules.parseInternal) = false ↔
      (dir = "internal" → rules.parseInternal = true) := by
    simp [imp_iff_not_or]
  have hnames : ["vendor", "testdata", "docs", "node_modules"].contains dir = false ↔
      dir ∉ ["vendor", "testdata", "docs", "node_modules"] := by
    rw [← Bool.not_eq_true, List.contains_iff_mem]
  rw [enters, Bool.not_eq_true', Bool.or_eq_false_iff, Bool.or_eq_false_iff, Bool.or_eq_false_iff,
    hinternal, hnames]
  constructor
  · rintro ⟨⟨⟨hdot, hscore⟩, hname⟩, hflag⟩
    exact ⟨hname, hdot, hscore, hflag⟩
  · rintro ⟨hname, hdot, hscore, hflag⟩
    exact ⟨⟨⟨hdot, hscore⟩, hname⟩, hflag⟩

/-- All steps pass if the place as a whole is not excluded and its directories are entered. -/
theorem passes_iff {rules : ScanRules} {above place : List String} (hne : place ≠ []) :
    rules.passes above place = true ↔ rules.isExcluded (join "/" (above ++ place)) = false ∧
      (∀ dir ∈ place.dropLast, rules.enters dir = true) ∧
      ∀ name ∈ place.getLast?, isSourceName name = true := by
  induction place generalizing above with
  | nil => exact absurd rfl hne
  | cons name rest ih =>
    cases rest with
    | nil => simp [passes]
    | cons next rest =>
      have hbelow : rules.passes (above ++ [name]) (next :: rest) = true ↔ _ :=
        ih (List.cons_ne_nil next rest)
      rw [List.append_assoc, List.singleton_append] at hbelow
      -- Were the first step excluded, so would be the whole.
      have hfirst : rules.isExcluded (join "/" (above ++ name :: next :: rest)) = false →
          rules.isExcluded (join "/" (above ++ [name])) = false := by
        intro hwhole
        by_contra hstep
        have hall := isExcluded_below (by simpa using hstep) (join "/" (next :: rest))
        rw [← join_append (by simp) (by simp), List.append_assoc, List.singleton_append, hwhole] at hall
        cases hall
      rw [passes, Bool.and_eq_true, Bool.and_eq_true, hbelow, List.dropLast_cons_cons,
        List.getLast?_cons_cons, List.forall_mem_cons, Bool.not_eq_true']
      constructor
      · rintro ⟨-, henters, hwhole, hdirs, hlast⟩
        exact ⟨hwhole, ⟨henters, hdirs⟩, hlast⟩
      · rintro ⟨hwhole, ⟨henters, hdirs⟩, hlast⟩
        exact ⟨hfirst hwhole, henters, hwhole, hdirs, hlast⟩

/-- The steps of a scan can be judged by the place alone. -/
theorem passes_iff_admits {rules : ScanRules} {place : List String} (hne : place ≠ [])
    (hplain : ∀ name ∈ place, IsPlain name) :
    rules.passes [] place = true ↔ rules.Admits place := by
  rw [passes_iff hne, List.nil_append, ← Bool.not_eq_true, isExcluded_join_iff hne hplain]
  constructor
  · rintro ⟨hexcluded, hdirs, hsource⟩
    exact {
      source := fun name hname => by simpa [isSourceName] using hsource name hname
      entered := fun dir hdir => enters_iff.mp (hdirs dir hdir)
      included := fun pattern hpattern h => hexcluded ⟨pattern, hpattern, h⟩ }
  · intro h
    refine ⟨fun ⟨pattern, hpattern, hexcludes⟩ => h.included pattern hpattern hexcludes,
      fun dir hdir => enters_iff.mpr (h.entered dir hdir), fun name hname => ?_⟩
    simpa [isSourceName] using h.source name hname

end ScanRules

/-! ### Paths -/

namespace Disk

theorem isSorted_addFile {disk : Disk} (h : disk.root.isSorted = true) {path : String}
    (hplain : ∀ name ∈ disk.placeOf path, isPlainName name = true)
    (text : Except FileFault String) : (disk.addFile path text).root.isSorted = true := by
  have hfile : (Node.ofReading text).isSorted = true := by
    rcases text with fault | text
    · cases fault <;> rfl
    · rfl
  exact Node.isSorted_put hfile hplain h

theorem entriesSorted_of_node? {disk : Disk} (h : disk.root.isSorted = true) {path : String}
    {entries : List (String × Node)} {access : Access}
    (hpath : disk.node? path = .ok (.dir entries access)) : Node.entriesSorted entries = true := by
  obtain ⟨place, -, hat, -⟩ := node?_eq_ok_iff.mp hpath
  have hdir := Node.isSorted_of_at? h hat
  rwa [Node.isSorted] at hdir

/-- The names of a path that leads to a place. -/
theorem named_foldl_join {place : List String} (hplain : ∀ name ∈ place, IsPlain name)
    (dir : String) : named (place.foldl Path.join dir) = named dir ++ place := by
  induction place generalizing dir with
  | nil => simp
  | cons name rest ih =>
    rw [List.forall_mem_cons] at hplain
    have hname : named name = [name] := by
      rw [named_of_forall hplain.1.slash, if_neg (by simpa using hplain.1.ne_empty)]
    rw [List.foldl_cons, ih hplain.2, named_join, hname, List.append_assoc, List.singleton_append]

/-- **A scan lists the files whose places it admits, in the order of their paths.**  The directory
that it starts from and those below it have to be open. -/
theorem scan_lists_admitted_files {disk : Disk} {root : String} {entries : List (String × Node)}
    {access : Access} (hroot : disk.node? root = .ok (.dir entries access))
    (hsorted : Node.entriesSorted entries = true) (hopen : (Node.dir entries access).isOpen = true)
    (rules : ScanRules) : ∃ paths, disk.scan rules root = .ok paths ∧
      (∀ path, path ∈ paths ↔ ∃ place,
        (∃ text found, (Node.dir entries access).at? place = some (.file text found)) ∧
        rules.Admits place ∧ path = place.foldl Path.join root) ∧
      (paths.Pairwise fun path other => named path < named other) ∧ paths.Nodup := by
  have hplain : ∀ place ∈ Node.placesIn entries, ∀ name ∈ place, IsPlain name :=
    fun _ => Node.isPlain_of_mem_placesIn entries hsorted
  have hadmits : ∀ place ∈ Node.placesIn entries,
      (rules.passes [] place = true ↔ rules.Admits place) := by
    intro place hplace
    obtain ⟨entry, -, below, hbelow⟩ := Node.head_of_mem_placesIn hplace
    exact ScanRules.passes_iff_admits (by simp [hbelow]) (hplain place hplace)
  have hscan : disk.scan rules root = .ok
      (((Node.placesIn entries).filter (rules.passes [])).map (·.foldl Path.join root)) := by
    rw [Node.isOpen, Bool.and_eq_true, Bool.and_eq_true] at hopen
    obtain ⟨⟨hread, henter⟩, hopen⟩ := hopen
    have hsources := @sources_scanEntries rules [] (by simp) root entries hsorted hopen
    simp only [Disk.scan, survey, hroot, hread, henter, if_true]
    exact congrArg _ hsources
  refine ⟨_, hscan, ?_⟩
  have horder : ((Node.placesIn entries).filter (rules.passes [])).Pairwise fun place other =>
      named (place.foldl Path.join root) < named (other.foldl Path.join root) := by
    refine ((Node.pairwise_placesIn entries hsorted).sublist List.filter_sublist).imp_of_mem
      fun {place other} hplace hother hlt => ?_
    rw [named_foldl_join (hplain place (List.mem_of_mem_filter hplace)),
      named_foldl_join (hplain other (List.mem_of_mem_filter hother))]
    exact List.append_left_lt hlt
  refine ⟨fun path => ?_, List.pairwise_map.mpr horder, ?_⟩
  · simp only [List.mem_map, List.mem_filter, ← Node.mem_placesIn access entries hsorted]
    constructor
    · rintro ⟨place, ⟨hplace, hpasses⟩, rfl⟩
      exact ⟨place, hplace, (hadmits place hplace).mp hpasses, rfl⟩
    · rintro ⟨place, hplace, hplaceAdmits, rfl⟩
      exact ⟨place, ⟨hplace, (hadmits place hplace).mpr hplaceAdmits⟩, rfl⟩
  · refine List.pairwise_map.mpr (horder.imp fun hlt heq => ?_)
    rw [heq] at hlt
    exact List.lt_irrefl _ hlt

/-- The directory that the scan starts from may have any name, those below it may not. -/
theorem scan_of_vendor_directory :
    let text : Node := .file (some "package api")
    let entries : List (String × Node) :=
      [("api", .dir [("pets.go", text), ("pets_test.go", text)]), ("gen", .dir [("types.go", text)]),
        ("internal", .dir [("auth.go", text)]), ("main.go", text), ("vendor", .dir [("lib.go", text)])]
    let disk : Disk := { root := .dir [("vendor", .dir entries)] }
    let rules : ScanRules := { exclude := [" ./gen/ ", "./"] }
    let paths := ["./vendor/api/pets.go", "./vendor/main.go"]
    disk.node? "./vendor" = .ok (.dir entries) ∧ Node.entriesSorted entries = true ∧
    (Node.dir entries).isOpen = true ∧ disk.scan rules "./vendor" = .ok paths ∧
    (∀ path, path ∈ paths ↔ ∃ place,
      (∃ text found, (Node.dir entries).at? place = some (.file text found)) ∧
      rules.Admits place ∧ path = place.foldl Path.join "./vendor") ∧
    (paths.Pairwise fun path other => named path < named other) := by
  intro text entries disk rules paths
  have hroot : disk.node? "./vendor" = .ok (.dir entries) := by rfl
  have hsorted : Node.entriesSorted entries = true := by decide
  have hopen : (Node.dir entries).isOpen = true := by decide
  have hpaths : disk.scan rules "./vendor" = .ok paths := by decide
  obtain ⟨found, hscan, hmem, horder, -⟩ := scan_lists_admitted_files hroot hsorted hopen rules
  obtain rfl : paths = found := Except.ok.inj (hpaths.symm.trans hscan)
  exact ⟨hroot, hsorted, hopen, hpaths, hmem, horder⟩

end Disk

end AnnotatedApi
