import AnnotatedApi.Disk.Load
import AnnotatedApi.Disk.Scan
import AnnotatedApi.Proofs.Disk.Alike

/-!
Disks that differ only in files that cannot be read.

`Disk.SameTexts` relates two disks that are the same without the files at some places, where no file
can be read. What is read from them is the same:

* `Disk.SameTexts.readText` — every text file has the same text on both;
* `Disk.SameTexts.filter_filesBelow` — below every directory there are the same text files;
* `Disk.SameTexts.map_parsedSources` — a scan finds the same sources that can be parsed;
* `Disk.readFiles_congr` — external texts are the same, unless one of them cannot be read.

A path that is put together by going through a directory has to lead to the entry it was found at, if
one may go on to it (`Disk.Leads`). This rests on the names of entries being proper ones
(`Node.wellFormed`).
-/

namespace AnnotatedApi

open Text

/-- Whether the entry is a file that cannot be read. -/
def Entry.isUnread : Entry → Bool
  | .dir _ => false
  | .file text access => text.isNone || !access.read

/-! ### Trees without the files at some places -/

/-- Whether a directory can have an entry of this name. -/
def isEntryName (name : String) : Bool :=
  !name.isEmpty && name != "." && name != ".." && name.toList.all (· != '/')

namespace Node

mutual

/-- Whether the entries of each directory have proper and distinct names. -/
def wellFormed : Node → Bool
  | .file _ _ => true
  | .dir entries _ => entriesWellFormed entries

/-- The same for the entries of a directory. -/
def entriesWellFormed : List (String × Node) → Bool
  | [] => true
  | (name, node) :: rest =>
    isEntryName name && !rest.any (·.1 == name) && node.wellFormed && entriesWellFormed rest

end

mutual

/-- The tree at a place without the files at omitted ones. Nothing is left of such a file itself. -/
def without (omitted : List String → Bool) (place : List String) : Node → Option Node
  | .file text access => if omitted place then none else some (.file text access)
  | .dir entries access => some (.dir (entriesWithout omitted place entries) access)

/-- The entries of the directory at a place without the files at omitted ones. -/
def entriesWithout (omitted : List String → Bool) (place : List String) :
    List (String × Node) → List (String × Node)
  | [] => []
  | (name, node) :: rest =>
    match node.without omitted (place ++ [name]) with
    | none => entriesWithout omitted place rest
    | some node => (name, node) :: entriesWithout omitted place rest

end

variable {omitted : List String → Bool}

theorem child?_cons (name n : String) (node : Node) (rest : List (String × Node)) :
    child? name ((n, node) :: rest) = if n = name then some node else child? name rest := by
  by_cases h : n = name <;> simp [child?, h]

theorem child?_eq_none {name : String} {entries : List (String × Node)}
    (h : entries.any (·.1 == name) = false) : child? name entries = none := by
  rw [child?, Option.map_eq_none_iff, List.find?_eq_none]
  simpa using h

/-- An entry without the files at omitted places. -/
theorem child?_entriesWithout {entries : List (String × Node)}
    (h : entriesWellFormed entries = true) (place : List String) (name : String) :
    child? name (entriesWithout omitted place entries) =
      (child? name entries).bind (without omitted (place ++ [name])) := by
  induction entries with
  | nil => rfl
  | cons entry rest ih =>
    obtain ⟨n, node⟩ := entry
    simp only [entriesWellFormed, Bool.and_eq_true, Bool.not_eq_true'] at h
    rw [entriesWithout, child?_cons]
    by_cases hname : n = name
    · subst hname
      rw [if_pos rfl, Option.bind_some]
      cases hnode : node.without omitted (place ++ [n]) with
      | none => simp [ih h.2, child?_eq_none h.1.1.2]
      | some left => simp [child?_cons]
    · rw [if_neg hname]
      cases hnode : node.without omitted (place ++ [n]) with
      | none => exact ih h.2
      | some left => simp [child?_cons, hname, ih h.2]

theorem entriesWellFormed_cons {entry : String × Node} {rest : List (String × Node)}
    (h : entriesWellFormed (entry :: rest) = true) :
    entry.2.wellFormed = true ∧ entriesWellFormed rest = true := by
  simp only [entriesWellFormed, Bool.and_eq_true] at h
  exact ⟨h.1.2, h.2⟩

theorem wellFormed_of_child? {name : String} {entries : List (String × Node)} {node : Node}
    (h : entriesWellFormed entries = true) (hchild : child? name entries = some node) :
    node.wellFormed = true :=
  inherited_of_child? (P := (·.wellFormed = true)) (E := (entriesWellFormed · = true))
    (fun _ _ => entriesWellFormed_cons) h hchild

theorem wellFormed_at? {node found : Node} {place : List String} (h : node.wellFormed = true)
    (hat : node.at? place = some found) : found.wellFormed = true := by
  refine inherited_of_at? (P := (·.wellFormed = true)) (E := (entriesWellFormed · = true))
    (fun entries access hdir => ?_) (fun _ _ => entriesWellFormed_cons) h hat
  rwa [wellFormed] at hdir

/-- An entry has a proper name, and is the child of this name. -/
theorem child?_of_mem {entries : List (String × Node)} (h : entriesWellFormed entries = true)
    {name : String} {node : Node} (hmem : (name, node) ∈ entries) :
    isEntryName name = true ∧ child? name entries = some node := by
  induction entries with
  | nil => simp at hmem
  | cons entry rest ih =>
    obtain ⟨n, first⟩ := entry
    simp only [entriesWellFormed, Bool.and_eq_true, Bool.not_eq_true'] at h
    obtain ⟨⟨⟨hname, hdistinct⟩, -⟩, hrest⟩ := h
    rw [child?_cons]
    rcases List.mem_cons.mp hmem with heq | hmem
    · obtain ⟨rfl, rfl⟩ := Prod.mk.inj heq
      exact ⟨hname, if_pos rfl⟩
    · have hne : n ≠ name := by
        rintro rfl
        have := List.any_eq_false.mp hdistinct _ hmem
        simp at this
      rw [if_neg hne]
      exact ih hrest hmem

/-- A place leads to the same node, without the files at omitted places. -/
theorem at?_without {node : Node} (h : node.wellFormed = true) (place below : List String) :
    (node.at? below).bind (without omitted (place ++ below)) =
      (node.without omitted place).bind (·.at? below) := by
  induction below generalizing node place with
  | nil => simp [at?]
  | cons name rest ih =>
    cases node with
    | file text access =>
      rw [without]
      split <;> rfl
    | dir entries access =>
      rw [wellFormed] at h
      rw [without, Option.bind_some, at?_cons, at?_cons, Node.entries, Node.entries,
        child?_entriesWithout h]
      cases hchild : child? name entries with
      | none => rfl
      | some child =>
        rw [Option.bind_some, Option.bind_some, ← ih (wellFormed_of_child? h hchild),
          List.append_assoc, List.singleton_append]

/-- What counts of a node is what is left of it. -/
theorem filter_counts_toEntry (node : Node) (place : List String) :
    (some node.toEntry).filter (Entry.counts omitted place) =
      (node.without omitted place).map toEntry := by
  cases node with
  | dir entries access => rfl
  | file text access =>
    rw [without, toEntry, Option.filter_some, Entry.counts]
    cases omitted place <;> rfl

theorem eq_dir_of_without {node : Node} {place : List String} {entries : List (String × Node)}
    {access : Access} (h : node.without omitted place = some (.dir entries access)) :
    ∃ all, node = .dir all access ∧ entriesWithout omitted place all = entries := by
  cases node with
  | file text access' => simp [without] at h
  | dir all access' =>
    simp only [without, Option.some.injEq, Node.dir.injEq] at h
    obtain ⟨hentries, rfl⟩ := h
    exact ⟨all, rfl, hentries⟩

/-- A file that does not count is left out, and others are kept as they are. -/
theorem without_file_eq_some_iff {text : Option String} {access : Access} {place : List String}
    {left : Node} : (file text access).without omitted place = some left ↔
      omitted place = false ∧ left = .file text access := by
  rw [without]
  cases omitted place with
  | true => simp
  | false => simpa using eq_comm

theorem eq_file_of_without {node : Node} {place : List String} {text : Option String}
    {access : Access} (h : node.without omitted place = some (.file text access)) :
    node = .file text access := by
  cases node with
  | dir all access' => simp [without] at h
  | file text' access' => exact (without_file_eq_some_iff.mp h).2.symm

theorem counts_of_without {node left : Node} {place : List String}
    (h : node.without omitted place = some left) : node.toEntry.counts omitted place = true := by
  cases node with
  | dir entries access => rfl
  | file text access => simp [toEntry, Entry.counts, (without_file_eq_some_iff.mp h).1]

end Node

namespace Disk

/-- No path leads to a file at an omitted place that can be read. -/
def Unread (omitted : List String → Bool) (disk : Disk) : Prop :=
  ∀ path text place, disk.readText path = .ok text → disk.locate path = .ok place →
    omitted place = false

variable {omitted : List String → Bool} {disk other : Disk}

/-- A file whose bytes are no text, or that may not be read, cannot be read by any path. -/
theorem unread_beq {place : List String}
    (h : ∀ entry ∈ disk.view? place, entry.isUnread = true) : disk.Unread (· == place) := by
  intro path text found hread hlocate
  obtain ⟨access, hnode, haccess⟩ := readText_eq_ok_iff.mp hread
  obtain ⟨found', hlocate', hentry⟩ := entry_of_node? hnode
  obtain rfl : found = found' := by simpa [hlocate] using hlocate'
  refine beq_eq_false_iff_ne.mpr fun hplace => ?_
  have hunread := h _ (hplace ▸ hentry)
  simp [Node.toEntry, Entry.isUnread, haccess] at hunread

/-- Two disks that are the same without the files at the omitted places, where none can be read. -/
structure SameTexts (omitted : List String → Bool) (disk other : Disk) : Prop where
  wellFormed : disk.root.wellFormed = true
  wellFormed_other : other.root.wellFormed = true
  here : disk.here = other.here
  without : disk.root.without omitted [] = other.root.without omitted []
  unread : disk.Unread omitted
  unread_other : other.Unread omitted

namespace SameTexts

theorem symm (h : SameTexts omitted disk other) : SameTexts omitted other disk :=
  ⟨h.wellFormed_other, h.wellFormed, h.here.symm, h.without.symm, h.unread_other, h.unread⟩

/-- A place leads to the same node, without the files at omitted places. -/
theorem at?_bind (h : SameTexts omitted disk other) (place : List String) :
    (disk.root.at? place).bind (Node.without omitted place) =
      (other.root.at? place).bind (Node.without omitted place) := by
  have hleft : ∀ node : Node, node.wellFormed = true →
      (node.at? place).bind (Node.without omitted place) =
        (node.without omitted []).bind (·.at? place) :=
    fun _ hnode => Node.at?_without hnode [] place
  rw [hleft _ h.wellFormed, hleft _ h.wellFormed_other, h.without]

theorem alike (h : SameTexts omitted disk other) : Alike omitted disk other := by
  have hentry : ∀ (d : Disk) place, (d.view? place).filter (Entry.counts omitted place) =
      ((d.root.at? place).bind (Node.without omitted place)).map Node.toEntry := by
    intro d place
    rw [Disk.view?, Node.view?]
    cases d.root.at? place with
    | none => rfl
    | some node => exact node.filter_counts_toEntry place
  refine ⟨h.here, fun place => ?_⟩
  rw [hentry, hentry, h.at?_bind]

/-! ### Reading -/

/-- A path leads to the same node, without the files at omitted places. -/
theorem node? (h : SameTexts omitted disk other) {path : String} {place : List String}
    {node left : Node} (hnode : disk.node? path = .ok node) (hplace : disk.locate path = .ok place)
    (hleft : node.without omitted place = some left) :
    ∃ found, other.node? path = .ok found ∧ other.locate path = .ok place ∧
      found.without omitted place = some left := by
  obtain ⟨place', hlocate, hat, hslash⟩ := node?_eq_ok_iff.mp hnode
  obtain rfl : place = place' := by simpa [hplace] using hlocate
  have hother := h.at?_bind place
  rw [hat, Option.bind_some, hleft] at hother
  obtain ⟨found, hfound, hwithout⟩ := Option.bind_eq_some_iff.mp hother.symm
  -- The entry counts, so the steps to it are the same.
  have hview : disk.view? place = some node.toEntry := by
    rw [Disk.view?, Node.view?, hat, Option.map_some]
  obtain ⟨hempty, hfollow⟩ := locate_eq_ok_iff.mp hplace
  have hfollow' := h.alike.follow hfollow hview (Node.counts_of_without hleft)
  have hlocate' : other.locate path = .ok place :=
    locate_eq_ok_iff.mpr ⟨hempty, h.alike.start path ▸ hfollow'⟩
  refine ⟨found, node?_eq_ok_iff.mpr ⟨place, hlocate', hfound, ?_⟩, hlocate', hwithout⟩
  rintro text access rfl
  obtain ⟨-, rfl⟩ := Node.without_file_eq_some_iff.mp hwithout
  exact hslash text access (Node.eq_file_of_without hleft)

/-- Every text file has the same text on both. -/
theorem readText_eq_ok (h : SameTexts omitted disk other) {path text : String}
    (hread : disk.readText path = .ok text) : other.readText path = .ok text := by
  obtain ⟨access, hnode, haccess⟩ := readText_eq_ok_iff.mp hread
  obtain ⟨place, hplace, -⟩ := entry_of_node? hnode
  have hkept : (Node.file (some text) access).without omitted place =
      some (.file (some text) access) :=
    Node.without_file_eq_some_iff.mpr ⟨h.unread path text place hread hplace, rfl⟩
  obtain ⟨found, hfound, -, hwithout⟩ := h.node? hnode hplace hkept
  rw [Node.eq_file_of_without hwithout] at hfound
  exact readText_eq_ok_iff.mpr ⟨access, hfound, haccess⟩

theorem readText (h : SameTexts omitted disk other) (path : String) :
    (disk.readText path).toOption = (other.readText path).toOption := by
  cases hread : disk.readText path with
  | ok text => rw [h.readText_eq_ok hread]
  | error fault =>
    cases hother : other.readText path with
    | error _ => rfl
    | ok text =>
      rw [h.symm.readText_eq_ok hother] at hread
      simp at hread

end SameTexts

/-! ### Going through directories -/

/-- Whether the file that a path leads to can be read. -/
def isReadable (disk : Disk) (path : String) : Bool :=
  (disk.readText path).toOption.isSome

/-- The path leads to the node at the place if one may go on to it, and else to nothing that can be
read. -/
def Leads (disk : Disk) (reached : Bool) (path : String) (place : List String) (node : Node) :
    Prop :=
  if reached then disk.node? path = .ok node ∧ disk.locate path = .ok place
  else disk.isReadable path = false

theorem Leads.isReadable_of_omitted {reached : Bool} {path : String} {place : List String}
    {node : Node} (h : disk.Leads reached path place node) (hunread : disk.Unread omitted)
    (homitted : omitted place = true) : disk.isReadable path = false := by
  cases reached with
  | false => exact h
  | true =>
    rw [isReadable]
    cases hread : disk.readText path with
    | error fault => rfl
    | ok text => simp [hunread path text place hread h.2] at homitted

/-- The path of an entry leads to it, if one may go through the directory. -/
theorem leads_join (hdisk : disk.root.wellFormed = true) {dir name : String} {place : List String}
    {entries : List (String × Node)} {access : Access} {node : Node}
    (hdir : disk.node? dir = .ok (.dir entries access)) (hplace : disk.locate dir = .ok place)
    (hentry : (name, node) ∈ entries) :
    disk.Leads access.enter (Path.join dir name) (place ++ [name]) node := by
  obtain ⟨place', hlocate, hat, -⟩ := node?_eq_ok_iff.mp hdir
  obtain rfl : place = place' := by simpa [hplace] using hlocate
  obtain ⟨hdirEmpty, hfollow⟩ := locate_eq_ok_iff.mp hplace
  have hentries : Node.entriesWellFormed entries = true := by
    have hnode := Node.wellFormed_at? hdisk hat
    rwa [Node.wellFormed] at hnode
  obtain ⟨hname, hchild⟩ := Node.child?_of_mem hentries hentry
  simp only [isEntryName, Bool.and_eq_true, Bool.not_eq_true', bne_iff_ne, List.all_eq_true] at hname
  obtain ⟨⟨⟨hempty, hhere⟩, hup⟩, hslash⟩ := hname
  have hview : disk.view? place = some (.dir access) := by
    rw [view?, Node.view?, hat]
    rfl
  have hnamed : named (Path.join dir name) = named dir ++ [name] := by
    simp [named_join, named_of_forall hslash, hempty]
  cases henter : access.enter with
  | false =>
    -- The last step needs to go through the directory.
    have hlocate' : disk.locate (Path.join dir name) = .error .denied := by
      rw [locate, isEmpty_join hdirEmpty, start_join disk hdirEmpty, hnamed, follow_append, hfollow]
      simp [Except.bind, follow_cons, hview, henter]
    simp [Leads, isReadable, Disk.readText, Disk.node?, hlocate']
  | true =>
    have hfound : disk.root.at? (place ++ [name]) = some node := by
      rw [Node.at?_append, hat, Option.bind_some, Node.at?_cons, Node.entries, hchild]
      simp [Node.at?]
    have hstep : disk.follow place [name] = .ok (place ++ [name]) :=
      follow_singleton_eq_ok_iff.mpr ⟨⟨access, hview, henter⟩,
        .inr (.inr ⟨hhere, hup, rfl, by rw [isSome_view?, hfound]; rfl⟩)⟩
    have hlocate' : disk.locate (Path.join dir name) = .ok (place ++ [name]) := by
      refine locate_eq_ok_iff.mpr ⟨isEmpty_join hdirEmpty name, ?_⟩
      rw [start_join disk hdirEmpty, hnamed, follow_append, hfollow]
      exact hstep
    refine ⟨node?_eq_ok_iff.mpr ⟨place ++ [name], hlocate', hfound, fun _ _ _ => ?_⟩, hlocate'⟩
    exact endsWith_join dir hempty hslash

/-! ### The files below a directory -/

mutual

/-- The files of a tree that can be read are those that are left without the ones at omitted places. -/
theorem filter_filesOf (hdisk : disk.root.wellFormed = true) (hunread : disk.Unread omitted)
    (path full : String) (reached : Bool) (place : List String) :
    (node : Node) → disk.Leads reached full place node →
      (filesOf path reached node).filter (·.2.isOk) =
        ((node.without omitted place).elim [] (filesOf path reached)).filter (·.2.isOk)
  | .file text access, hleads => by
    rw [Node.without]
    cases homitted : omitted place with
    | false => rfl
    | true =>
      have hread := hleads.isReadable_of_omitted hunread homitted
      cases reached with
      | false => rfl
      | true =>
        rw [isReadable, Disk.readText, hleads.1] at hread
        cases hfile : readFile text access with
        | ok found => simp [hfile] at hread
        | error fault => simp [filesOf, hfile]
  | .dir entries access, hleads => by
    rw [Node.without, Option.elim, filesOf, filesOf]
    split
    · next hopen =>
      rw [Bool.and_eq_true] at hopen
      obtain ⟨rfl, -⟩ := hopen
      exact filter_filesIn hdisk hunread path full access.enter place entries
        (fun _ _ hentry => leads_join hdisk hleads.1 hleads.2 hentry)
    · rfl

/-- The same for the entries of a directory. -/
theorem filter_filesIn (hdisk : disk.root.wellFormed = true) (hunread : disk.Unread omitted)
    (path full : String) (reached : Bool) (place : List String) :
    (entries : List (String × Node)) →
      (∀ name node, (name, node) ∈ entries →
        disk.Leads reached (Path.join full name) (place ++ [name]) node) →
      (filesIn path reached entries).filter (·.2.isOk) =
        (filesIn path reached (Node.entriesWithout omitted place entries)).filter (·.2.isOk)
  | [], _ => rfl
  | (name, node) :: rest, hentries => by
    have hnode := hentries name node List.mem_cons_self
    have hrest := filter_filesIn hdisk hunread path full reached place rest
      (fun n child hentry => hentries n child (List.mem_cons_of_mem _ hentry))
    rw [filesIn, List.filter_append, filter_filesOf hdisk hunread _ _ reached _ node hnode, hrest,
      Node.entriesWithout]
    cases node.without omitted (place ++ [name]) with
    | none => rfl
    | some left => rw [filesIn, List.filter_append]; rfl

end

theorem filesBelow_of_dir {dir : String} {entries : List (String × Node)} {access : Access}
    (h : disk.node? dir = .ok (.dir entries access)) :
    disk.filesBelow dir = filesOf "" true (.dir entries access) := by
  rw [filesBelow, h]

theorem filesBelow_of_no_dir {dir : String}
    (h : ∀ entries access, disk.node? dir ≠ .ok (.dir entries access)) :
    disk.filesBelow dir = [] := by
  rw [filesBelow]
  split
  · next entries access hdir => exact absurd hdir (h entries access)
  · rfl

namespace SameTexts

/-- A path leads to a directory on both, with the same entries if those at omitted places do not
count. -/
theorem node?_dir (h : SameTexts omitted disk other) {path : String}
    {entries : List (String × Node)} {access : Access}
    (hdir : disk.node? path = .ok (.dir entries access)) :
    ∃ place entries', disk.locate path = .ok place ∧ other.locate path = .ok place ∧
      other.node? path = .ok (.dir entries' access) ∧
      Node.entriesWithout omitted place entries' = Node.entriesWithout omitted place entries := by
  obtain ⟨place, hplace, -⟩ := entry_of_node? hdir
  obtain ⟨found, hfound, hplace', hwithout⟩ := h.node? hdir hplace (by rw [Node.without])
  obtain ⟨entries', rfl, hentries⟩ := Node.eq_dir_of_without hwithout
  exact ⟨place, entries', hplace, hplace', hfound, hentries⟩

/-- A path leads to such a directory on both disks, or to none on either. -/
theorem dir_or_no_dir (h : SameTexts omitted disk other) (path : String) :
    (∃ place entries entries' access,
      disk.Leads true path place (.dir entries access) ∧
      other.Leads true path place (.dir entries' access) ∧
      Node.entriesWithout omitted place entries' = Node.entriesWithout omitted place entries) ∨
    (∀ entries access, disk.node? path ≠ .ok (.dir entries access)) ∧
      ∀ entries access, other.node? path ≠ .ok (.dir entries access) := by
  by_cases hdir : ∃ entries access, disk.node? path = .ok (.dir entries access)
  · obtain ⟨entries, access, hdir⟩ := hdir
    obtain ⟨place, entries', hplace, hplace', hdir', hentries⟩ := h.node?_dir hdir
    exact .inl ⟨place, entries, entries', access, ⟨hdir, hplace⟩, ⟨hdir', hplace'⟩, hentries⟩
  · simp only [not_exists] at hdir
    refine .inr ⟨hdir, fun entries access hdir' => ?_⟩
    obtain ⟨-, entries', -, -, hback, -⟩ := h.symm.node?_dir hdir'
    exact hdir entries' access hback

/-- Below a directory there are the same files that can be read. -/
theorem filter_filesBelow (h : SameTexts omitted disk other) (dir : String) :
    (disk.filesBelow dir).filter (·.2.isOk) = (other.filesBelow dir).filter (·.2.isOk) := by
  obtain ⟨place, entries, entries', access, hdir, hdir', hentries⟩ | ⟨hdir, hdir'⟩ :=
    h.dir_or_no_dir dir
  · rw [filesBelow_of_dir hdir.1, filesBelow_of_dir hdir'.1,
      filter_filesOf h.wellFormed h.unread "" dir true place _ hdir,
      filter_filesOf h.wellFormed_other h.unread_other "" dir true place _ hdir',
      Node.without, Node.without, hentries]
  · rw [filesBelow_of_no_dir hdir, filesBelow_of_no_dir hdir']

theorem filter_markdownFiles (h : SameTexts omitted disk other) (dir : String) :
    (disk.markdownFiles dir).filter (·.2.isOk) = (other.markdownFiles dir).filter (·.2.isOk) := by
  rw [markdownFiles, markdownFiles, List.filter_comm, h.filter_filesBelow, List.filter_comm]

end SameTexts

/-! ### Scanning -/

/-- The source files among the findings that can be read. -/
def readableIn (disk : Disk) (found : List Finding) : List String :=
  (found.filterMap Finding.source?).filter disk.isReadable

@[simp] theorem readableIn_append (disk : Disk) (found more : List Finding) :
    disk.readableIn (found ++ more) = disk.readableIn found ++ disk.readableIn more := by
  simp [readableIn]

@[simp] theorem readableIn_nil (disk : Disk) : disk.readableIn [] = [] := rfl

mutual

/-- Without the files at omitted places the same sources are found that can be read. -/
theorem readableIn_scanNode (hdisk : disk.root.wellFormed = true) (hunread : disk.Unread omitted)
    (rules : ScanRules) (name path relative : String) (reached : Bool) (place : List String) :
    (node : Node) → disk.Leads reached path place node →
      disk.readableIn (scanNode rules name path relative reached node) =
        (node.without omitted place).elim []
          (disk.readableIn ∘ scanNode rules name path relative reached)
  | .file text access, hleads => by
    rw [Node.without]
    cases homitted : omitted place with
    | false => rfl
    | true =>
      have hread := hleads.isReadable_of_omitted hunread homitted
      rw [scanNode]
      split
      · simp [readableIn, Finding.source?, hread]
      · rfl
  | .dir entries access, hleads => by
    rw [Node.without, Option.elim, Function.comp, scanNode, scanNode]
    split
    · rfl
    · split
      · next hopen =>
        rw [Bool.and_eq_true] at hopen
        obtain ⟨rfl, -⟩ := hopen
        exact readableIn_scanEntries hdisk hunread rules path relative access.enter place entries
          (fun _ _ hentry => leads_join hdisk hleads.1 hleads.2 hentry)
      · rfl

/-- The same for the entries of a directory. -/
theorem readableIn_scanEntries (hdisk : disk.root.wellFormed = true) (hunread : disk.Unread omitted)
    (rules : ScanRules) (dir relative : String) (reached : Bool) (place : List String) :
    (entries : List (String × Node)) →
      (∀ name node, (name, node) ∈ entries →
        disk.Leads reached (Path.join dir name) (place ++ [name]) node) →
      disk.readableIn (scanEntries rules dir relative reached entries) =
        disk.readableIn
          (scanEntries rules dir relative reached (Node.entriesWithout omitted place entries))
  | [], _ => rfl
  | (name, node) :: rest, hentries => by
    have hrest := readableIn_scanEntries hdisk hunread rules dir relative reached place rest
      (fun n child hentry => hentries n child (List.mem_cons_of_mem _ hentry))
    have hnode := fun below => readableIn_scanNode hdisk hunread rules name (Path.join dir name)
      below reached (place ++ [name]) node (hentries name node List.mem_cons_self)
    rw [scanEntries, Node.entriesWithout, readableIn_append, hrest]
    generalize hbelow : (if relative.isEmpty = true then name else relative ++ "/" ++ name) = below
    by_cases hexcluded : rules.isExcluded below = true
    · rw [if_pos hexcluded]
      cases node.without omitted (place ++ [name]) with
      | none => rfl
      | some left => simp only [scanEntries, hbelow, if_pos hexcluded, readableIn_append]
    · rw [if_neg hexcluded, hnode]
      cases node.without omitted (place ++ [name]) with
      | none => rfl
      | some left =>
        simp only [scanEntries, hbelow, if_neg hexcluded, readableIn_append, Option.elim_some,
          Function.comp]

end

/-- A scan of a directory, with its sources that can be read. -/
theorem scan_of_dir {root : String} {entries : List (String × Node)} {access : Access}
    (rules : ScanRules) (hdir : disk.node? root = .ok (.dir entries access)) :
    (disk.scan rules root).map (·.filter disk.isReadable) =
      .ok (disk.readableIn
        (if access.read then scanEntries rules root "" access.enter entries else [.barred root])) := by
  rw [Disk.scan, survey, hdir]
  rfl

theorem scan_of_no_dir {root : String} (rules : ScanRules)
    (h : ∀ entries access, disk.node? root ≠ .ok (.dir entries access)) :
    disk.scan rules root = .error ⟨root⟩ := by
  rw [Disk.scan, survey]
  split
  · next entries access hdir => exact absurd hdir (h entries access)
  · rfl

namespace SameTexts

theorem isReadable (h : SameTexts omitted disk other) : disk.isReadable = other.isReadable := by
  funext path
  rw [Disk.isReadable, Disk.isReadable, h.readText]

/-- A scan finds the same sources that can be read. -/
theorem scan (h : SameTexts omitted disk other) (rules : ScanRules) (root : String) :
    (disk.scan rules root).map (·.filter disk.isReadable) =
      (other.scan rules root).map (·.filter other.isReadable) := by
  obtain ⟨place, entries, entries', access, hdir, hdir', hentries⟩ | ⟨hdir, hdir'⟩ :=
    h.dir_or_no_dir root
  · rw [scan_of_dir rules hdir.1, scan_of_dir rules hdir'.1]
    split
    · rw [readableIn_scanEntries h.wellFormed h.unread rules root "" access.enter place entries
          (fun _ _ hentry => leads_join h.wellFormed hdir.1 hdir.2 hentry),
        readableIn_scanEntries h.wellFormed_other h.unread_other rules root "" access.enter place
          entries' (fun _ _ hentry => leads_join h.wellFormed_other hdir'.1 hdir'.2 hentry),
        hentries, readableIn, readableIn, h.isReadable]
    · rfl
  · rw [scan_of_no_dir rules hdir, scan_of_no_dir rules hdir']
    rfl

end SameTexts

/-- What is parsed depends on what is read only. -/
theorem toOption_parseSource (parser : GoParser) (disk : Disk) (path : String) :
    (disk.parseSource parser path).toOption = (disk.readText path).toOption.bind fun text =>
      (parser text).map (·.toSourceFile path (GoSource.sourceChars text)) := by
  rw [parseSource]
  cases disk.readText path with
  | error fault => rfl
  | ok text =>
    cases hparse : parser text <;> simp [hparse]

/-- The sources that are parsed are among those that can be read. -/
theorem parsedSources_eq (parser : GoParser) (disk : Disk) (paths : List String) :
    parsedSources parser disk paths = (paths.filter disk.isReadable).filterMap fun path =>
      (disk.readText path).toOption.bind fun text =>
        (parser text).map (·.toSourceFile path (GoSource.sourceChars text)) := by
  induction paths with
  | nil => rfl
  | cons path rest ih =>
    rw [parsedSources] at ih ⊢
    rw [List.filterMap_cons, toOption_parseSource, List.filter_cons, isReadable]
    cases hread : (disk.readText path).toOption with
    | none => simpa using ih
    | some text => rw [Option.isSome_some, if_pos rfl, List.filterMap_cons, hread, ← ih]

/-- A scan finds the same sources that can be parsed. -/
theorem SameTexts.map_parsedSources (h : SameTexts omitted disk other) (parser : GoParser)
    (rules : ScanRules) (root : String) :
    (disk.scan rules root).map (parsedSources parser disk) =
      (other.scan rules root).map (parsedSources parser other) := by
  have hparse : ∀ d : Disk, (d.scan rules root).map (parsedSources parser d) =
      ((d.scan rules root).map (·.filter d.isReadable)).map fun paths =>
        paths.filterMap fun path => (d.readText path).toOption.bind fun text =>
          (parser text).map (·.toSourceFile path (GoSource.sourceChars text)) := by
    intro d
    cases d.scan rules root with
    | error e => rfl
    | ok paths => exact congrArg Except.ok (parsedSources_eq parser d paths)
  rw [hparse, hparse, h.scan]
  simp only [h.readText]

/-! ### External texts -/

/-- Reading files fails at the first one that cannot be read. -/
theorem readFiles_eq (dir : String) (files : List (String × Except FileFault String)) :
    readFiles dir files =
      match files.filter (!·.2.isOk) with
      | (path, .error fault) :: _ => .error ⟨Path.join dir path, fault⟩
      | _ => .ok ((files.filter (·.2.isOk)).filterMap fun file =>
          file.2.toOption.map (file.1, ·)) := by
  induction files with
  | nil => rfl
  | cons file rest ih =>
    obtain ⟨path, text⟩ := file
    rw [readFiles] at ih ⊢
    rw [List.mapM_cons, ih]
    cases text with
    | error fault => rfl
    | ok text =>
      rw [List.filter_cons_of_neg (by simp), List.filter_cons_of_pos (by simp)]
      cases rest.filter (!·.2.isOk) with
      | nil => rfl
      | cons bad more =>
        obtain ⟨path', text'⟩ := bad
        cases text' <;> rfl

/-- The same files can be read, or the same one cannot. -/
theorem readFiles_congr {dir : String} {files others : List (String × Except FileFault String)}
    (hsome : files.filter (·.2.isOk) = others.filter (·.2.isOk))
    (hnone : files.filter (!·.2.isOk) = others.filter (!·.2.isOk)) :
    readFiles dir files = readFiles dir others := by
  rw [readFiles_eq, readFiles_eq, hsome, hnone]

end Disk

end AnnotatedApi
