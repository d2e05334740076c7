import AnnotatedApi.Proofs.Disk.Path

/-!
A disk as a map from places to entries.

A place is the list of names that leads to a file or directory from the root. `Disk.view?` forgets
what a directory holds, so a change at one place is a change of this map at one place.

* `Disk.view?_put` — putting a file or an empty directory changes one place;
* `Disk.follow_cons_eq_ok_iff`, `Disk.follow_singleton_eq_ok_iff` — where steps lead, one by one;
* `Disk.follow_mono` — they lead to the same place after entries were added.
-/

namespace AnnotatedApi

open Text

/-! ### Results and failures -/

@[simp] theorem ok_bind {ε α β : Type} (a : α) (f : α → Except ε β) :
    (Except.ok a >>= f) = f a :=
  rfl

@[simp] theorem error_bind {ε α β : Type} (e : ε) (f : α → Except ε β) :
    (Except.error e >>= f) = .error e :=
  rfl

@[simp] theorem throw_eq_error {ε α : Type} (e : ε) : (throw e : Except ε α) = .error e :=
  rfl

@[simp] theorem pure_eq_ok {ε α : Type} (a : α) : (pure a : Except ε α) = .ok a :=
  rfl

theorem bind_eq_ok_iff {ε α β : Type} {x : Except ε α} {f : α → Except ε β} {b : β} :
    x >>= f = .ok b ↔ ∃ a, x = .ok a ∧ f a = .ok b := by
  cases x <;> simp

@[simp] theorem isOk_ok {ε α : Type} (a : α) : (Except.ok a : Except ε α).isOk = true :=
  rfl

@[simp] theorem isOk_error {ε α : Type} (e : ε) : (Except.error e : Except ε α).isOk = false :=
  rfl

@[simp] theorem toOption_ok {ε α : Type} (a : α) :
    (Except.ok a : Except ε α).toOption = some a :=
  rfl

@[simp] theorem toOption_error {ε α : Type} (e : ε) :
    (Except.error e : Except ε α).toOption = none :=
  rfl

/-! ### Entries -/

/-- What stands at a place, without what a directory holds. -/
inductive Entry where
  | dir (access : Access)
  | file (text : Option String) (access : Access)
deriving DecidableEq, Repr

namespace Node

/-- The entry that a node stands for. -/
def toEntry : Node → Entry
  | .dir _ access => .dir access
  | .file text access => .file text access

/-- The entry at a place. -/
def view? (node : Node) (place : List String) : Option Entry :=
  (node.at? place).map toEntry

theorem toEntry_eq_dir {node : Node} {access : Access} (h : node.toEntry = .dir access) :
    node = .dir node.entries access := by
  cases node with
  | dir entries access' =>
    obtain rfl := Entry.dir.inj h
    rfl
  | file text access' => simp [toEntry] at h

theorem toEntry_eq_file {node : Node} {text : Option String} {access : Access}
    (h : node.toEntry = .file text access) : node = .file text access := by
  cases node with
  | dir entries access' => simp [toEntry] at h
  | file text' access' =>
    obtain ⟨rfl, rfl⟩ := Entry.file.inj h
    rfl

theorem at?_cons (node : Node) (name : String) (rest : List String) :
    node.at? (name :: rest) = (child? name node.entries).bind (·.at? rest) := by
  cases node <;> rfl

theorem at?_append (node : Node) (place below : List String) :
    node.at? (place ++ below) = (node.at? place).bind (·.at? below) := by
  induction place generalizing node with
  | nil => simp [at?]
  | cons name rest ih =>
    rw [List.cons_append, at?_cons, at?_cons, Option.bind_assoc]
    exact congrArg _ (funext fun child => ih child)

section Inherited

variable {P : Node → Prop} {E : List (String × Node) → Prop} {entries : List (String × Node)}
  {name : String} {place : List String} {node child found : Node}

/-- What holds of all entries together, one after another, holds of the child of a name. -/
theorem inherited_of_child? (hcons : ∀ entry rest, E (entry :: rest) → P entry.2 ∧ E rest)
    (h : E entries) (hchild : child? name entries = some child) : P child := by
  induction entries with
  | nil => simp [child?] at hchild
  | cons entry rest ih =>
    obtain ⟨hentry, hrest⟩ := hcons entry rest h
    rw [child?, List.find?_cons] at hchild
    split at hchild
    · exact Option.some.inj hchild ▸ hentry
    · exact ih hrest hchild

/-- What a directory passes on to its entries holds of everything below. -/
theorem inherited_of_at? (hdir : ∀ entries access, P (.dir entries access) → E entries)
    (hcons : ∀ entry rest, E (entry :: rest) → P entry.2 ∧ E rest) (h : P node)
    (hat : node.at? place = some found) : P found := by
  induction place generalizing node with
  | nil =>
    obtain rfl : node = found := by simpa [at?] using hat
    exact h
  | cons name rest ih =>
    cases node with
    | file text access => simp [at?] at hat
    | dir entries access =>
      obtain ⟨child, hchild, hrest⟩ := Option.bind_eq_some_iff.mp (at?_cons _ _ _ ▸ hat)
      exact ih (inherited_of_child? hcons (hdir entries access h) hchild) hrest

end Inherited

@[simp] theorem view?_nil (node : Node) : node.view? [] = some node.toEntry := by
  simp [view?, at?]

theorem view?_cons (node : Node) (name : String) (rest : List String) :
    node.view? (name :: rest) = (child? name node.entries).bind (·.view? rest) := by
  rw [view?, at?_cons, Option.map_bind]
  rfl

theorem at?_eq_some_file {node : Node} {place : List String} {text : Option String}
    {access : Access} (h : node.view? place = some (.file text access)) :
    node.at? place = some (.file text access) := by
  obtain ⟨found, hfound, hentry⟩ := Option.map_eq_some_iff.mp h
  rw [hfound, toEntry_eq_file hentry]

/-- Nothing stands below a place without a directory. -/
theorem view?_below {node : Node} {place : List String}
    (h : ∀ access, node.view? place ≠ some (.dir access)) (name : String) (rest : List String) :
    node.view? (place ++ name :: rest) = none := by
  rw [view?, at?_append]
  cases hat : node.at? place with
  | none => rfl
  | some found =>
    cases found with
    | file text access => rfl
    | dir entries access => exact absurd (by simp [view?, hat, toEntry]) (h access)

/-- An entry is put in place of one with the same name. -/
theorem child?_putEntry (name other : String) (node : Node) (entries : List (String × Node)) :
    child? other (putEntry name node entries) =
      if name = other then some node else child? other entries := by
  induction entries with
  | nil => by_cases h : name = other <;> simp [putEntry, child?, h]
  | cons entry rest ih =>
    obtain ⟨n, old⟩ := entry
    rw [putEntry]
    split
    · by_cases h : name = other <;> simp [child?, h]
    · split
      · next hname =>
        rw [beq_iff_eq] at hname
        by_cases h : name = other <;> simp [child?, h, ← hname]
      · next hname =>
        have hne : name ≠ n := by simpa using hname
        by_cases h : n = other
        · simp [child?, h, h ▸ hne]
        · simpa [child?, h] using ih

/-- Putting a file or an empty directory changes one place. -/
theorem view?_put {new : Node} (hnew : new.entries = []) {node : Node} {parent : List String}
    {name : String} {access : Access} (hparent : node.view? parent = some (.dir access))
    (hchild : ∀ access, node.view? (parent ++ [name]) ≠ some (.dir access)) (place : List String) :
    (put new (parent ++ [name]) node).view? place =
      if place = parent ++ [name] then some new.toEntry else node.view? place := by
  induction parent generalizing node place with
  | nil =>
    cases node with
    | file text access' => simp [toEntry] at hparent
    | dir entries access' =>
      rw [List.nil_append] at hchild ⊢
      cases place with
      | nil => simp [put, toEntry, dirAccess]
      | cons first rest =>
        rw [put, view?_cons, Node.entries, child?_putEntry]
        by_cases hfirst : name = first
        · subst hfirst
          cases rest with
          | nil => simp [put]
          | cons second rest =>
            -- A file or an empty directory has nothing below it, and neither had what stood there.
            have hbelow : (Node.dir entries access').view? (name :: second :: rest) = none :=
              view?_below hchild second rest
            simp [put, hbelow, view?_cons, hnew, child?]
        · simp [hfirst, Ne.symm hfirst, view?_cons, Node.entries]
  | cons top parent ih =>
    rw [List.cons_append] at hchild ⊢
    rw [view?_cons] at hparent hchild
    cases hchild? : child? top node.entries with
    | none => simp [hchild?] at hparent
    | some below =>
      rw [hchild?, Option.bind_some] at hparent hchild
      cases place with
      | nil =>
        cases node with
        | file text access' => simp [child?, Node.entries] at hchild?
        | dir entries access' => simp [put, toEntry, dirAccess]
      | cons first rest =>
        rw [put, view?_cons, Node.entries, child?_putEntry, view?_cons, hchild?]
        by_cases hfirst : top = first
        · subst hfirst
          simp [hchild?, ih hparent hchild]
        · simp [hfirst, Ne.symm hfirst]

end Node

namespace Disk

/-- The entry at a place. -/
def view? (disk : Disk) (place : List String) : Option Entry :=
  disk.root.view? place

theorem isSome_view? (disk : Disk) (place : List String) :
    (disk.view? place).isSome = (disk.root.at? place).isSome := by
  rw [view?, Node.view?, Option.isSome_map]

theorem view?_put {disk : Disk} {node : Node} (hnode : node.entries = []) {parent : List String}
    {name : String} {access : Access} (hparent : disk.view? parent = some (.dir access))
    (hchild : ∀ access, disk.view? (parent ++ [name]) ≠ some (.dir access)) (place : List String) :
    (disk.put (parent ++ [name]) node).view? place =
      if place = parent ++ [name] then some node.toEntry else disk.view? place :=
  Node.view?_put hnode hparent hchild place

/-- The directory that something is put in stays the same. -/
theorem view?_put_parent {disk : Disk} {node : Node} (hnode : node.entries = [])
    {parent : List String} {name : String} {access : Access}
    (hparent : disk.view? parent = some (.dir access))
    (hchild : ∀ access, disk.view? (parent ++ [name]) ≠ some (.dir access)) :
    (disk.put (parent ++ [name]) node).view? parent = some (.dir access) := by
  rw [view?_put hnode hparent hchild, if_neg (by simp), hparent]

/-- Entries may be added to a directory that is open for writing. -/
theorem mayAdd_eq (disk : Disk) (place : List String) :
    disk.mayAdd place =
      match disk.view? place with
      | some (.dir access) => access.write
      | _ => false := by
  rw [mayAdd, view?, Node.view?]
  cases disk.root.at? place with
  | none => rfl
  | some node => cases node <;> rfl

/-! ### Following steps -/

@[simp] theorem follow_nil (disk : Disk) (done : List String) : disk.follow done [] = .ok done :=
  rfl

/-- One step, by what stands where it starts. -/
theorem follow_cons (disk : Disk) (done : List String) (step : String) (rest : List String) :
    disk.follow done (step :: rest) =
      match disk.view? done with
      | none => .error .notFound
      | some (.file _ _) => .error .notDirectory
      | some (.dir access) =>
        if !access.enter then .error .denied
        else if step == "." then disk.follow done rest
        else if step == ".." then disk.follow done.dropLast rest
        else if (disk.view? (done ++ [step])).isSome then disk.follow (done ++ [step]) rest
        else .error .notFound := by
  rw [follow, view?, view?, Node.view?, Node.view?, Node.at?_append]
  cases hat : disk.root.at? done with
  | none => rfl
  | some node =>
    cases node with
    | file text access => rfl
    | dir entries access => simp [Node.toEntry, Node.at?_cons, Node.entries, Node.at?]

/-- Steps are followed one part after the other. -/
theorem follow_append (disk : Disk) (done first second : List String) :
    disk.follow done (first ++ second) = (disk.follow done first).bind (disk.follow · second) := by
  induction first generalizing done with
  | nil => rfl
  | cons step rest ih =>
    rw [List.cons_append, follow_cons, follow_cons]
    cases disk.view? done with
    | none => rfl
    | some entry =>
      cases entry with
      | file text access => rfl
      | dir access =>
        simp only [ih]
        split
        · rfl
        · split
          · rfl
          · split
            · rfl
            · split <;> rfl

/-- The directories that one may go through. -/
def Enterable (disk : Disk) (place : List String) : Prop :=
  ∃ access, disk.view? place = some (.dir access) ∧ access.enter = true

/-- The places that one step leads to. -/
theorem follow_singleton_eq_ok_iff {disk : Disk} {done next : List String} {step : String} :
    disk.follow done [step] = .ok next ↔
      disk.Enterable done ∧
        (step = "." ∧ next = done ∨
          step = ".." ∧ next = done.dropLast ∨
          step ≠ "." ∧ step ≠ ".." ∧ next = done ++ [step] ∧ (disk.view? next).isSome) := by
  rw [follow_cons, Enterable]
  cases disk.view? done with
  | none => simp
  | some entry =>
    cases entry with
    | file text access => simp
    | dir access =>
      cases henter : access.enter with
      | false => simp [henter]
      | true =>
        simp only [beq_iff_eq, follow_nil, Option.some.injEq, Entry.dir.injEq, exists_eq_left',
          henter, true_and, Bool.not_true, Bool.false_eq_true, if_false]
        by_cases hhere : step = "."
        · rw [if_pos hhere, Except.ok.injEq]
          simpa [hhere] using eq_comm
        · rw [if_neg hhere]
          by_cases hup : step = ".."
          · rw [if_pos hup, Except.ok.injEq]
            simpa [hup] using eq_comm
          · rw [if_neg hup]
            split
            · next hchild =>
              rw [Except.ok.injEq]
              constructor
              · rintro rfl
                exact .inr (.inr ⟨hhere, hup, rfl, hchild⟩)
              · rintro (⟨h, -⟩ | ⟨h, -⟩ | ⟨-, -, h, -⟩)
                · exact absurd h hhere
                · exact absurd h hup
                · exact h.symm
            · next hchild =>
              refine iff_of_false (by simp) ?_
              rintro (⟨h, -⟩ | ⟨h, -⟩ | ⟨-, -, rfl, h⟩)
              · exact hhere h
              · exact hup h
              · exact hchild h

/-- The first step, and then the others. -/
theorem follow_cons_eq_ok_iff {disk : Disk} {done place : List String} {step : String}
    {rest : List String} :
    disk.follow done (step :: rest) = .ok place ↔
      ∃ next, disk.follow done [step] = .ok next ∧ disk.follow next rest = .ok place := by
  rw [← List.singleton_append, follow_append]
  cases disk.follow done [step] <;> simp [Except.bind]

/-- Steps lead to the same place after entries were added. -/
theorem follow_mono {disk after : Disk}
    (hdir : ∀ place access, disk.view? place = some (.dir access) →
      after.view? place = some (.dir access))
    (hsome : ∀ place, (disk.view? place).isSome → (after.view? place).isSome)
    {steps done place : List String} (h : disk.follow done steps = .ok place) :
    after.follow done steps = .ok place := by
  induction steps generalizing done with
  | nil => exact h
  | cons step rest ih =>
    obtain ⟨next, hstep, hrest⟩ := follow_cons_eq_ok_iff.mp h
    refine follow_cons_eq_ok_iff.mpr ⟨next, ?_, ih hrest⟩
    obtain ⟨⟨access, hdone, henter⟩, hnext⟩ := follow_singleton_eq_ok_iff.mp hstep
    refine follow_singleton_eq_ok_iff.mpr ⟨⟨access, hdir _ _ hdone, henter⟩, ?_⟩
    rcases hnext with hhere | hup | ⟨hne, hne', rfl, hchild⟩
    · exact .inl hhere
    · exact .inr (.inl hup)
    · exact .inr (.inr ⟨hne, hne', rfl, hsome _ hchild⟩)

/-! ### What paths lead to -/

/-- The place of a path is where its names lead. -/
theorem locate_eq_ok_iff {disk : Disk} {path : String} {place : List String} :
    disk.locate path = .ok place ↔
      path.isEmpty = false ∧ disk.follow (disk.start path) (named path) = .ok place := by
  rw [locate]
  cases path.isEmpty <;> simp

/-- A path leads to the node at its place, unless a final slash asks for another. -/
theorem node?_eq_ok_iff {disk : Disk} {path : String} {node : Node} :
    disk.node? path = .ok node ↔
      ∃ place, disk.locate path = .ok place ∧ disk.root.at? place = some node ∧
        ∀ text access, node = .file text access → endsWith "/" path = false := by
  rw [node?]
  cases hlocate : disk.locate path with
  | error fault => simp
  | ok place =>
    cases hat : disk.root.at? place with
    | none => simp [hat]
    | some found =>
      cases found with
      | dir entries access =>
        simp only [ok_bind, hat, pure_eq_ok, Except.ok.injEq, exists_eq_left', Option.some.injEq]
        refine ⟨?_, And.left⟩
        rintro rfl
        exact ⟨rfl, fun _ _ h => by simp at h⟩
      | file text access =>
        cases hslash : endsWith "/" path with
        | true =>
          simp only [ok_bind, hat, Except.ok.injEq, exists_eq_left', Option.some.injEq]
          refine iff_of_false (by simp) ?_
          rintro ⟨rfl, h⟩
          simpa using h text access rfl
        | false => simp [hat]

theorem entry_of_node? {disk : Disk} {path : String} {node : Node} (h : disk.node? path = .ok node) :
    ∃ place, disk.locate path = .ok place ∧ disk.view? place = some node.toEntry := by
  obtain ⟨place, hlocate, hat, -⟩ := node?_eq_ok_iff.mp h
  exact ⟨place, hlocate, by rw [view?, Node.view?, hat, Option.map_some]⟩

theorem isDir_iff {disk : Disk} {path : String} :
    disk.isDir path = true ↔
      ∃ place access, disk.locate path = .ok place ∧ disk.view? place = some (.dir access) := by
  rw [isDir]
  constructor
  · intro h
    split at h
    · next entries access hnode =>
      obtain ⟨place, hlocate, hentry⟩ := entry_of_node? hnode
      exact ⟨place, access, hlocate, hentry⟩
    · simp at h
  · rintro ⟨place, access, hlocate, hentry⟩
    obtain ⟨found, hfound, hdir⟩ := Option.map_eq_some_iff.mp hentry
    have hnode : disk.node? path = .ok (.dir found.entries access) := by
      rw [← Node.toEntry_eq_dir hdir]
      refine node?_eq_ok_iff.mpr ⟨place, hlocate, hfound, fun text access hfile => ?_⟩
      simp [hfile, Node.toEntry] at hdir
    simp [hnode]

/-- A text is read from the file that a path leads to. -/
theorem readText_eq_ok_iff {disk : Disk} {path text : String} :
    disk.readText path = .ok text ↔
      ∃ access, disk.node? path = .ok (.file (some text) access) ∧ access.read = true := by
  rw [readText]
  cases disk.node? path with
  | error fault => simp
  | ok node =>
    cases node with
    | dir entries access => simp
    | file found access =>
      cases hread : access.read with
      | false => simp [readFile, hread]
      | true => cases found <;> simp [readFile, hread]

end Disk

end AnnotatedApi
