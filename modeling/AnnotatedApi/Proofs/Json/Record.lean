import AnnotatedApi.Json.Field
import AnnotatedApi.Proofs.Assoc
import AnnotatedApi.Proofs.Json.Tree

/-!
Records as JSON trees: what is written can be read.

Every way to write a field leaves it out or writes one value, so all of them are an `entry`.  What
reads a value that was written gives back what was there (`readOptional_map`, `readList_map`,
`readAssoc_ofAssoc`), and the value under a name is found among the other fields (`get?_entry`).

A record that takes unknown names as extensions is described by its slots: `Slot.foldrM_fields` says
that reading the fields which the slots write, from the last to the first, restores the record.

The last two sections are about properties of trees: `Lenient.record` says when `P` holds everywhere
in the tree of a record, and `Yields` collects what holds of all that is read.
-/

namespace AnnotatedApi

@[simp] theorem Assoc.get?_nil {α : Type} (key : String) : get? ([] : Assoc α) key = none := rfl

@[simp] theorem Assoc.get?_append {α : Type} (l m : Assoc α) (key : String) :
    get? (l ++ m) key = (get? l key).or (get? m key) := by
  induction l with
  | nil => rfl
  | cons e rest ih =>
    obtain ⟨k, v⟩ := e
    by_cases hk : k = key
    · simp [get?, hk]
    · simp [get?, hk, ih]

namespace Json

/-! ### Fields that may be left out -/

/-- A field with the given value, or none. -/
def entry (key : String) (value : Option Json) : Fields :=
  value.toList.map (key, ·)

/-- The value of a field that is left out when false. -/
def flagValue (b : Bool) : Option Json :=
  if b then some (.bool true) else none

/-- The value of a field that is left out when empty. -/
def listValue {α : Type} (write : α → Json) (l : List α) : Option Json :=
  if l.isEmpty then none else some (.arr (l.map write))

/-- The value of a field with one inner field for each entry, left out when empty. -/
def mapValue {α : Type} (write : α → Json) (m : Assoc α) : Option Json :=
  if m.isEmpty then none else some (ofAssoc write m)

section Writing

variable {α : Type} (key : String) (write : α → Json)

@[simp] theorem optional_eq_entry (v : Option α) : optional key write v = entry key (v.map write) := by
  cases v <;> rfl

@[simp] theorem flag_eq_entry (b : Bool) : flag key b = entry key (flagValue b) := by
  cases b <;> rfl

@[simp] theorem listed_eq_entry (l : List α) : listed key write l = entry key (listValue write l) := by
  cases l <;> rfl

@[simp] theorem mapping_eq_entry (m : Assoc α) : mapping key write m = entry key (mapValue write m) := by
  cases m <;> rfl

@[simp] theorem get?_entry (name : String) (value : Option Json) :
    Assoc.get? (entry name value) key = if name = key then value else none := by
  cases value with
  | none => simp [entry]
  | some j => simp [entry, Assoc.get?]

@[simp] theorem get?_cons (name : String) (value : Json) (fields : Fields) :
    Assoc.get? ((name, value) :: fields) key =
      if name = key then some value else Assoc.get? fields key := by
  simp [Assoc.get?]

end Writing

/-! ### Reading what was written -/

section Reading

variable {α : Type} {write : α → Json} {read : Json → Option α}

/-- A list of values. -/
theorem mapM_map_eq_some {β γ : Type} {f : β → γ} {g : γ → Option β} {l : List β}
    (h : ∀ b ∈ l, g (f b) = some b) : (l.map f).mapM g = some l := by
  induction l with
  | nil => rfl
  | cons b rest ih =>
    rw [List.forall_mem_cons] at h
    rw [List.map_cons, List.mapM_cons, h.1, ih h.2]
    rfl

theorem readList_map {l : List α} (h : ∀ a ∈ l, read (write a) = some a) :
    readList read (.arr (l.map write)) = some l :=
  mapM_map_eq_some h

theorem readAssoc_ofAssoc {m : Assoc α} (h : ∀ e ∈ m, read (write e.2) = some e.2) :
    readAssoc read (ofAssoc write m) = some m := by
  refine mapM_map_eq_some fun e he => ?_
  obtain ⟨k, v⟩ := e
  have hv : read (write v) = some v := h _ he
  simp [hv]

/-- A value that is not `null` is read as it would be by itself. -/
theorem readOptional_of_ne_null {j : Json} (h : j ≠ .null) :
    readOptional read j = (read j).map some := by
  cases j with
  | null => exact absurd rfl h
  | _ => rfl

/-- An optional field: absent if left out, otherwise as it was written. -/
theorem readOptional_map {v : Option α} (hread : ∀ a ∈ v, read (write a) = some a)
    (hnull : ∀ a, write a ≠ .null) : v.elim (some none) (readOptional read ∘ write) = some v := by
  cases v with
  | none => rfl
  | some a =>
    have hread : read (write a) = some a := hread a rfl
    rw [Option.elim_some, Function.comp_apply, readOptional_of_ne_null (hnull a), hread,
      Option.map_some]

@[simp] theorem readOptional_text (v : Option String) :
    v.elim (some none) (readOptional asText? ∘ Json.str) = some v :=
  readOptional_map (fun _ _ => rfl) (by simp)

@[simp] theorem readOptional_bool (v : Option Bool) :
    v.elim (some none) (readOptional asBool? ∘ Json.bool) = some v :=
  readOptional_map (fun _ _ => rfl) (by simp)

/-- A free value of its own field, which cannot be told from an absent one if it is `null`. -/
theorem readOptional_any {v : Option Json} (h : ∀ j ∈ v, j ≠ .null) :
    v.elim (some none) (readOptional readAny) = some v := by
  cases v with
  | none => rfl
  | some j =>
    rw [Option.elim_some, readOptional_of_ne_null (h j rfl)]
    rfl

@[simp] theorem elim_flagValue (b : Bool) : (flagValue b).elim (some false) asBool? = some b := by
  cases b <;> rfl

theorem elim_listValue {l : List α} (h : ∀ a ∈ l, read (write a) = some a) :
    (listValue write l).elim (some []) (readList read) = some l := by
  cases l with
  | nil => rfl
  | cons a rest => exact readList_map h

theorem elim_mapValue {m : Assoc α} (h : ∀ e ∈ m, read (write e.2) = some e.2) :
    (mapValue write m).elim (some []) (readAssoc read) = some m := by
  cases m with
  | nil => rfl
  | cons e rest => exact readAssoc_ofAssoc h

variable (fields : Fields) (position : Nat) (key : String)

@[simp] theorem Source.required_named :
    (Source.named fields).required position key read = (Assoc.get? fields key).bind read :=
  rfl

@[simp] theorem Source.optional_named :
    (Source.named fields).optional position key read =
      (Assoc.get? fields key).elim (some none) (readOptional read) := by
  unfold Source.optional
  rw [Source.get?]
  cases Assoc.get? fields key <;> rfl

@[simp] theorem Source.defaulted_named (default : α) :
    (Source.named fields).defaulted position key default read =
      (Assoc.get? fields key).elim (some default) read := by
  unfold Source.defaulted
  rw [Source.get?]
  cases Assoc.get? fields key <;> rfl

end Reading

/-! ### Slots -/

/-- A field of the record `σ`: its name, how its value is written and read, and where it stands in
the record.  Only the default value is left out. -/
structure Slot (σ : Type) where
  key : String
  Value : Type
  default : Value
  write : Value → Option Json
  read : Json → Option Value
  get : σ → Value
  set : Value → σ → σ
  eq_default : ∀ v, write v = none → v = default

namespace Slot

variable {σ α : Type}

/-- A field that is left out when absent. -/
def optional (key : String) (write : α → Json) (read : Json → Option α) (get : σ → Option α)
    (set : Option α → σ → σ) : Slot σ where
  key := key
  Value := Option α
  default := none
  write := Option.map write
  read := readOptional read
  get := get
  set := set
  eq_default _ h := Option.map_eq_none_iff.mp h

/-- A field that is left out when false. -/
def flag (key : String) (get : σ → Bool) (set : Bool → σ → σ) : Slot σ where
  key := key
  Value := Bool
  default := false
  write := flagValue
  read := asBool?
  get := get
  set := set
  eq_default v h := by cases v with
    | false => rfl
    | true => exact absurd h (by simp [flagValue])

/-- A field that is left out when empty. -/
def listed (key : String) (write : α → Json) (read : Json → Option α) (get : σ → List α)
    (set : List α → σ → σ) : Slot σ where
  key := key
  Value := List α
  default := []
  write := listValue write
  read := readList read
  get := get
  set := set
  eq_default v h := by cases v with
    | nil => rfl
    | cons a rest => exact absurd h (by simp [listValue])

/-- A field with one inner field for each entry, left out when empty. -/
def mapped (key : String) (write : α → Json) (read : Json → Option α) (get : σ → Assoc α)
    (set : Assoc α → σ → σ) : Slot σ where
  key := key
  Value := Assoc α
  default := []
  write := mapValue write
  read := readAssoc read
  get := get
  set := set
  eq_default v h := by cases v with
    | nil => rfl
    | cons a rest => exact absurd h (by simp [mapValue])

/-- A field of a record inside the record `σ`. -/
def inside {τ : Type} (slot : Slot τ) (get : σ → τ) (set : τ → σ → σ) : Slot σ :=
  { slot with
    get := fun s => slot.get (get s)
    set := fun v s => set (slot.set v (get s)) s }

/-- The field as it is written. -/
def field (slot : Slot σ) (s : σ) : Fields :=
  entry slot.key (slot.write (slot.get s))

/-- Takes the value of the field over from the first record into the second. -/
def copy (slot : Slot σ) (s t : σ) : σ :=
  slot.set (slot.get s) t

/-- What is written of the field in this record is read as the value it has. -/
def Restores (slot : Slot σ) (s : σ) : Prop :=
  ∀ j, slot.write (slot.get s) = some j → slot.read j = some (slot.get s)

section Restoring

variable {key : String} {write : α → Json} {read : Json → Option α} {s : σ}

theorem restores_optional {get : σ → Option α} {set : Option α → σ → σ}
    (hread : ∀ a ∈ get s, read (write a) = some a) (hnull : ∀ a ∈ get s, write a ≠ .null) :
    (optional key write read get set).Restores s := by
  intro j hj
  change (get s).map write = some j at hj
  obtain ⟨a, ha, rfl⟩ := Option.map_eq_some_iff.mp hj
  change readOptional read (write a) = some (get s)
  rw [readOptional_of_ne_null (hnull a ha), hread a ha, ha, Option.map_some]

theorem restores_flag {get : σ → Bool} {set : Bool → σ → σ} : (flag key get set).Restores s := by
  intro j hj
  change flagValue (get s) = some j at hj
  change asBool? j = some (get s)
  cases hget : get s with
  | false => rw [hget] at hj; cases hj
  | true => rw [hget] at hj; cases hj; rfl

theorem restores_listed {get : σ → List α} {set : List α → σ → σ}
    (hread : ∀ a ∈ get s, read (write a) = some a) :
    (listed key write read get set).Restores s := by
  intro j hj
  change listValue write (get s) = some j at hj
  have h := elim_listValue hread
  rwa [hj, Option.elim_some] at h

theorem restores_mapped {get : σ → Assoc α} {set : Assoc α → σ → σ}
    (hread : ∀ e ∈ get s, read (write e.2) = some e.2) :
    (mapped key write read get set).Restores s := by
  intro j hj
  change mapValue write (get s) = some j at hj
  have h := elim_mapValue hread
  rwa [hj, Option.elim_some] at h

end Restoring

/-- Reads one field: into its slot, or as an extension. -/
def readField? (slots : List (Slot σ)) (extend : String → Json → σ → σ) (e : String × Json) (s : σ) :
    Option σ :=
  match slots.find? (·.key == e.1) with
  | some slot => (slot.read e.2).map (slot.set · s)
  | none => some (extend e.1 e.2 s)

/-- Before a slot is taken over, it holds its default. -/
def Fresh (s t : σ) : List (Slot σ) → Prop
  | [] => True
  | slot :: rest =>
    slot.set slot.default (rest.foldr (·.copy s) t) = rest.foldr (·.copy s) t ∧ Fresh s t rest

theorem find?_key {slots : List (Slot σ)} (hkeys : (slots.map (·.key)).Nodup) {slot : Slot σ}
    (hslot : slot ∈ slots) : slots.find? (·.key == slot.key) = some slot := by
  induction slots with
  | nil => exact absurd hslot List.not_mem_nil
  | cons first rest ih =>
    rw [List.map_cons, List.nodup_cons] at hkeys
    rcases List.mem_cons.mp hslot with rfl | hrest
    · simp
    · have hne : first.key ≠ slot.key := fun h => hkeys.1 (h ▸ List.mem_map_of_mem hrest)
      rw [List.find?_cons_of_neg (by simpa using hne)]
      exact ih hkeys.2 hrest

/-- **Reading the fields that slots write restores the record**: from a record in which they hold
their defaults, every slot gets the value that it has in the record written. -/
theorem foldrM_fields {table : List (Slot σ)} {extend : String → Json → σ → σ}
    (hkeys : (table.map (·.key)).Nodup) {s t : σ} {slots : List (Slot σ)} (hsub : slots ⊆ table)
    (hrestores : ∀ slot ∈ slots, slot.Restores s) (hfresh : Fresh s t slots) :
    (slots.flatMap (·.field s)).foldrM (readField? table extend) t =
      some (slots.foldr (·.copy s) t) := by
  induction slots with
  | nil => rfl
  | cons slot rest ih =>
    rw [List.cons_subset] at hsub
    rw [List.forall_mem_cons] at hrestores
    rw [List.flatMap_cons, List.foldrM_append, ih hsub.2 hrestores.2 hfresh.2, List.foldr_cons,
      Option.bind_eq_bind, Option.bind_some, field]
    cases hwrite : slot.write (slot.get s) with
    | none =>
      -- A field that is left out has its default, which is there already.
      rw [copy, slot.eq_default _ hwrite, hfresh.1]
      rfl
    | some j =>
      have hfield : readField? table extend (slot.key, j) (rest.foldr (·.copy s) t) =
          some (slot.copy s (rest.foldr (·.copy s) t)) := by
        rw [readField?, find?_key hkeys hsub.1]
        simp only [hrestores.1 j hwrite, Option.map_some]
        rfl
      simpa [entry] using hfield

end Slot

/-! ### Properties of the trees of records -/

/-- `P` allows an object to have these keys. -/
def AllowsKeys (P : Json → Prop) (keys : List String) : Prop :=
  ∀ fields, Assoc.keys fields = keys → P (.obj fields)

/-- `P` holds of texts, flags and lists, and of objects that repeat no key. -/
structure Lenient (P : Json → Prop) : Prop where
  str : ∀ s, P (.str s)
  bool : ∀ b, P (.bool b)
  arr : ∀ items, P (.arr items)
  obj : ∀ keys, keys.Nodup → AllowsKeys P keys

theorem lenient_finiteTop : Lenient FiniteTop :=
  ⟨fun _ => trivial, fun _ => trivial, fun _ => trivial, fun _ _ _ _ => trivial⟩

theorem lenient_wordTop : Lenient WordTop :=
  ⟨fun _ => trivial, fun _ => trivial, fun _ => trivial, fun _ _ _ _ => trivial⟩

theorem lenient_distinctTop : Lenient DistinctTop where
  str _ := trivial
  bool _ := trivial
  arr _ := trivial
  obj keys hkeys fields h := by
    subst h
    exact hkeys

/-- The fields with the given names and values, those without a value left out. -/
def entries (rows : List (String × Option Json)) : Fields :=
  rows.flatMap fun row => entry row.1 row.2

section Fitting

variable {P : Json → Prop} {α : Type}

/-- The keys of the fields are among the names, in their order. -/
theorem keys_entries_sublist (rows : List (String × Option Json)) :
    (Assoc.keys (entries rows)).Sublist (rows.map (·.1)) := by
  induction rows with
  | nil => exact List.Sublist.refl _
  | cons row rest ih =>
    obtain ⟨name, value⟩ := row
    cases value with
    | none => exact ih.cons name
    | some j => exact ih.cons_cons name

theorem everywhere_entries {rows : List (String × Option Json)}
    (h : ∀ row ∈ rows, ∀ j ∈ row.2, Everywhere P j) : ∀ e ∈ entries rows, Everywhere P e.2 := by
  intro e he
  obtain ⟨row, hrow, he⟩ := List.mem_flatMap.mp he
  obtain ⟨j, hj, rfl⟩ := List.mem_map.mp he
  exact h row hrow j (Option.mem_toList.mp hj)

/-- A tree with the fields of a record whose names are distinct. -/
theorem Lenient.record (hP : Lenient P) {j : Json} {rows : List (String × Option Json)}
    (hj : j = .obj (entries rows)) (hnames : (rows.map (·.1)).Nodup)
    (h : rows.Forall fun row => ∀ j ∈ row.2, Everywhere P j) : Everywhere P j := by
  rw [hj, everywhere_obj]
  exact ⟨hP.obj _ (hnames.sublist (keys_entries_sublist rows)) _ rfl,
    everywhere_entries (List.forall_iff_forall_mem.mp h)⟩

/-- The fields that slots write. -/
theorem Slot.everywhere_fields {σ : Type} {slots : List (Slot σ)} {s : σ}
    (h : ∀ slot ∈ slots, ∀ j ∈ slot.write (slot.get s), Everywhere P j) :
    (Assoc.keys (slots.flatMap (·.field s))).Sublist (slots.map (·.key)) ∧
      ∀ e ∈ slots.flatMap (·.field s), Everywhere P e.2 := by
  have hfields : slots.flatMap (·.field s) =
      entries (slots.map fun slot => (slot.key, slot.write (slot.get s))) := by
    rw [entries, List.flatMap_map]
    rfl
  have hkeys := keys_entries_sublist (slots.map fun slot => (slot.key, slot.write (slot.get s)))
  rw [List.map_map] at hkeys
  rw [hfields]
  exact ⟨hkeys, everywhere_entries (List.forall_mem_map.mpr h)⟩

/-! Which values a field may have. -/

theorem everywhere_some {k : Json} (h : Everywhere P k) : ∀ j ∈ some k, Everywhere P j := by
  intro j hj
  obtain rfl := Option.some_inj.mp hj
  exact h

theorem everywhere_map {write : α → Json} {v : Option α} (h : ∀ a ∈ v, Everywhere P (write a)) :
    ∀ j ∈ v.map write, Everywhere P j := by
  intro j hj
  obtain ⟨a, ha, rfl⟩ := Option.map_eq_some_iff.mp hj
  exact h a ha

theorem Lenient.text (hP : Lenient P) (s : String) : Everywhere P (.str s) :=
  everywhere_str.mpr (hP.str s)

theorem Lenient.truth (hP : Lenient P) (b : Bool) : Everywhere P (.bool b) :=
  everywhere_bool.mpr (hP.bool b)

theorem Lenient.textValue (hP : Lenient P) {v : Option String} :
    ∀ j ∈ v.map Json.str, Everywhere P j :=
  everywhere_map fun s _ => hP.text s

theorem Lenient.flagValue (hP : Lenient P) {b : Bool} : ∀ j ∈ flagValue b, Everywhere P j := by
  cases b with
  | false => simp [Json.flagValue]
  | true => exact everywhere_some (hP.truth true)

theorem Lenient.list (hP : Lenient P) {write : α → Json} {l : List α}
    (h : ∀ a ∈ l, Everywhere P (write a)) : Everywhere P (.arr (l.map write)) :=
  everywhere_arr.mpr ⟨hP.arr _, List.forall_mem_map.mpr h⟩

theorem Lenient.listValue (hP : Lenient P) {write : α → Json} {l : List α}
    (h : ∀ a ∈ l, Everywhere P (write a)) : ∀ j ∈ listValue write l, Everywhere P j := by
  cases l with
  | nil => simp [Json.listValue]
  | cons a rest => exact everywhere_some (hP.list h)

/-- A map whose keys are allowed. -/
theorem everywhere_ofAssoc {write : α → Json} {m : Assoc α} (hkeys : AllowsKeys P (Assoc.keys m))
    (h : ∀ e ∈ m, Everywhere P (write e.2)) : Everywhere P (ofAssoc write m) := by
  refine everywhere_obj.mpr ⟨hkeys _ ?_, List.forall_mem_map.mpr h⟩
  simp [Assoc.keys]

theorem everywhere_mapValue {write : α → Json} {m : Assoc α} (hkeys : AllowsKeys P (Assoc.keys m))
    (h : ∀ e ∈ m, Everywhere P (write e.2)) : ∀ j ∈ mapValue write m, Everywhere P j := by
  cases m with
  | nil => simp [mapValue]
  | cons e rest => exact everywhere_some (everywhere_ofAssoc hkeys h)

end Fitting

/-! ### Properties of what is read -/

/-- What is read from a tree in which `T` holds everywhere has the property. -/
def Yields {α : Type} (T : Json → Prop) (read : Json → Option α) (Q : α → Prop) : Prop :=
  ∀ j a, Everywhere T j → read j = some a → Q a

namespace Yields

variable {α : Type} {T : Json → Prop} {read : Json → Option α} {Q : α → Prop}

theorem readOptional (h : Yields T read Q) :
    Yields T (readOptional read) fun v => ∀ a ∈ v, Q a := by
  intro j v hj hread a ha
  cases j with
  | null => cases hread; cases ha
  | _ =>
    obtain ⟨b, hb, rfl⟩ := Option.map_eq_some_iff.mp hread
    obtain rfl := Option.some_inj.mp ha
    exact h _ _ hj hb

theorem of_mapM {β : Type} {f : β → Option α} {l : List β} {as : List α}
    (h : ∀ b ∈ l, ∀ a, f b = some a → Q a) (hread : l.mapM f = some as) : ∀ a ∈ as, Q a := by
  induction l generalizing as with
  | nil => cases hread; simp
  | cons b rest ih =>
    rw [List.forall_mem_cons] at h
    simp only [List.mapM_cons, Option.bind_eq_bind, Option.bind_eq_some_iff, Option.pure_def,
      Option.some_inj] at hread
    obtain ⟨a, ha, as, has, rfl⟩ := hread
    exact List.forall_mem_cons.mpr ⟨h.1 a ha, ih h.2 has⟩

theorem readList (h : Yields T read Q) : Yields T (readList read) fun l => ∀ a ∈ l, Q a := by
  intro j l hj hread
  cases j with
  | arr items =>
    rw [everywhere_arr] at hj
    exact of_mapM (fun i hi a => h i a (hj.2 i hi)) hread
  | _ => cases hread

theorem readAssoc (h : Yields T read Q) : Yields T (readAssoc read) fun m => ∀ e ∈ m, Q e.2 := by
  intro j m hj hread
  cases j with
  | obj fields =>
    rw [everywhere_obj] at hj
    refine of_mapM (Q := fun e => Q e.2) (fun e he a ha => ?_) hread
    obtain ⟨b, hb, rfl⟩ := Option.map_eq_some_iff.mp ha
    exact h _ b (hj.2 e he) hb
  | _ => cases hread

/-- A value of any kind, which is not `null` if it is there. -/
theorem readAny :
    Yields T (Json.readOptional Json.readAny) fun v => ∀ j ∈ v, Everywhere T j ∧ j ≠ .null := by
  intro j v hj hread k hk
  cases j with
  | null => cases hread; cases hk
  | _ =>
    cases hread
    obtain rfl := Option.some_inj.mp hk
    exact ⟨hj, by simp⟩

end Yields

/-- `T` holds everywhere in the values of a record that is being read. -/
def Source.Everywhere (T : Json → Prop) (src : Source) : Prop :=
  ∀ position key j, src.get? position key = some j → Json.Everywhere T j

section Opening

variable {T : Json → Prop}

theorem source?_everywhere {arity : Nat} {j : Json} {src : Source} (hj : Everywhere T j)
    (h : source? arity j = some src) : src.Everywhere T := by
  intro position key k hk
  cases j with
  | obj fields =>
    cases h
    rw [everywhere_obj] at hj
    exact hj.2 _ (Assoc.mem_of_get? hk)
  | arr items =>
    rw [source?] at h
    split at h
    · cases h
      rw [everywhere_arr] at hj
      exact hj.2 k (List.mem_of_getElem? hk)
    · cases h
  | _ => cases h

namespace Source.Everywhere

variable {α : Type} {read : Json → Option α} {Q : α → Prop} {src : Source} {position : Nat}
  {key : String}

theorem required (hsrc : src.Everywhere T) (h : Yields T read Q) {a : α}
    (hread : src.required position key read = some a) : Q a := by
  obtain ⟨j, hj, ha⟩ := Option.bind_eq_some_iff.mp hread
  exact h j a (hsrc _ _ j hj) ha

theorem optional {Q : Option α → Prop} (hsrc : src.Everywhere T) (h : Yields T (readOptional read) Q)
    (hnone : Q none) {v : Option α} (hread : src.optional position key read = some v) : Q v := by
  unfold Source.optional at hread
  split at hread
  · next j hj => exact h j v (hsrc _ _ j hj) hread
  · cases hread; exact hnone
  · cases hread

theorem defaulted (hsrc : src.Everywhere T) (h : Yields T read Q) {default : α}
    (hdefault : Q default) {a : α} (hread : src.defaulted position key default read = some a) :
    Q a := by
  unfold Source.defaulted at hread
  split at hread
  · next j hj => exact h j a (hsrc _ _ j hj) hread
  · cases hread; exact hdefault

end Source.Everywhere

/-- What the slots and the extensions keep holds of the record that is read. -/
theorem Slot.foldrM_keeps {σ : Type} {I : σ → Prop} {table : List (Slot σ)}
    {extend : String → Json → σ → σ}
    (hslots : ∀ slot ∈ table, ∀ s, I s → Yields T slot.read fun v => I (slot.set v s))
    (hextend : ∀ key, key ∉ table.map (·.key) → ∀ j, Json.Everywhere T j → ∀ s, I s →
      I (extend key j s))
    {fields : Fields} (hfields : ∀ e ∈ fields, Json.Everywhere T e.2) {s t : σ} (ht : I t)
    (hread : fields.foldrM (readField? table extend) t = some s) : I s := by
  induction fields generalizing s with
  | nil =>
    cases hread
    exact ht
  | cons e rest ih =>
    rw [List.forall_mem_cons] at hfields
    rw [List.foldrM_cons, Option.bind_eq_bind, Option.bind_eq_some_iff] at hread
    obtain ⟨before, hbefore, hread⟩ := hread
    have hI : I before := ih hfields.2 hbefore
    rw [readField?] at hread
    split at hread
    · next slot hfound =>
      obtain ⟨v, hv, rfl⟩ := Option.map_eq_some_iff.mp hread
      exact hslots slot (List.mem_of_find?_eq_some hfound) before hI e.2 v hfields.1 hv
    · next hnone =>
      cases hread
      refine hextend e.1 (fun hkey => ?_) e.2 hfields.1 before hI
      obtain ⟨slot, hslot, hslotKey⟩ := List.mem_map.mp hkey
      exact List.find?_eq_none.mp hnone slot hslot (by simpa using hslotKey)

end Opening

end Json

end AnnotatedApi
