/-!
Maps that remember the order in which their keys first appeared.

`Assoc α` is a list of entries. `Assoc.insert` overwrites the value of a key that is present, in its
place, and puts a new key at the end, so the keys stay free of duplicates and in order of first
insertion. Main statements:

* `get?_insert` — a look-up after an insertion;
* `keys_insert` — the keys after an insertion;
* `nodup_keys_insert` — insertion keeps the keys distinct.
-/

namespace AnnotatedApi

/-- Entries in order of first insertion. -/
abbrev Assoc (α : Type) := List (String × α)

namespace Assoc

variable {α β : Type}

/-- The value under `key`. -/
def get? (m : Assoc α) (key : String) : Option α :=
  match m with
  | [] => none
  | (k, v) :: rest => if k == key then some v else get? rest key

/-- Whether `key` is present. -/
def containsKey (m : Assoc α) (key : String) : Bool :=
  (get? m key).isSome

/-- The keys in order. -/
def keys (m : Assoc α) : List String :=
  m.map (·.1)

/-- Puts `value` under `key`: in place if the key is present, at the end otherwise. -/
def insert (m : Assoc α) (key : String) (value : α) : Assoc α :=
  match m with
  | [] => [(key, value)]
  | (k, v) :: rest => if k == key then (k, value) :: rest else (k, v) :: insert rest key value

/-- Changes the value under `key`, starting from `default` if the key is new. -/
def alter (m : Assoc α) (key : String) (default : α) (f : α → α) : Assoc α :=
  insert m key (f ((get? m key).getD default))

/-- Applies `f` to every value. -/
def mapValues (f : α → β) (m : Assoc α) : Assoc β :=
  m.map fun (k, v) => (k, f v)

/-- The map with the given entries; the last value of a repeated key wins, at its first place. -/
def ofEntries (entries : List (String × α)) : Assoc α :=
  entries.foldl (fun m (k, v) => insert m k v) []

theorem get?_insert_self (m : Assoc α) (key : String) (value : α) :
    get? (insert m key value) key = some value := by
  induction m with
  | nil => simp [insert, get?]
  | cons e rest ih =>
    obtain ⟨k, v⟩ := e
    by_cases h : k = key <;> simp [insert, get?, h, ih]

theorem get?_insert_of_ne (m : Assoc α) {key other : String} (value : α) (hne : key ≠ other) :
    get? (insert m key value) other = get? m other := by
  induction m with
  | nil => simp [insert, get?, hne]
  | cons e rest ih =>
    obtain ⟨k, v⟩ := e
    by_cases h : k = key
    · subst h; simp [insert, get?, hne]
    · by_cases h' : k = other
      · subst h'; simp [insert, get?, h]
      · simp [insert, get?, h, h', ih]

/-- A look-up after an insertion. -/
theorem get?_insert (m : Assoc α) (key other : String) (value : α) :
    get? (insert m key value) other = if key = other then some value else get? m other := by
  by_cases h : key = other
  · subst h; simp [get?_insert_self]
  · simp [h, get?_insert_of_ne]

theorem get?_eq_none_iff (m : Assoc α) (key : String) : get? m key = none ↔ key ∉ keys m := by
  induction m with
  | nil => simp [get?, keys]
  | cons e rest ih =>
    obtain ⟨k, v⟩ := e
    by_cases h : k = key
    · simp [get?, keys, h]
    · have : key ≠ k := fun h' => h h'.symm
      simp only [get?, beq_iff_eq, h, if_false, ih]
      simp [keys, this]

theorem containsKey_iff {m : Assoc α} {key : String} : containsKey m key = true ↔ key ∈ keys m := by
  rw [containsKey, Option.isSome_iff_ne_none, Ne, get?_eq_none_iff, Decidable.not_not]

/-- The keys after an insertion. -/
theorem keys_insert (m : Assoc α) (key : String) (value : α) :
    keys (insert m key value) = if key ∈ keys m then keys m else keys m ++ [key] := by
  induction m with
  | nil => simp [insert, keys]
  | cons e rest ih =>
    obtain ⟨k, v⟩ := e
    by_cases h : k = key
    · simp [insert, keys, h]
    · have h' : key ≠ k := fun h' => h h'.symm
      simp only [insert, beq_iff_eq, h, if_false]
      simp only [keys, List.map_cons, List.mem_cons, h', false_or] at ih ⊢
      rw [ih]
      split <;> simp_all

/-- Insertion keeps the keys distinct. -/
theorem nodup_keys_insert (m : Assoc α) (key : String) (value : α) (h : (keys m).Nodup) :
    (keys (insert m key value)).Nodup := by
  rw [keys_insert]
  split
  · exact h
  · next hne =>
    rw [List.nodup_append]
    refine ⟨h, by simp, ?_⟩
    intro a ha b hb
    simp only [List.mem_singleton] at hb
    subst hb
    exact fun hab => hne (hab ▸ ha)

/-- What is found under a key is an entry. -/
theorem mem_of_get? {m : Assoc α} {key : String} {value : α} (h : get? m key = some value) :
    (key, value) ∈ m := by
  induction m with
  | nil => simp [get?] at h
  | cons e rest ih =>
    obtain ⟨k, v⟩ := e
    by_cases hk : k = key
    · simp only [get?, hk, beq_self_eq_true, if_true, Option.some.injEq] at h
      simp [hk, h]
    · simp only [get?, beq_iff_eq, hk, if_false] at h
      exact List.mem_cons_of_mem _ (ih h)

/-- An insertion brings in no other entry than the one inserted. -/
theorem mem_insert {m : Assoc α} {key : String} {value : α} {e : String × α}
    (h : e ∈ insert m key value) : e ∈ m ∨ e = (key, value) := by
  induction m with
  | nil => exact .inr (by simpa [insert] using h)
  | cons e' rest ih =>
    obtain ⟨k, v⟩ := e'
    by_cases hk : k = key
    · simp only [insert, hk, beq_self_eq_true, if_true, List.mem_cons] at h
      rcases h with h | h
      · exact .inr h
      · exact .inl (List.mem_cons_of_mem _ h)
    · simp only [insert, beq_iff_eq, hk, if_false, List.mem_cons] at h
      rcases h with h | h
      · exact .inl (by simp [h])
      · exact (ih h).imp_left (List.mem_cons_of_mem _)

/-- What holds of all entries and of the one inserted holds of all entries afterwards. -/
theorem forall_mem_insert {P : α → Prop} {m : Assoc α} {key : String} {value : α}
    (h : ∀ e ∈ m, P e.2) (hvalue : P value) : ∀ e ∈ insert m key value, P e.2 := by
  intro e he
  rcases mem_insert he with he | rfl
  · exact h e he
  · exact hvalue

/-- What a change keeps holds of all entries afterwards. -/
theorem forall_mem_alter {P : α → Prop} {m : Assoc α} {key : String} {default : α} {f : α → α}
    (h : ∀ e ∈ m, P e.2) (hdefault : P default) (hf : ∀ value, P value → P (f value)) :
    ∀ e ∈ alter m key default f, P e.2 := by
  refine forall_mem_insert h (hf _ ?_)
  cases hfound : get? m key with
  | none => exact hdefault
  | some value => exact h _ (mem_of_get? hfound)

/-- The map with the given entries has no other values than they have. -/
theorem forall_mem_ofEntries {P : α → Prop} {entries : List (String × α)}
    (h : ∀ e ∈ entries, P e.2) : ∀ e ∈ ofEntries entries, P e.2 := by
  have hfold : ∀ (l : List (String × α)) (m : Assoc α), (∀ e ∈ l, P e.2) → (∀ e ∈ m, P e.2) →
      ∀ e ∈ l.foldl (fun m (k, v) => insert m k v) m, P e.2 := by
    intro l
    induction l with
    | nil => exact fun m _ hm => hm
    | cons entry rest ih =>
      intro m hl hm
      rw [List.forall_mem_cons] at hl
      exact ih _ hl.2 (forall_mem_insert hm hl.1)
  exact hfold entries [] h (by simp)

/-- A look-up after a change. -/
theorem get?_alter (m : Assoc α) (key other : String) (default : α) (f : α → α) :
    get? (alter m key default f) other =
      if key = other then some (f ((get? m key).getD default)) else get? m other :=
  get?_insert m key other _

/-- The keys after a change. -/
theorem keys_alter (m : Assoc α) (key : String) (default : α) (f : α → α) :
    keys (alter m key default f) = if key ∈ keys m then keys m else keys m ++ [key] :=
  keys_insert m key _

end Assoc

end AnnotatedApi
