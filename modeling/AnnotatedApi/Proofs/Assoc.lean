import AnnotatedApi.Assoc
import Mathlib.Data.List.Induction
import Mathlib.Data.List.Nodup
import Mathlib.Data.List.Perm.Basic

/-!
Maps that are filled step by step.

Of many writes to one place the last one counts (`view_foldl_eq_last_write`), and each key stands
where its first write put it (`keys_foldl_eq_eraseDups`).  If the writes come in groups and at most
one group writes to a place, then the order of the groups does not matter there
(`find?_reverse_flatMap_perm`).  Two maps that answer every look-up alike have the same entries
(`perm_of_get?_eq`), and entries with distinct keys are a map already (`ofEntries_of_nodup`).
-/

namespace AnnotatedApi

/-! ### The last of many writes -/

/-- A search from the end finds the last hit. -/
theorem find?_reverse_eq_some_iff {α : Type} {p : α → Bool} {l : List α} {a : α} :
    l.reverse.find? p = some a ↔
      ∃ before after, l = before ++ a :: after ∧ p a = true ∧ ∀ b ∈ after, p b = false := by
  rw [List.find?_eq_some_iff_append]
  constructor
  · rintro ⟨ha, front, back, heq, hfront⟩
    refine ⟨back.reverse, front.reverse, ?_, ha, fun b hb => ?_⟩
    · rw [← List.reverse_reverse l, heq]
      simp
    · simpa using hfront b (List.mem_reverse.mp hb)
  · rintro ⟨before, after, rfl, ha, hafter⟩
    refine ⟨ha, after.reverse, before.reverse, by simp, fun b hb => ?_⟩
    rw [hafter b (List.mem_reverse.mp hb)]
    rfl

/-- What is seen at a place after many steps is the value of the last step that wrote there. -/
theorem view_foldl_eq_last_write {σ α β : Type} (view : σ → Option β) {step : σ → α → σ}
    {writes : α → Bool} {value : α → β}
    (hstep : ∀ s a, view (step s a) = if writes a then some (value a) else view s)
    (l : List α) (s : σ) :
    view (l.foldl step s) = ((l.reverse.find? writes).map value).or (view s) := by
  induction l using List.reverseRecOn with
  | nil => rfl
  | append_singleton l a ih =>
    rw [List.foldl_append, List.foldl_cons, List.foldl_nil, hstep, ih, List.reverse_append,
      List.reverse_singleton, List.singleton_append, List.find?_cons]
    -- The last step decides, unless it writes elsewhere or not at all.
    cases writes a <;> simp

/-- A search in which at most one element answers does not depend on the order. -/
theorem findSome?_perm {α β : Type} {f : α → Option β} {l l' : List α} (hperm : l.Perm l')
    (hone : l.Pairwise fun a b => f a = none ∨ f b = none) : l.findSome? f = l'.findSome? f := by
  induction hperm with
  | nil => rfl
  | cons a _ ih =>
    rw [List.findSome?_cons, List.findSome?_cons, ih (List.pairwise_cons.mp hone).2]
  | swap a b l =>
    have hab : f b = none ∨ f a = none := (List.pairwise_cons.mp hone).1 a (by simp)
    simp only [List.findSome?_cons]
    rcases hab with h | h <;> rw [h]
  | trans hfirst _ ih ih' =>
    exact (ih hone).trans (ih' (hone.perm hfirst fun h => h.symm))

/-- The only hit does not depend on the order. -/
theorem find?_perm {α : Type} {p : α → Bool} {l l' : List α} (hperm : l.Perm l')
    (hone : l.Pairwise fun a b => p a = false ∨ p b = false) : l.find? p = l'.find? p := by
  rw [List.find?_eq_findSome?_guard, List.find?_eq_findSome?_guard]
  refine findSome?_perm hperm (hone.imp fun h => ?_)
  simpa using h

/-- If at most one group has hits, the last hit does not depend on the order of the groups. -/
theorem find?_reverse_flatMap_perm {φ α : Type} {items : φ → List α} {p : α → Bool}
    {groups groups' : List φ} (hperm : groups.Perm groups')
    (hone : groups.Pairwise fun g h =>
      ∀ a ∈ items g, ∀ b ∈ items h, p a = true → p b = false) :
    (groups.flatMap items).reverse.find? p = (groups'.flatMap items).reverse.find? p := by
  rw [List.reverse_flatMap, List.reverse_flatMap, List.find?_flatMap, List.find?_flatMap]
  refine findSome?_perm ?_ ?_
  · exact ((List.reverse_perm groups).trans hperm).trans (List.reverse_perm groups').symm
  · refine List.Pairwise.perm (hone.imp fun {g h} hgh => ?_) (List.reverse_perm groups).symm
      fun h => h.symm
    simp only [Function.comp_apply, List.find?_eq_none, List.mem_reverse]
    -- Either the first group has no hit, or the second has none.
    by_cases hhit : ∃ a ∈ items g, p a = true
    · obtain ⟨a, ha, hpa⟩ := hhit
      exact .inr fun b hb => by simp [hgh a ha b hb hpa]
    · exact .inl fun a ha hpa => hhit ⟨a, ha, hpa⟩

namespace Assoc

variable {α β : Type}

/-! ### Keys -/

/-- An element that was there before adds nothing, a new one goes to the end. -/
theorem eraseDups_concat (l : List String) (key : String) :
    (l ++ [key]).eraseDups = if key ∈ l then l.eraseDups else l.eraseDups ++ [key] := by
  rw [List.eraseDups_append]
  by_cases hmem : key ∈ l
  · simp [hmem, List.removeAll]
  · simp [hmem, List.removeAll, List.eraseDups_cons]

/-- Each key stands where its first write put it. -/
theorem keys_foldl_eq_eraseDups {step : Assoc β → α → Assoc β} {key? : α → Option String}
    (hstep : ∀ m a, keys (step m a) = match key? a with
      | some key => if key ∈ keys m then keys m else keys m ++ [key]
      | none => keys m) (l : List α) :
    keys (l.foldl step []) = (l.filterMap key?).eraseDups := by
  induction l using List.reverseRecOn with
  | nil => rfl
  | append_singleton l a ih =>
    rw [List.foldl_append, List.foldl_cons, List.foldl_nil, hstep, ih, List.filterMap_append]
    cases hkey : key? a with
    | none => simp [hkey]
    | some key =>
      have hlast : [a].filterMap key? = [key] := by simp [hkey]
      rw [hlast, eraseDups_concat]
      simp only [List.mem_eraseDups]

theorem mem_keys_insert {m : Assoc α} {key other : String} {value : α} (h : other ∈ keys m) :
    other ∈ keys (insert m key value) := by
  rw [keys_insert]
  split
  · exact h
  · exact List.mem_append_left _ h

/-- Steps that keep the keys distinct leave them distinct. -/
theorem nodup_keys_foldl {step : Assoc β → α → Assoc β}
    (hstep : ∀ m a, (keys m).Nodup → (keys (step m a)).Nodup) (l : List α) :
    (keys (l.foldl step [])).Nodup :=
  List.foldlRecOn (motive := fun m => (keys m).Nodup) l step List.nodup_nil
    fun m hm a _ => hstep m a hm

/-- The map with the given entries has distinct keys. -/
theorem nodup_keys_ofEntries (entries : List (String × α)) : (keys (ofEntries entries)).Nodup :=
  nodup_keys_foldl (fun m ⟨key, value⟩ => nodup_keys_insert m key value) entries

/-! ### Values -/

theorem get?_mapValues (f : α → β) (m : Assoc α) (key : String) :
    get? (mapValues f m) key = (get? m key).map f := by
  induction m with
  | nil => rfl
  | cons e rest ih =>
    obtain ⟨k, v⟩ := e
    simp only [mapValues, List.map_cons, get?] at ih ⊢
    split
    · rfl
    · exact ih

theorem keys_mapValues (f : α → β) (m : Assoc α) : keys (mapValues f m) = keys m := by
  simp [keys, mapValues]

theorem mapValues_insert (f : α → β) (m : Assoc α) (key : String) (value : α) :
    mapValues f (insert m key value) = insert (mapValues f m) key (f value) := by
  induction m with
  | nil => rfl
  | cons e rest ih =>
    obtain ⟨k, v⟩ := e
    simp only [mapValues, List.map_cons, insert] at ih ⊢
    split
    · rfl
    · rw [List.map_cons, ih]

/-! ### Entries -/

/-- A new key goes to the end. -/
theorem insert_of_notMem_keys {m : Assoc α} {key : String} (h : key ∉ keys m) (value : α) :
    insert m key value = m ++ [(key, value)] := by
  induction m with
  | nil => rfl
  | cons e rest ih =>
    obtain ⟨k, v⟩ := e
    rw [keys, List.map_cons, List.mem_cons, not_or] at h
    rw [insert, if_neg (by simpa using Ne.symm h.1), ih h.2, List.cons_append]

theorem insert_ne_nil (m : Assoc α) (key : String) (value : α) : insert m key value ≠ [] := by
  cases m with
  | nil => simp [insert]
  | cons entry rest =>
    rw [insert]
    split <;> simp

theorem ofEntries_ne_nil {entries : List (String × α)} (h : entries ≠ []) :
    ofEntries entries ≠ [] := by
  obtain ⟨rest, last, rfl⟩ := List.eq_nil_or_concat entries |>.resolve_left h
  rw [ofEntries, List.concat_eq_append, List.foldl_append]
  exact insert_ne_nil _ _ _

theorem ofEntries_concat (entries : List (String × α)) (e : String × α) :
    ofEntries (entries ++ [e]) = insert (ofEntries entries) e.1 e.2 := by
  rw [ofEntries, List.foldl_append]
  rfl

/-- The last value of a repeated key wins. -/
theorem get?_ofEntries (entries : List (String × α)) (key : String) :
    get? (ofEntries entries) key = (entries.reverse.find? (·.1 == key)).map (·.2) := by
  have hstep : ∀ (m : Assoc α) (e : String × α),
      get? (insert m e.1 e.2) key = if e.1 == key then some e.2 else get? m key :=
    fun m e => by simp [get?_insert]
  exact (view_foldl_eq_last_write (get? · key) hstep entries []).trans Option.or_none

/-- Each key stands where it comes first. -/
theorem keys_ofEntries (entries : List (String × α)) :
    keys (ofEntries entries) = (keys entries).eraseDups := by
  have hkeys : entries.filterMap (fun e => some e.1) = keys entries :=
    congrFun List.filterMap_eq_map entries
  rw [ofEntries, ← hkeys]
  exact keys_foldl_eq_eraseDups (fun m e => keys_insert m e.1 e.2) entries

theorem ofEntries_eq_nil_iff {entries : List (String × α)} :
    ofEntries entries = [] ↔ entries = [] :=
  ⟨fun h => not_not.mp fun hne => ofEntries_ne_nil hne h, fun h => by rw [h]; rfl⟩

/-- Entries with distinct keys are a map already. -/
theorem ofEntries_of_nodup {entries : List (String × α)} (h : (keys entries).Nodup) :
    ofEntries entries = entries := by
  induction entries using List.reverseRecOn with
  | nil => rfl
  | append_singleton entries e ih =>
    rw [keys, List.map_append, List.nodup_append] at h
    obtain ⟨hentries, -, hdisjoint⟩ := h
    have hnew : e.1 ∉ keys entries := fun hmem => hdisjoint _ hmem e.1 (by simp) rfl
    rw [ofEntries_concat, ih hentries, insert_of_notMem_keys hnew]

/-- A look-up finds the first entry under the key. -/
theorem find?_eq_get? (m : Assoc α) (key : String) :
    (m.find? (·.1 == key)).map (·.2) = get? m key := by
  induction m with
  | nil => rfl
  | cons e rest ih =>
    obtain ⟨k, v⟩ := e
    rw [List.find?_cons, get?]
    by_cases hk : k = key
    · simp [hk]
    · have hne : (k == key) = false := by simpa using hk
      rw [hne, if_neg Bool.false_ne_true]
      exact ih

/-- With distinct keys, the entries are what look-ups find. -/
theorem mem_iff_get?_eq_some {m : Assoc α} (hm : (keys m).Nodup) {key : String} {value : α} :
    (key, value) ∈ m ↔ get? m key = some value := by
  refine ⟨fun h => ?_, mem_of_get?⟩
  induction m with
  | nil => exact absurd h List.not_mem_nil
  | cons e rest ih =>
    obtain ⟨k, v⟩ := e
    rw [keys, List.map_cons, List.nodup_cons] at hm
    rcases List.mem_cons.mp h with heq | hrest
    · obtain ⟨rfl, rfl⟩ := Prod.mk.inj heq
      simp [get?]
    · -- The key stands further back, so it is not the first one.
      have hne : k ≠ key := by
        rintro rfl
        exact hm.1 (List.mem_map.mpr ⟨_, hrest, rfl⟩)
      rw [get?, if_neg (by simpa using hne)]
      exact ih hm.2 hrest

/-- Maps with distinct keys that answer every look-up alike have the same entries. -/
theorem perm_of_get?_eq {m m' : Assoc α} (hm : (keys m).Nodup) (hm' : (keys m').Nodup)
    (h : ∀ key, get? m key = get? m' key) : m.Perm m' := by
  rw [List.perm_ext_iff_of_nodup (hm.of_map _) (hm'.of_map _)]
  rintro ⟨key, value⟩
  rw [mem_iff_get?_eq_some hm, mem_iff_get?_eq_some hm', h]

end Assoc

end AnnotatedApi
