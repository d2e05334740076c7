import AnnotatedApi.StructTag.Basic
import AnnotatedApi.Proofs.Assoc
import AnnotatedApi.Proofs.Text

/-!
Reading the pairs of a tag back.

Pairs that are written one after another, with blanks between them, are read off in order
(`pairsFrom_of_written`): a key ends at its colon and a value at its quote, whatever stands in the
value.  Main statement: whatever the blanks are, a key has the value of its first pair
(`key_has_value_of_first_pair`).  So in the text of a list of pairs the value of a key is what the
list has under it (`tagValue?_tagText`).
-/

namespace AnnotatedApi

open Text

/-! ### One pair -/

/-- What a key of a tag consists of: a character that starts keys, and characters inside keys. -/
def IsTagKey (key : List Char) : Prop :=
  ∃ c rest, key = c :: rest ∧ isKeyStart c = true ∧ ∀ d ∈ rest, isKeyChar d = true

/-- The characters of a pair. -/
def pairChars (key value : List Char) : List Char :=
  key ++ ':' :: '\x22' :: (value ++ ['\x22'])

/-- A pair at the front of any text is read off. -/
theorem pairAt?_pairChars {key value : List Char} (hkey : IsTagKey key) (hvalue : '\x22' ∉ value)
    (rest : List Char) : pairAt? (pairChars key value ++ rest) = some (key, value, rest) := by
  obtain ⟨c, inner, rfl, hstart, hinner⟩ := hkey
  have hcolon : isKeyChar ':' = false := by decide
  have htext : pairChars (c :: inner) value ++ rest =
      c :: (inner ++ ':' :: '\x22' :: (value ++ '\x22' :: rest)) := by
    simp [pairChars]
  have htake : (inner ++ ':' :: '\x22' :: (value ++ '\x22' :: rest)).takeWhile isKeyChar =
      inner := by
    rw [List.takeWhile_append_of_pos hinner, List.takeWhile_cons_of_neg (by simp [hcolon]),
      List.append_nil]
  have hdrop : (inner ++ ':' :: '\x22' :: (value ++ '\x22' :: rest)).dropWhile isKeyChar =
      ':' :: '\x22' :: (value ++ '\x22' :: rest) := by
    rw [List.dropWhile_append_of_pos hinner, List.dropWhile_cons_of_neg (by simp [hcolon])]
  rw [htext, pairAt?, if_pos hstart, htake, hdrop]
  simp only [cutChars_append hvalue, Option.map_some]

/-- No pair starts with a blank. -/
theorem pairAt?_of_isBlank {c : Char} (hc : isBlank c = true) (rest : List Char) :
    pairAt? (c :: rest) = none := by
  have hstart : isKeyStart c = false := by
    cases h : isKeyStart c with
    | false => rfl
    | true => exact absurd hc (by simp [isBlank_eq_false_of (p := isKeyStart) (by decide) h])
  rw [pairAt?, if_neg (by simp [hstart])]

/-! ### Pairs one after another -/

/-- The characters are the pairs, each with blanks in front of it, and blanks at the end. -/
inductive WrittenPairs : List (List Char × List Char) → List Char → Prop
  | nil {blanks : List Char} (hblanks : ∀ c ∈ blanks, isBlank c = true) : WrittenPairs [] blanks
  | cons {blanks key value rest : List Char} {pairs : List (List Char × List Char)}
      (hne : blanks ≠ []) (hblanks : ∀ c ∈ blanks, isBlank c = true) (hkey : IsTagKey key)
      (hvalue : '\x22' ∉ value) (hrest : WrittenPairs pairs rest) :
    WrittenPairs ((key, value) :: pairs) (blanks ++ (pairChars key value ++ rest))

/-- One step of reading: a pair at the start, a pair behind a blank, or a character to pass over. -/
theorem pairsFrom_succ (atStart : Bool) (fuel : Nat) (cs : List Char) :
    pairsFrom atStart (fuel + 1) cs =
      match if atStart then pairAt? cs else none with
      | some (key, value, rest) => (key, value) :: pairsFrom false fuel rest
      | none =>
        match cs with
        | [] => []
        | c :: rest =>
          match if isBlank c then pairAt? rest else none with
          | some (key, value, rest) => (key, value) :: pairsFrom false fuel rest
          | none => pairsFrom false fuel rest :=
  -- In brackets, so that the equation is not tried as a definitional one for `dsimp`, which is slow.
  (rfl)

/-- A pair at the start of the text is read off. -/
theorem pairsFrom_pair {key value : List Char} (hkey : IsTagKey key) (hvalue : '\x22' ∉ value)
    (rest : List Char) (fuel : Nat) :
    pairsFrom true (fuel + 1) (pairChars key value ++ rest) =
      (key, value) :: pairsFrom false fuel rest := by
  rw [pairsFrom_succ, if_pos rfl, pairAt?_pairChars hkey hvalue]

/-- A blank that no pair follows is passed over. -/
theorem pairsFrom_cons_blank {c : Char} {rest : List Char} (hc : isBlank c = true)
    (hrest : pairAt? rest = none) (atStart : Bool) (fuel : Nat) :
    pairsFrom atStart (fuel + 1) (c :: rest) = pairsFrom false fuel rest := by
  have hfront : (if atStart then pairAt? (c :: rest) else none) = none := by
    rw [pairAt?_of_isBlank hc, ite_self]
  rw [pairsFrom_succ, hfront]
  dsimp only
  rw [if_pos hc, hrest]

/-- A pair behind a blank is read off. -/
theorem pairsFrom_cons_pair {c : Char} {key value rest : List Char} (hc : isBlank c = true)
    (hkey : IsTagKey key) (hvalue : '\x22' ∉ value) (atStart : Bool) (fuel : Nat) :
    pairsFrom atStart (fuel + 1) (c :: (pairChars key value ++ rest)) =
      (key, value) :: pairsFrom false fuel rest := by
  have hfront : (if atStart then pairAt? (c :: (pairChars key value ++ rest)) else none) = none := by
    rw [pairAt?_of_isBlank hc, ite_self]
  rw [pairsFrom_succ, hfront]
  dsimp only
  rw [if_pos hc, pairAt?_pairChars hkey hvalue]

theorem pairsFrom_blanks {blanks : List Char} (hblanks : ∀ c ∈ blanks, isBlank c = true)
    (atStart : Bool) (fuel : Nat) : pairsFrom atStart fuel blanks = [] := by
  induction blanks generalizing atStart fuel with
  | nil => cases fuel <;> cases atStart <;> rfl
  | cons c rest ih =>
    rw [List.forall_mem_cons] at hblanks
    have hnone : pairAt? rest = none := by
      cases rest with
      | nil => rfl
      | cons d rest => exact pairAt?_of_isBlank (hblanks.2 d (by simp)) rest
    cases fuel with
    | zero => rfl
    | succ fuel => rw [pairsFrom_cons_blank hblanks.1 hnone, ih hblanks.2]

/-- Blanks and the pair behind them take one step for each blank. -/
theorem pairsFrom_blanks_pair {blanks key value rest : List Char} (hne : blanks ≠ [])
    (hblanks : ∀ c ∈ blanks, isBlank c = true) (hkey : IsTagKey key) (hvalue : '\x22' ∉ value)
    (atStart : Bool) (fuel : Nat) :
    pairsFrom atStart (fuel + blanks.length) (blanks ++ (pairChars key value ++ rest)) =
      (key, value) :: pairsFrom false fuel rest := by
  induction blanks generalizing atStart with
  | nil => exact absurd rfl hne
  | cons c others ih =>
    rw [List.forall_mem_cons] at hblanks
    cases others with
    | nil => exact pairsFrom_cons_pair hblanks.1 hkey hvalue atStart fuel
    | cons d others =>
      have hnone : pairAt? (d :: others ++ (pairChars key value ++ rest)) = none :=
        pairAt?_of_isBlank (hblanks.2 d (by simp)) _
      rw [List.length_cons, ← Nat.add_assoc, List.cons_append,
        pairsFrom_cons_blank hblanks.1 hnone, ih (by simp) hblanks.2]

/-- Written pairs are read off in order. -/
theorem pairsFrom_of_written {pairs : List (List Char × List Char)} {cs : List Char}
    (h : WrittenPairs pairs cs) (atStart : Bool) {fuel : Nat} (hfuel : cs.length ≤ fuel) :
    pairsFrom atStart fuel cs = pairs := by
  induction h generalizing atStart fuel with
  | nil hblanks => exact pairsFrom_blanks hblanks atStart fuel
  | @cons blanks key value rest pairs hne hblanks hkey hvalue _ ih =>
    rw [List.length_append, List.length_append] at hfuel
    obtain ⟨more, rfl⟩ : ∃ more, fuel = more + blanks.length :=
      ⟨fuel - blanks.length, by omega⟩
    rw [pairsFrom_blanks_pair hne hblanks hkey hvalue, ih false (by omega)]

/-! ### Pairs with any blanks between them -/

/-- The text of a pair. -/
def pairText (pair : String × String) : String :=
  pair.1 ++ ":\x22" ++ pair.2 ++ "\x22"

/-- The pair as characters. -/
def splitPair (pair : String × String) : List Char × List Char :=
  (pair.1.toList, pair.2.toList)

theorem toList_pairText (pair : String × String) :
    (pairText pair).toList = pairChars pair.1.toList pair.2.toList := by
  simp [pairText, pairChars]

/-- The pairs, each behind its gap. -/
def spacedText : List (String × String × String) → String
  | [] => ""
  | (gap, pair) :: rest => gap ++ pairText pair ++ spacedText rest

/-- A gap, and a key and a value that can stand behind it in a tag. -/
structure IsTagItem (item : String × String × String) : Prop where
  blank : ∀ c ∈ item.1.toList, isBlank c = true
  key : IsTagKey item.2.1.toList
  value : '\x22' ∉ item.2.2.toList

variable {items : List (String × String × String)} {after : String}

/-- Behind gaps that are not empty, pairs are written one after another. -/
theorem written_spacedText (hitems : ∀ item ∈ items, IsTagItem item)
    (hgaps : ∀ item ∈ items, item.1 ≠ "") (hafter : ∀ c ∈ after.toList, isBlank c = true) :
    WrittenPairs (items.map (splitPair ·.2)) (spacedText items ++ after).toList := by
  induction items with
  | nil =>
    rw [spacedText, String.empty_append]
    exact .nil hafter
  | cons item rest ih =>
    obtain ⟨gap, pair⟩ := item
    rw [List.forall_mem_cons] at hitems hgaps
    have htext : (spacedText ((gap, pair) :: rest) ++ after).toList = gap.toList ++
        (pairChars pair.1.toList pair.2.toList ++ (spacedText rest ++ after).toList) := by
      simp [spacedText, toList_pairText]
    rw [htext]
    exact .cons (by simpa using hgaps.1) hitems.1.blank hitems.1.key hitems.1.value
      (ih hitems.2 hgaps.2)

/-- Pairs are read back in order.  Only the first of them may have no gap in front. -/
theorem tagPairs_spacedText (hitems : ∀ item ∈ items, IsTagItem item)
    (hapart : ∀ item ∈ items.tail, item.1 ≠ "") (hafter : ∀ c ∈ after.toList, isBlank c = true) :
    tagPairs (spacedText items ++ after) = items.map (·.2) := by
  have hback : (items.map (splitPair ·.2)).map (fun p => (String.ofList p.1, String.ofList p.2)) =
      items.map (·.2) := by
    simp [splitPair, Function.comp_def]
  have hread : pairsFrom true ((spacedText items ++ after).length + 1)
      (spacedText items ++ after).toList = items.map (splitPair ·.2) := by
    by_cases hgaps : ∀ item ∈ items, item.1 ≠ ""
    · refine pairsFrom_of_written (written_spacedText hitems hgaps hafter) true ?_
      rw [String.length_toList]
      omega
    · -- The gap that is empty is the first one, so a pair stands at the start.
      cases items with
      | nil => exact absurd (List.forall_mem_nil _) hgaps
      | cons item rest =>
        obtain ⟨gap, pair⟩ := item
        rw [List.tail_cons] at hapart
        rw [List.forall_mem_cons] at hitems hgaps
        obtain rfl : gap = "" := by
          by_contra hgap
          exact hgaps ⟨hgap, hapart⟩
        have htext : (spacedText (("", pair) :: rest) ++ after).toList =
            pairChars pair.1.toList pair.2.toList ++ (spacedText rest ++ after).toList := by
          simp [spacedText, toList_pairText]
        have hfuel : (spacedText rest ++ after).toList.length ≤
            (spacedText (("", pair) :: rest) ++ after).length := by
          rw [← String.length_toList, htext, List.length_append]
          omega
        rw [htext, pairsFrom_pair hitems.1.key hitems.1.value,
          pairsFrom_of_written (written_spacedText hitems.2 hapart hafter) false hfuel]
        rfl
  rw [tagPairs, hread]
  exact hback

/-- **A key has the value of its first pair in the tag.**  Any blanks may stand between the pairs and
around them. -/
theorem key_has_value_of_first_pair (hitems : ∀ item ∈ items, IsTagItem item)
    (hapart : ∀ item ∈ items.tail, item.1 ≠ "") (hafter : ∀ c ∈ after.toList, isBlank c = true)
    (key : String) :
    tagValue? (spacedText items ++ after) key =
      ((items.map (·.2)).find? (·.1 == key)).map (·.2) := by
  rw [tagValue?, tagPairs_spacedText hitems hapart hafter]

/-- A value that looks like another pair, and a key that stands there twice. -/
theorem binding_behind_lookalike :
    let items := [("", "json", "a binding:b, c"), ("\t\n", "binding", "required"),
      (" ", "binding", "max=3")]
    (∀ item ∈ items, IsTagItem item) ∧ (∀ item ∈ items.tail, item.1 ≠ "") ∧
    spacedText items ++ " " =
      "json:\x22a binding:b, c\x22\t\nbinding:\x22required\x22 binding:\x22max=3\x22 " ∧
    tagValue? (spacedText items ++ " ") "binding" = some "required" ∧
    tagValue? (spacedText items ++ " ") "validate" = none := by
  intro items
  have hblank : ∀ c ∈ " ".toList, isBlank c = true := List.forall_mem_singleton.mpr (by decide)
  have hitems : ∀ item ∈ items, IsTagItem item := by
    rw [List.forall_mem_cons, List.forall_mem_cons, List.forall_mem_singleton]
    have hbinding : IsTagKey "binding".toList :=
      ⟨'b', "inding".toList, rfl, rfl, List.all_eq_true.mp rfl⟩
    exact ⟨⟨List.forall_mem_nil _, ⟨'j', "son".toList, rfl, rfl, List.all_eq_true.mp rfl⟩, by decide⟩,
      ⟨List.all_eq_true.mp rfl, hbinding, by decide⟩, ⟨hblank, hbinding, by decide⟩⟩
  have hapart : ∀ item ∈ items.tail, item.1 ≠ "" := by decide
  refine ⟨hitems, hapart, by decide, ?_, ?_⟩
  · rw [key_has_value_of_first_pair hitems hapart hblank]
    decide
  · rw [key_has_value_of_first_pair hitems hapart hblank]
    decide

/-! ### Pairs with spaces between them -/

/-- The pairs, with spaces between them. -/
def tagText (pairs : List (String × String)) : String :=
  join " " (pairs.map pairText)

theorem tagText_cons (pair : String × String) (pairs : List (String × String)) :
    tagText (pair :: pairs) = spacedText (("", pair) :: pairs.map (" ", ·)) := by
  induction pairs generalizing pair with
  | nil => simp [tagText, join, spacedText]
  | cons next pairs ih =>
    have hjoin : tagText (pair :: next :: pairs) =
        pairText pair ++ " " ++ tagText (next :: pairs) := rfl
    rw [hjoin, ih]
    simp [spacedText, String.append_assoc]

/-- The pairs of a text are read back in order. -/
theorem tagPairs_tagText {pairs : List (String × String)}
    (h : ∀ p ∈ pairs, IsTagKey p.1.toList ∧ '\x22' ∉ p.2.toList) :
    tagPairs (tagText pairs) = pairs := by
  cases pairs with
  | nil => rfl
  | cons pair pairs =>
    rw [List.forall_mem_cons] at h
    have hspace : ∀ c ∈ " ".toList, isBlank c = true := List.forall_mem_singleton.mpr (by decide)
    have hitems : ∀ item ∈ ("", pair) :: pairs.map (" ", ·), IsTagItem item := by
      rw [List.forall_mem_cons, List.forall_mem_map]
      exact ⟨⟨by simp, h.1.1, h.1.2⟩, fun p hp => ⟨hspace, (h.2 p hp).1, (h.2 p hp).2⟩⟩
    have hapart : ∀ item ∈ pairs.map (" ", ·), item.1 ≠ "" :=
      List.forall_mem_map.mpr fun _ _ => by simp
    have hnone : ∀ c ∈ "".toList, isBlank c = true := by simp
    have hread := tagPairs_spacedText hitems hapart hnone
    rw [String.append_empty] at hread
    rw [tagText_cons, hread, List.map_cons, List.map_map]
    exact congrArg (pair :: ·) (List.map_id pairs)

/-- The value of a key is what the pairs have under it. -/
theorem tagValue?_tagText {pairs : List (String × String)}
    (h : ∀ p ∈ pairs, IsTagKey p.1.toList ∧ '\x22' ∉ p.2.toList) (key : String) :
    tagValue? (tagText pairs) key = Assoc.get? pairs key := by
  rw [tagValue?, tagPairs_tagText h, Assoc.find?_eq_get?]

/-! ### Empty values -/

/-- An empty value counts as absent, which makes no difference to a test that it fails. -/
theorem getD_map_filter_isEmpty {f : String → Bool} (hf : f "" = false) (value : Option String) :
    ((value.filter (!·.isEmpty)).map f).getD false = value.any f := by
  cases value with
  | none => rfl
  | some text => by_cases hempty : text = "" <;> simp [Option.filter_some, hempty, hf]

theorem filter_isEmpty_beq {text : String} (htext : text ≠ "") (value : Option String) :
    (value.filter (!·.isEmpty) == some text) = (value == some text) := by
  cases value with
  | none => rfl
  | some other =>
    by_cases hempty : other = ""
    · simp [Option.filter_some, hempty, htext.symm]
    · simp [Option.filter_some, hempty]

end AnnotatedApi
