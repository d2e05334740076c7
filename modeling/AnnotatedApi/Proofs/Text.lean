import AnnotatedApi.Text.Integer
import AnnotatedApi.Text.Split
import Mathlib.Algebra.Ring.Int.Defs
import Mathlib.Data.List.TakeWhile

/-!
Facts about blanks, words, lines, pieces, comma-separated lists and parts of texts that the theory of
comments, directives, tags, type texts, paths and documents rests on.
-/

namespace AnnotatedApi.Text

/-- Nothing is left of a text iff all of it is blank. -/
theorem trim_isEmpty_iff {s : String} :
    (trim s).isEmpty = true ↔ ∀ c ∈ s.toList, isBlank c = true := by
  rw [trim, trimChars, dropAround, String.isEmpty_iff, String.ofList_eq_empty_iff,
    List.reverse_eq_nil_iff, List.dropWhile_eq_nil_iff]
  constructor
  · intro h
    rw [← List.dropWhile_eq_nil_iff]
    -- The first character left would be no blank, but every one left is.
    by_contra hne
    have hhead := List.head_dropWhile_not isBlank hne
    rw [h _ (by simp)] at hhead
    exact absurd hhead (by simp)
  · intro h c hc
    rw [List.dropWhile_eq_nil_iff.mpr h] at hc
    simp at hc

/-- A text without blanks has none to trim. -/
theorem trim_of_forall {s : String} (h : ∀ c ∈ s.toList, isBlank c = false) : trim s = s := by
  have hkeep : ∀ cs : List Char, (∀ c ∈ cs, isBlank c = false) → cs.dropWhile isBlank = cs := by
    intro cs hcs
    cases cs with
    | nil => rfl
    | cons c rest => exact List.dropWhile_cons_of_neg (by simp [hcs c])
  rw [trim, trimChars, dropAround, hkeep _ h, hkeep _ (by simpa using h), List.reverse_reverse,
    String.ofList_toList]

/-- Blanks around a text make no difference to what is left without them. -/
theorem trim_append_blanks {before after : String}
    (hbefore : ∀ c ∈ before.toList, isBlank c = true)
    (hafter : ∀ c ∈ after.toList, isBlank c = true) (s : String) :
    trim (before ++ s ++ after) = trim s := by
  have hrest : (s.toList ++ after.toList).dropWhile isBlank =
      if (s.toList.dropWhile isBlank).isEmpty then []
      else s.toList.dropWhile isBlank ++ after.toList := by
    rw [List.dropWhile_append, List.dropWhile_eq_nil_iff.mpr hafter]
  rw [trim, trim, trimChars, trimChars, dropAround, dropAround, String.toList_append,
    String.toList_append, List.append_assoc, List.dropWhile_append_of_pos hbefore, hrest]
  split
  · next hempty => rw [List.isEmpty_iff.mp hempty]
  · rw [List.reverse_append, List.dropWhile_append_of_pos (by simpa using hafter)]

/-- A text is what is left of it when trimmed, with blanks on either side. -/
theorem exists_blanks_around_trim (s : String) : ∃ before after : String,
    (∀ c ∈ before.toList, isBlank c = true) ∧ (∀ c ∈ after.toList, isBlank c = true) ∧
      s = before ++ trim s ++ after := by
  have hblank : ∀ {cs : List Char}, ∀ c ∈ cs.takeWhile isBlank, isBlank c = true := fun c hc =>
    List.all_eq_true.mp List.all_takeWhile c hc
  refine ⟨.ofList (s.toList.takeWhile isBlank),
    .ofList ((s.toList.dropWhile isBlank).reverse.takeWhile isBlank).reverse,
    fun c hc => hblank c (by simpa using hc), fun c hc => hblank c (by simpa using hc), ?_⟩
  rw [← String.toList_inj, String.toList_append, String.toList_append, trim, trimChars, dropAround,
    String.toList_ofList, String.toList_ofList, String.toList_ofList, List.append_assoc,
    ← List.reverse_append, List.takeWhile_append_dropWhile, List.reverse_reverse,
    List.takeWhile_append_dropWhile]

/-- A trimmed text has nothing left to trim. -/
theorem trim_trim (s : String) : trim (trim s) = trim s := by
  obtain ⟨before, after, hbefore, hafter, hs⟩ := exists_blanks_around_trim s
  calc trim (trim s) = trim (before ++ trim s ++ after) :=
        (trim_append_blanks hbefore hafter _).symm
    _ = trim s := by rw [← hs]

/-- Nothing is trimmed from a text iff no blank stands at either end. -/
theorem trim_eq_self_iff {s : String} : trim s = s ↔
    (∀ c ∈ s.toList.head?, isBlank c = false) ∧ ∀ c ∈ s.toList.getLast?, isBlank c = false := by
  have hkeep : ∀ cs : List Char,
      cs.dropWhile isBlank = cs ↔ ∀ c ∈ cs.head?, isBlank c = false := by
    intro cs
    cases cs with
    | nil => simp
    | cons c rest =>
      by_cases hc : isBlank c = true
      · have hlength := (List.dropWhile_suffix isBlank (l := rest)).length_le
        have hne : rest.dropWhile isBlank ≠ c :: rest := fun heq => by
          rw [heq, List.length_cons] at hlength
          omega
        simp [hc, hne]
      · simp [hc]
  have hback : (∀ c ∈ s.toList.getLast?, isBlank c = false) ↔
      s.toList.reverse.dropWhile isBlank = s.toList.reverse := by
    rw [hkeep, List.head?_reverse]
  rw [hback, ← hkeep, ← String.toList_inj, trim, String.toList_ofList, trimChars, dropAround]
  constructor
  · intro h
    -- Both steps only take characters away, so neither took any.
    have hfront : s.toList.dropWhile isBlank = s.toList := by
      refine (List.dropWhile_suffix isBlank).eq_of_length_le ?_
      have hlength :=
        (List.dropWhile_suffix isBlank (l := (s.toList.dropWhile isBlank).reverse)).length_le
      rw [← List.length_reverse, h, List.length_reverse] at hlength
      exact hlength
    rw [hfront] at h
    exact ⟨hfront, List.reverse_eq_iff.mp h⟩
  · rintro ⟨hfront, hend⟩
    rw [hfront, hend, List.reverse_reverse]

/-! ### Classes of characters -/

/-- The code points of blanks. -/
def blankCodes : List Nat :=
  [9, 10, 11, 12, 13, 0x20, 0x85, 0xA0, 0x1680, 0x2000, 0x2001, 0x2002, 0x2003, 0x2004, 0x2005,
    0x2006, 0x2007, 0x2008, 0x2009, 0x200A, 0x2028, 0x2029, 0x202F, 0x205F, 0x3000]

theorem mem_blankCodes {c : Char} (h : isBlank c = true) : c.toNat ∈ blankCodes := by
  simp only [isBlank, Bool.or_eq_true, Bool.and_eq_true, decide_eq_true_eq, beq_iff_eq] at h
  simp only [blankCodes, List.mem_cons, List.not_mem_nil, or_false]
  omega

/-- A class without these code points has no blanks. -/
theorem isBlank_eq_false_of {p : Char → Bool}
    (hall : ∀ n ∈ blankCodes, p (Char.ofNat n) = false) {c : Char} (h : p c = true) :
    isBlank c = false := by
  cases hblank : isBlank c with
  | false => rfl
  | true =>
    have hnot := hall _ (mem_blankCodes hblank)
    rw [Char.ofNat_toNat, h] at hnot
    simp at hnot

/-! ### Whole numbers -/

theorem readInt64?_range {s : String} {n : Int} (h : readInt64? s = some n) :
    -2 ^ 63 ≤ n ∧ n < 2 ^ 63 := by
  unfold readInt64? integer? at h
  split at h
  · simp only [Option.map_eq_some_iff, Option.bind_eq_bind, Option.bind_eq_some_iff,
      Option.filter_eq_some_iff, Option.pure_def, Option.some_inj, decide_eq_true_eq,
      Nat.pow_eq] at h
    obtain ⟨m, ⟨digits, ⟨-, hdigits⟩, rfl⟩, rfl⟩ := h
    omega
  · obtain ⟨m, hm, rfl⟩ := Option.map_eq_some_iff.mp h
    have hlt := natural?_lt hm
    simp only [Nat.pow_eq, Int.ofNat_eq_natCast] at hlt ⊢
    omega

/-! ### Words -/

/-- A run that is being read goes on up to the next blank. -/
theorem head?_wordsFrom {run : List Char} (hrun : run ≠ []) (cs : List Char) :
    (wordsFrom run cs).head? = some (run.reverse ++ cs.takeWhile (!isBlank ·)) := by
  induction cs generalizing run with
  | nil => simp [wordsFrom, hrun]
  | cons c rest ih =>
    by_cases hc : isBlank c = true
    · simp [wordsFrom, hc, hrun]
    · simp [wordsFrom, hc, ih (List.cons_ne_nil c run)]

/-- A text that starts with a token has it as its first word. -/
theorem head?_words_of_token {s : String} (h : (token s.toList).1 ≠ []) :
    (words s).head? = some (.ofList (token s.toList).1) := by
  rw [words, List.head?_map]
  cases hs : s.toList with
  | nil => simp [hs, token] at h
  | cons c rest =>
    by_cases hc : isBlank c = true
    · simp [hs, token, hc] at h
    · simp [wordsFrom, token, hc, head?_wordsFrom]

/-- Blanks in front of a text are in no word. -/
theorem wordsFrom_dropWhile (cs : List Char) :
    wordsFrom [] (cs.dropWhile isBlank) = wordsFrom [] cs := by
  induction cs with
  | nil => rfl
  | cons c rest ih =>
    by_cases hc : isBlank c = true
    · simpa [wordsFrom, hc] using ih
    · simp [hc]

/-- Blanks behind a text are in no word either. -/
theorem wordsFrom_append_blanks {blanks : List Char} (hblanks : ∀ c ∈ blanks, isBlank c = true)
    (run cs : List Char) : wordsFrom run (cs ++ blanks) = wordsFrom run cs := by
  induction cs generalizing run with
  | nil =>
    induction blanks generalizing run with
    | nil => rfl
    | cons c rest ih =>
      have hrest : wordsFrom [] rest = wordsFrom [] [] :=
        ih (fun d hd => hblanks d (List.mem_cons_of_mem c hd)) []
      simp [wordsFrom, hblanks c, hrest]
  | cons c rest ih => simp only [List.cons_append, wordsFrom, ih]

theorem wordsFrom_dropEndWhile (run cs : List Char) :
    wordsFrom run (dropEndWhile isBlank cs) = wordsFrom run cs := by
  have hsplit : dropEndWhile isBlank cs ++ (cs.reverse.takeWhile isBlank).reverse = cs := by
    rw [dropEndWhile, ← List.reverse_append, List.takeWhile_append_dropWhile, List.reverse_reverse]
  have hblanks : ∀ c ∈ (cs.reverse.takeWhile isBlank).reverse, isBlank c = true := fun c hc =>
    List.all_eq_true.mp List.all_takeWhile c (List.mem_reverse.mp hc)
  rw [← wordsFrom_append_blanks hblanks, hsplit]

/-- A text has the same words without the blanks around it. -/
theorem words_trim (s : String) : words (trim s) = words s := by
  have htrim : trimChars s.toList = dropEndWhile isBlank (s.toList.dropWhile isBlank) := rfl
  rw [words, words, trim, String.toList_ofList, htrim, wordsFrom_dropEndWhile, wordsFrom_dropWhile]

/-! ### Pieces -/

/-- A separator ends the pieces before it and starts those after it. -/
theorem splitWhere_append_sep {p : Char → Bool} {c : Char} (hc : p c = true)
    (before after : List Char) :
    splitWhere p (before ++ c :: after) = splitWhere p before ++ splitWhere p after := by
  induction before with
  | nil => simp [splitWhere, hc]
  | cons d rest ih =>
    rw [List.cons_append, splitWhere, splitWhere, ih]
    by_cases hd : p d = true
    · rw [if_pos hd, if_pos hd, List.cons_append]
    · rw [if_neg hd, if_neg hd]
      obtain ⟨piece, pieces, hpieces⟩ := List.exists_cons_of_ne_nil (splitWhere_ne_nil p rest)
      rw [hpieces, List.cons_append]
      rfl

/-- Characters without a separator are one piece. -/
theorem splitWhere_of_forall {p : Char → Bool} {cs : List Char} (h : ∀ c ∈ cs, p c = false) :
    splitWhere p cs = [cs] := by
  induction cs with
  | nil => rfl
  | cons c rest ih =>
    rw [splitWhere, if_neg (by simp [h c]), ih (fun d hd => h d (List.mem_cons_of_mem _ hd))]

/-- No piece has a separator. -/
theorem forall_of_mem_splitWhere {p : Char → Bool} {cs piece : List Char}
    (h : piece ∈ splitWhere p cs) : ∀ c ∈ piece, p c = false := by
  induction cs generalizing piece with
  | nil => simp_all [splitWhere]
  | cons d rest ih =>
    obtain ⟨first, pieces, hpieces⟩ := List.exists_cons_of_ne_nil (splitWhere_ne_nil p rest)
    rw [splitWhere, hpieces] at h
    rw [hpieces] at ih
    by_cases hd : p d = true
    · rw [if_pos hd] at h
      rcases List.mem_cons.mp h with rfl | hmem
      · simp
      · exact ih hmem
    · rw [if_neg hd] at h
      rcases List.mem_cons.mp h with rfl | hmem
      · intro c hc
        rcases List.mem_cons.mp hc with rfl | hc
        · simpa using hd
        · exact ih List.mem_cons_self c hc
      · exact ih (List.mem_cons_of_mem _ hmem)

/-- Characters in front that are no separators belong to the first piece. -/
theorem splitWhere_append_left {p : Char → Bool} {before cs piece : List Char}
    {pieces : List (List Char)} (hbefore : ∀ c ∈ before, p c = false)
    (h : splitWhere p cs = piece :: pieces) :
    splitWhere p (before ++ cs) = (before ++ piece) :: pieces := by
  induction before with
  | nil => exact h
  | cons c rest ih =>
    rw [List.forall_mem_cons] at hbefore
    rw [List.cons_append, splitWhere, if_neg (by simp [hbefore.1]), ih hbefore.2, List.cons_append]

/-- Characters at the end that are no separators belong to the last piece. -/
theorem exists_splitWhere_append_right {p : Char → Bool} {after : List Char}
    (hafter : ∀ c ∈ after, p c = false) (cs : List Char) : ∃ pieces piece,
      splitWhere p cs = pieces ++ [piece] ∧
        splitWhere p (cs ++ after) = pieces ++ [piece ++ after] := by
  induction cs with
  | nil => exact ⟨[], [], rfl, splitWhere_of_forall hafter⟩
  | cons c rest ih =>
    obtain ⟨pieces, piece, hrest, happend⟩ := ih
    by_cases hc : p c = true
    · exact ⟨[] :: pieces, piece, by simp [splitWhere, hc, hrest],
        by simp [splitWhere, hc, happend]⟩
    · -- The character joins the piece behind it, which may be the last one.
      cases pieces with
      | nil =>
        exact ⟨[], c :: piece, by simp [splitWhere, hc, hrest], by simp [splitWhere, hc, happend]⟩
      | cons first others =>
        exact ⟨(c :: first) :: others, piece, by simp [splitWhere, hc, hrest],
          by simp [splitWhere, hc, happend]⟩

theorem splitOn_ne_nil (sep : Char) (s : String) : splitOn sep s ≠ [] :=
  fun h => splitWhere_ne_nil _ _ (List.map_eq_nil_iff.mp h)

/-- A separator ends the pieces before it and starts those after it. -/
theorem splitOn_append_sep (sep : Char) (before after : String) :
    splitOn sep (before ++ sep.toString ++ after) = splitOn sep before ++ splitOn sep after := by
  have hlist : (before ++ sep.toString ++ after).toList = before.toList ++ sep :: after.toList := by
    simp
  rw [splitOn, hlist, splitWhere_append_sep (by simp), List.map_append, splitOn, splitOn]

/-- A text without separators is one piece. -/
theorem splitOn_of_forall {sep : Char} {s : String} (h : ∀ c ∈ s.toList, c ≠ sep) :
    splitOn sep s = [s] := by
  rw [splitOn, splitWhere_of_forall (by simpa using h), List.map_singleton, String.ofList_toList]

/-- No piece has a separator. -/
theorem forall_of_mem_splitOn {sep : Char} {s piece : String} (h : piece ∈ splitOn sep s) :
    ∀ c ∈ piece.toList, c ≠ sep := by
  obtain ⟨cs, hcs, rfl⟩ := List.mem_map.mp h
  intro c hc
  simpa using forall_of_mem_splitWhere hcs c (by simpa using hc)

/-! ### Parts of texts -/

/-- The characters before the first separator, and what follows it. -/
theorem cutChars_append {sep : Char} {before : List Char} (h : sep ∉ before) (after : List Char) :
    cutChars sep (before ++ sep :: after) = some (before, after) := by
  induction before with
  | nil => simp [cutChars]
  | cons c rest ih =>
    rw [List.mem_cons, not_or] at h
    rw [List.cons_append, cutChars, if_neg (by simpa using Ne.symm h.1), ih h.2, Option.map_some]

/-- The first separator is where a text is cut. -/
theorem cutChars_eq_some_iff {sep : Char} {cs before after : List Char} :
    cutChars sep cs = some (before, after) ↔ cs = before ++ sep :: after ∧ sep ∉ before := by
  constructor
  · intro h
    induction cs generalizing before with
    | nil => cases h
    | cons c rest ih =>
      rw [cutChars] at h
      split at h
      · next hc =>
        obtain ⟨rfl, rfl⟩ := Prod.mk.inj (Option.some_inj.mp h)
        exact ⟨by rw [eq_of_beq hc, List.nil_append], by simp⟩
      · next hc =>
        obtain ⟨⟨front, back⟩, hcut, heq⟩ := Option.map_eq_some_iff.mp h
        obtain ⟨rfl, rfl⟩ := Prod.mk.inj heq
        obtain ⟨rfl, hfront⟩ := ih hcut
        refine ⟨rfl, List.not_mem_cons_of_ne_of_not_mem ?_ hfront⟩
        exact fun heq => hc (beq_iff_eq.mpr heq.symm)
  · rintro ⟨rfl, hbefore⟩
    exact cutChars_append hbefore after

theorem isSome_afterStart?_iff {start cs : List Char} :
    (afterStart? start cs).isSome = true ↔ start <+: cs := by
  rw [Option.isSome_iff_exists]
  constructor
  · rintro ⟨rest, hrest⟩
    exact ⟨rest, (eq_append_of_afterStart? hrest).symm⟩
  · rintro ⟨rest, rfl⟩
    exact ⟨rest, afterStart?_append start rest⟩

theorem containsChars_iff {part cs : List Char} : containsChars part cs = true ↔ part <:+: cs := by
  induction cs with
  | nil => simp [containsChars]
  | cons c rest ih =>
    rw [containsChars, Bool.or_eq_true, isSome_afterStart?_iff, ih, List.infix_cons_iff]

/-- The first piece stands at the front of the text, the others stand somewhere in it. -/
theorem prefix_and_infix_of_splitWhere {p : Char → Bool} {cs first : List Char}
    {pieces : List (List Char)} (h : splitWhere p cs = first :: pieces) :
    first <+: cs ∧ ∀ piece ∈ pieces, piece <:+: cs := by
  induction cs generalizing first pieces with
  | nil =>
    obtain ⟨rfl, rfl⟩ := List.cons.inj h
    simp
  | cons c rest ih =>
    obtain ⟨head, others, hrest⟩ := List.exists_cons_of_ne_nil (splitWhere_ne_nil p rest)
    obtain ⟨hhead, hothers⟩ := ih hrest
    rw [splitWhere, hrest] at h
    by_cases hc : p c = true
    · rw [if_pos hc] at h
      obtain ⟨rfl, rfl⟩ := List.cons.inj h
      refine ⟨List.nil_prefix, List.forall_mem_cons.mpr ⟨?_, fun piece hpiece => ?_⟩⟩
      · exact hhead.isInfix.trans (List.suffix_cons c rest).isInfix
      · exact (hothers piece hpiece).trans (List.suffix_cons c rest).isInfix
    · rw [if_neg hc] at h
      obtain ⟨rfl, rfl⟩ := List.cons.inj h
      exact ⟨(List.prefix_cons_inj c).mpr hhead,
        fun piece hpiece => (hothers piece hpiece).trans (List.suffix_cons c rest).isInfix⟩

theorem infix_of_mem_splitWhere {p : Char → Bool} {cs piece : List Char}
    (h : piece ∈ splitWhere p cs) : piece <:+: cs := by
  obtain ⟨first, pieces, hpieces⟩ := List.exists_cons_of_ne_nil (splitWhere_ne_nil p cs)
  obtain ⟨hfirst, hothers⟩ := prefix_and_infix_of_splitWhere hpieces
  rw [hpieces] at h
  rcases List.mem_cons.mp h with rfl | hmem
  · exact hfirst.isInfix
  · exact hothers piece hmem

theorem isInfix_trimChars (cs : List Char) : trimChars cs <:+: cs := by
  have hback : trimChars cs <+: cs.dropWhile isBlank :=
    List.reverse_suffix.mp (by
      rw [trimChars, dropAround, List.reverse_reverse]
      exact List.dropWhile_suffix _)
  exact hback.isInfix.trans (List.dropWhile_suffix _).isInfix

/-- An item of a list occurs in the text of the list. -/
theorem contains_of_mem_commaItems {item s : String} (h : item ∈ commaItems s) :
    contains item s = true := by
  obtain ⟨piece, hpiece, rfl⟩ := List.mem_map.mp h
  obtain ⟨cs, hcs, rfl⟩ := List.mem_map.mp hpiece
  rw [contains, containsChars_iff, trim, String.toList_ofList, String.toList_ofList]
  exact (isInfix_trimChars cs).trans (infix_of_mem_splitWhere hcs)

/-! ### Comma-separated lists -/

theorem comma_of_isBlank {c : Char} (h : isBlank c = true) : (c == ',') = false := by
  cases hc : c == ',' with
  | false => rfl
  | true =>
    rw [eq_of_beq hc] at h
    exact absurd h (by decide)

/-- Blanks around a list are around its first and its last item. -/
theorem commaItems_append_blanks {before after : String}
    (hbefore : ∀ c ∈ before.toList, isBlank c = true)
    (hafter : ∀ c ∈ after.toList, isBlank c = true) (s : String) :
    commaItems (before ++ s ++ after) = commaItems s := by
  have hempty : ∀ c ∈ "".toList, isBlank c = true := by simp
  have hfront : ∀ s, commaItems (before ++ s) = commaItems s := by
    intro s
    obtain ⟨piece, pieces, hpieces⟩ :=
      List.exists_cons_of_ne_nil (splitWhere_ne_nil (· == ',') s.toList)
    have htrim := trim_append_blanks hbefore hempty (.ofList piece)
    rw [commaItems, commaItems, splitOn, splitOn, String.toList_append,
      splitWhere_append_left (fun c hc => comma_of_isBlank (hbefore c hc)) hpieces, hpieces]
    simp only [List.map_cons, List.cons.injEq, and_true]
    rw [← htrim, String.append_empty, String.ofList_append, String.ofList_toList]
  rw [String.append_assoc, hfront]
  obtain ⟨pieces, piece, hpieces, happend⟩ := exists_splitWhere_append_right (p := (· == ','))
    (fun c hc => comma_of_isBlank (hafter c hc)) s.toList
  have htrim := trim_append_blanks hempty hafter (.ofList piece)
  rw [commaItems, commaItems, splitOn, splitOn, String.toList_append, hpieces, happend]
  simp only [List.map_append, List.map_singleton, List.append_cancel_left_eq, List.cons.injEq,
    and_true]
  rw [← htrim, String.empty_append, String.ofList_append, String.ofList_toList]

theorem commaItems_trim (s : String) : commaItems (trim s) = commaItems s := by
  obtain ⟨before, after, hbefore, hafter, hs⟩ := exists_blanks_around_trim s
  calc commaItems (trim s) = commaItems (before ++ trim s ++ after) :=
        (commaItems_append_blanks hbefore hafter _).symm
    _ = commaItems s := by rw [← hs]

/-- An item of a list: not empty, without commas and without blanks at its ends. -/
structure IsItem (s : String) : Prop where
  ne_empty : s ≠ ""
  trimmed : trim s = s
  comma : ',' ∉ s.toList

theorem isItem_of_mem_commaList {item s : String} (h : item ∈ commaList s) : IsItem item := by
  obtain ⟨hitem, hne⟩ := List.mem_filter.mp h
  obtain ⟨piece, hpiece, rfl⟩ := List.mem_map.mp hitem
  refine ⟨by simpa using hne, trim_trim piece, fun hcomma => ?_⟩
  rw [trim, String.toList_ofList] at hcomma
  exact forall_of_mem_splitOn hpiece ',' ((isInfix_trimChars _).mem hcomma) rfl

theorem commaList_append_comma (before after : String) :
    commaList (before ++ "," ++ after) = commaList before ++ commaList after := by
  have hsplit := splitOn_append_sep ',' before after
  rw [show (',' : Char).toString = "," from rfl] at hsplit
  rw [commaList, commaItems, hsplit, List.map_append, List.filter_append]
  rfl

theorem commaList_of_isItem {item : String} (h : IsItem item) : commaList item = [item] := by
  have hcomma : ∀ c ∈ item.toList, c ≠ ',' := fun c hc heq => h.comma (heq ▸ hc)
  rw [commaList, commaItems, splitOn_of_forall hcomma, List.map_singleton, h.trimmed,
    List.filter_cons_of_pos (by simpa using h.ne_empty), List.filter_nil]

/-- Items that are joined by commas are read back. -/
theorem commaList_join {items : List String} (h : ∀ item ∈ items, IsItem item) :
    commaList (join "," items) = items := by
  induction items with
  | nil => decide
  | cons item rest ih =>
    rw [List.forall_mem_cons] at h
    cases rest with
    | nil => exact commaList_of_isItem h.1
    | cons next rest =>
      rw [join, commaList_append_comma, commaList_of_isItem h.1, ih h.2, List.singleton_append]
      simp

/-! ### Known beginnings and endings -/

theorem startsWith_iff {start s : String} : startsWith start s = true ↔ ∃ rest, s = start ++ rest := by
  have hdrop : startsWith start s = (dropStart? start s).isSome := by
    rw [startsWith, dropStart?, Option.isSome_map]
  rw [hdrop, Option.isSome_iff_exists]
  exact exists_congr fun rest => dropStart?_eq_some_iff

/-- What precedes an ending is what the ending completes. -/
theorem dropEnd?_eq_some_iff {ending s rest : String} :
    dropEnd? ending s = some rest ↔ s = rest ++ ending := by
  rw [dropEnd?, Option.map_eq_some_iff]
  constructor
  · rintro ⟨cs, hcs, rfl⟩
    rw [← String.toList_inj, ← List.reverse_inj, eq_append_of_afterStart? hcs]
    simp
  · rintro rfl
    exact ⟨rest.toList.reverse, by simp, by simp⟩

/-- A beginning that is removed as often as it stands there is gone afterwards. -/
theorem dropStartRepeated_eq_iff {start : List Char} (hstart : start ≠ []) {fuel : Nat}
    {cs rest : List Char} (hfuel : cs.length ≤ fuel) : dropStartRepeated start fuel cs = rest ↔
      (∃ n, cs = (List.replicate n start).flatten ++ rest) ∧ ¬start <+: rest := by
  have hstarts : ∀ cs, start <+: cs ↔ afterStart? start cs ≠ none := fun cs => by
    rw [← isSome_afterStart?_iff, Option.isSome_iff_ne_none]
  induction fuel generalizing cs with
  | zero =>
    obtain rfl : cs = [] := List.eq_nil_of_length_eq_zero (by omega)
    rw [dropStartRepeated]
    constructor
    · rintro rfl
      exact ⟨⟨0, rfl⟩, by simpa using hstart⟩
    · rintro ⟨⟨n, hn⟩, -⟩
      exact (List.append_eq_nil_iff.mp hn.symm).2.symm
  | succ fuel ih =>
    rw [dropStartRepeated]
    cases hafter : afterStart? start cs with
    | none =>
      constructor
      · rintro rfl
        exact ⟨⟨0, rfl⟩, by rw [hstarts, hafter]; simp⟩
      · rintro ⟨⟨n, rfl⟩, -⟩
        -- Nothing was there to be removed.
        cases n with
        | zero => rfl
        | succ n =>
          rw [List.replicate_succ, List.flatten_cons, List.append_assoc, afterStart?_append] at hafter
          cases hafter
    | some tail =>
      obtain rfl := eq_append_of_afterStart? hafter
      have hlength : tail.length ≤ fuel := by
        have := List.length_pos_iff.mpr hstart
        rw [List.length_append] at hfuel
        omega
      refine (ih hlength).trans (and_congr_left fun hrest => ⟨?_, ?_⟩)
      · rintro ⟨n, rfl⟩
        exact ⟨n + 1, by simp [List.replicate_succ]⟩
      · rintro ⟨n, hn⟩
        cases n with
        | zero => exact absurd ⟨tail, hn⟩ hrest
        | succ n =>
          rw [List.replicate_succ, List.flatten_cons, List.append_assoc] at hn
          exact ⟨n, List.append_cancel_left hn⟩

/-- Characters that are removed from the end are gone afterwards. -/
theorem dropEndWhile_eq_iff {sep : Char} {cs rest : List Char} : dropEndWhile (· == sep) cs = rest ↔
    (∃ n, cs = rest ++ List.replicate n sep) ∧ rest.getLast? ≠ some sep := by
  rw [dropEndWhile]
  constructor
  · rintro rfl
    refine ⟨⟨(cs.reverse.takeWhile (· == sep)).length, ?_⟩, ?_⟩
    · have hsame : cs.reverse.takeWhile (· == sep) =
          List.replicate (cs.reverse.takeWhile (· == sep)).length sep :=
        List.eq_replicate_iff.mpr ⟨rfl, fun c hc =>
          eq_of_beq (List.all_eq_true.mp List.all_takeWhile c hc)⟩
      rw [← List.reverse_replicate, ← hsame, ← List.reverse_append, List.takeWhile_append_dropWhile,
        List.reverse_reverse]
    · rw [List.getLast?_reverse]
      intro hhead
      have hnot := List.head?_dropWhile_not (· == sep) cs.reverse
      rw [hhead] at hnot
      simp at hnot
  · rintro ⟨⟨n, rfl⟩, hlast⟩
    have hkeep : rest.reverse.dropWhile (· == sep) = rest.reverse := by
      rw [← List.head?_reverse] at hlast
      cases hrest : rest.reverse with
      | nil => rfl
      | cons c back =>
        rw [hrest, List.head?_cons, Ne, Option.some_inj] at hlast
        exact List.dropWhile_cons_of_neg (by simpa using hlast)
    rw [List.reverse_append, List.dropWhile_append_of_pos (by simp), hkeep, List.reverse_reverse]

/-- Trimming the end first makes no difference. -/
theorem trim_dropEndWhile (s : String) :
    trim (.ofList (dropEndWhile isBlank s.toList)) = trim s := by
  have hs : s = "" ++ .ofList (dropEndWhile isBlank s.toList) ++
      .ofList (s.toList.reverse.takeWhile isBlank).reverse := by
    rw [← String.toList_inj]
    simp [dropEndWhile, ← List.reverse_append]
  conv_rhs => rw [hs]
  refine (trim_append_blanks (by simp) (fun c hc => ?_) _).symm
  exact List.all_eq_true.mp List.all_takeWhile c (by simpa using hc)

/-! ### Lines -/

/-- The carriage return is one of the blanks at the end. -/
theorem trim_dropReturn (cs : List Char) : trim (.ofList (dropReturn cs)) = trim (.ofList cs) := by
  unfold dropReturn
  split
  · next rest hrest =>
    have hcs : String.ofList cs = "" ++ String.ofList rest.reverse ++ "\r" := by
      rw [← String.toList_inj, String.toList_ofList, ← List.reverse_inj, hrest]
      simp
    rw [hcs, trim_append_blanks (by simp) (List.forall_mem_singleton.mpr (by decide))]
  · rfl

theorem dropReturn_isPrefix (cs : List Char) : dropReturn cs <+: cs := by
  unfold dropReturn
  split
  · next rest hrest =>
    rw [← List.reverse_suffix, List.reverse_reverse, hrest]
    exact List.suffix_cons _ _
  · exact List.prefix_rfl

/-- A line has no line feed. -/
theorem newline_notMem_of_mem_lines {s line : String} (h : line ∈ lines s) :
    '\n' ∉ line.toList := by
  have hpiece : ∀ cs ∈ splitWhere (· == '\n') s.toList, '\n' ∉ cs := fun cs hcs hmem => by
    simpa using forall_of_mem_splitWhere hcs _ hmem
  obtain ⟨cs, hcs, rfl⟩ := List.mem_map.mp h
  rw [String.toList_ofList]
  have hended : ∀ cs ∈ ((splitWhere (· == '\n') s.toList).dropLast.map dropReturn), '\n' ∉ cs := by
    intro cs hcs
    obtain ⟨piece, hmem, rfl⟩ := List.mem_map.mp hcs
    exact fun hc => hpiece piece (List.dropLast_subset _ hmem) ((dropReturn_isPrefix piece).mem hc)
  split at hcs
  · exact hended cs hcs
  · rcases List.mem_append.mp hcs with hcs | hcs
    · exact hended cs hcs
    · cases hlast : (splitWhere (· == '\n') s.toList).getLast? with
      | none => simp_all
      | some last =>
        obtain rfl : cs = last := by simpa [hlast] using hcs
        exact hpiece cs (List.mem_of_getLast? hlast)

/-! ### Joined pieces -/

/-- Pieces that are joined by a separator are read back. -/
theorem splitOn_join {sep : Char} {pieces : List String} (hne : pieces ≠ [])
    (h : ∀ piece ∈ pieces, sep ∉ piece.toList) :
    splitOn sep (join sep.toString pieces) = pieces := by
  induction pieces with
  | nil => exact absurd rfl hne
  | cons piece rest ih =>
    rw [List.forall_mem_cons] at h
    have hpiece : splitOn sep piece = [piece] :=
      splitOn_of_forall fun c hc heq => h.1 (heq ▸ hc)
    cases rest with
    | nil => exact hpiece
    | cons next rest =>
      rw [join, splitOn_append_sep, hpiece, ih (by simp) h.2, List.singleton_append]
      simp

theorem join_append {sep : String} {front back : List String} (hfront : front ≠ [])
    (hback : back ≠ []) : join sep (front ++ back) = join sep front ++ sep ++ join sep back := by
  induction front with
  | nil => exact absurd rfl hfront
  | cons piece rest ih =>
    cases rest with
    | nil =>
      obtain ⟨next, back, rfl⟩ := List.exists_cons_of_ne_nil hback
      rfl
    | cons next rest =>
      have hrest := ih (List.cons_ne_nil next rest)
      simp only [List.cons_append, join] at hrest ⊢
      rw [hrest]
      simp only [String.append_assoc]

/-- Names that are joined start with the first of them. -/
theorem exists_join_cons (sep piece : String) (rest : List String) :
    ∃ back, join sep (piece :: rest) = piece ++ back := by
  cases rest with
  | nil => exact ⟨"", by simp [join]⟩
  | cons next rest => exact ⟨sep ++ join sep (next :: rest), by simp [join, String.append_assoc]⟩

theorem forall_mem_join {P : Char → Prop} {sep : String} {pieces : List String}
    (hsep : ∀ c ∈ sep.toList, P c) (h : ∀ piece ∈ pieces, ∀ c ∈ piece.toList, P c) :
    ∀ c ∈ (join sep pieces).toList, P c := by
  induction pieces with
  | nil => simp [join]
  | cons piece rest ih =>
    rw [List.forall_mem_cons] at h
    cases rest with
    | nil => exact h.1
    | cons next rest =>
      have hrest := ih h.2
      intro c hc
      have hparts : c ∈ piece.toList ∨ c ∈ sep.toList ∨ c ∈ (join sep (next :: rest)).toList := by
        simpa [join] using hc
      rcases hparts with hpiece | hmem | hmem
      · exact h.1 c hpiece
      · exact hsep c hmem
      · exact hrest c hmem

end AnnotatedApi.Text
