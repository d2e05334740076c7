import AnnotatedApi.Proofs.Directive.Pattern

/-!
What the readers of arguments take.

`Pattern` says when a reader succeeds; here is what it takes then.  A reader takes a text off the
front exactly if the characters are that text, followed by something that does not go on with it
(`run?_eq_some_iff` and the lemmas beside it).  Blanks in front of an argument belong to none, as no
argument starts with a blank (`behind_blanks_eq_some_iff`).
-/

namespace AnnotatedApi

open Text

namespace Directive

open Pattern

variable {cs rest : List Char}

/-! ### Runs -/

theorem matches_run_of_all {p : Char → Bool} (hne : cs ≠ []) (hall : cs.all p = true) :
    (Pattern.run p).Matches cs :=
  ⟨hne, List.all_eq_true.mp hall⟩

/-- A run goes as far as its class does. -/
theorem run?_eq_some_iff {p : Char → Bool} {taken : List Char} :
    run? p cs = some (taken, rest) ↔
      cs = taken ++ rest ∧ (Pattern.run p).Matches taken ∧ ∀ c ∈ rest.head?, p c = false := by
  constructor
  · intro h
    simp only [run?, Option.ite_none_left_eq_some, Option.some_inj, Prod.mk.injEq,
      List.isEmpty_iff] at h
    obtain ⟨hne, rfl, rfl⟩ := h
    refine ⟨List.takeWhile_append_dropWhile.symm, ⟨hne, List.all_eq_true.mp List.all_takeWhile⟩, ?_⟩
    intro c hc
    have hhead := List.head?_dropWhile_not p cs
    rw [Option.mem_def.mp hc] at hhead
    simpa using hhead
  · rintro ⟨rfl, ⟨hne, htaken⟩, hrest⟩
    -- Nothing of what follows belongs to the run.
    have hnone : rest.takeWhile p = [] ∧ rest.dropWhile p = rest := by
      cases rest with
      | nil => exact ⟨rfl, rfl⟩
      | cons c rest => simp [hrest c (by simp)]
    rw [run?, List.takeWhile_append_of_pos htaken, List.dropWhile_append_of_pos htaken, hnone.1,
      hnone.2, List.append_nil, if_neg (by simpa using hne)]

/-- A text with blanks in front starts with one. -/
theorem head?_append_blanks {b : List Char} (hb : blanks.Matches b) :
    ∀ c ∈ (b ++ rest).head?, isBlank c = true := by
  intro c hc
  obtain ⟨d, b, rfl⟩ := List.exists_cons_of_ne_nil hb.1
  obtain rfl : d = c := by simpa using hc
  exact hb.2 d List.mem_cons_self

theorem afterBlanks?_eq_some_iff : afterBlanks? cs = some rest ↔
    ∃ b, cs = b ++ rest ∧ blanks.Matches b ∧ ∀ c ∈ rest.head?, isBlank c = false := by
  have hrun : afterBlanks? cs = (run? isBlank cs).map Prod.snd := by
    rw [Accepts.afterBlanks?_eq, run?]
    by_cases hnil : cs.takeWhile isBlank = []
    · rw [if_pos hnil, if_pos (by simpa using hnil), Option.map_none]
    · rw [if_neg hnil, if_neg (by simpa using hnil), Option.map_some]
  rw [hrun, Option.map_eq_some_iff]
  constructor
  · rintro ⟨⟨b, rest⟩, hread, rfl⟩
    exact ⟨b, run?_eq_some_iff.mp hread⟩
  · rintro ⟨b, hread⟩
    exact ⟨(b, rest), run?_eq_some_iff.mpr hread, rfl⟩

/-- An argument behind blanks.  All the blanks belong to the front, as the reader takes none. -/
theorem behind_blanks_eq_some_iff {α : Type} {reader : List Char → Option α} {a : α}
    (hstart : ∀ c cs, isBlank c = true → reader (c :: cs) = none) :
    (afterBlanks? cs).bind reader = some a ↔
      ∃ b rest, cs = b ++ rest ∧ blanks.Matches b ∧ reader rest = some a := by
  rw [Option.bind_eq_some_iff]
  constructor
  · rintro ⟨rest, hrest, hread⟩
    obtain ⟨b, hcs, hb, -⟩ := afterBlanks?_eq_some_iff.mp hrest
    exact ⟨b, rest, hcs, hb, hread⟩
  · rintro ⟨b, rest, hcs, hb, hread⟩
    refine ⟨rest, afterBlanks?_eq_some_iff.mpr ⟨b, hcs, hb, ?_⟩, hread⟩
    intro c hc
    obtain ⟨tail, rfl⟩ := List.head?_eq_some_iff.mp hc
    by_contra hblank
    rw [hstart c tail (by simpa using hblank)] at hread
    cases hread

/-- A run behind blanks, of a class without blanks. -/
theorem run_behind_blanks_eq_some_iff {p : Char → Bool}
    (hp : ∀ c, p c = true → isBlank c = false) {taken : List Char} :
    (afterBlanks? cs).bind (run? p) = some (taken, rest) ↔
      ∃ b, cs = b ++ taken ++ rest ∧ blanks.Matches b ∧ (Pattern.run p).Matches taken ∧
        ∀ c ∈ rest.head?, p c = false := by
  have hstart : ∀ c cs, isBlank c = true → run? p (c :: cs) = none := by
    intro c cs hc
    have hpc : ¬p c = true := fun h => by simp [hp c h] at hc
    simp [run?, hpc]
  rw [behind_blanks_eq_some_iff hstart]
  constructor
  · rintro ⟨b, back, rfl, hb, hread⟩
    obtain ⟨rfl, htaken, hrest⟩ := run?_eq_some_iff.mp hread
    exact ⟨b, (List.append_assoc _ _ _).symm, hb, htaken, hrest⟩
  · rintro ⟨b, rfl, hb, htaken, hrest⟩
    exact ⟨b, taken ++ rest, List.append_assoc _ _ _, hb,
      run?_eq_some_iff.mpr ⟨rfl, htaken, hrest⟩⟩

/-- The blanks of the next argument end a run. -/
theorem run_between_blanks {p : Char → Bool} (hp : ∀ c, p c = true → isBlank c = false)
    {b taken b' : List Char} (hb : blanks.Matches b) (htaken : (Pattern.run p).Matches taken)
    (hb' : blanks.Matches b') (back : List Char) :
    (afterBlanks? (b ++ (taken ++ (b' ++ back)))).bind (run? p) = some (taken, b' ++ back) := by
  refine (run_behind_blanks_eq_some_iff hp).mpr
    ⟨b, (List.append_assoc _ _ _).symm, hb, htaken, fun c hc => ?_⟩
  have hblank : isBlank c = true := head?_append_blanks hb' c hc
  by_contra hpc
  simp [hp c (by simpa using hpc)] at hblank

/-- Tokens are runs of a class without blanks. -/
theorem isBlank_of_not {c : Char} (h : (!isBlank c) = true) : isBlank c = false := by
  simpa using h

/-! ### Texts in quotes, words in brackets, flags -/

theorem quoted?_eq_some_iff {text : List Char} :
    quoted? cs = some (text, rest) ↔ cs = '"' :: (text ++ '"' :: rest) ∧ '"' ∉ text := by
  rw [Accepts.quoted?_eq, Option.bind_eq_some_iff]
  constructor
  · rintro ⟨back, hback, hcut⟩
    obtain rfl := eq_append_of_afterStart? hback
    obtain ⟨rfl, htext⟩ := cutChars_eq_some_iff.mp hcut
    exact ⟨rfl, htext⟩
  · rintro ⟨rfl, htext⟩
    exact ⟨_, afterStart?_append ['"'] _, cutChars_append htext rest⟩

theorem quoted_behind_blanks_eq_some_iff {text : List Char} :
    (afterBlanks? cs).bind quoted? = some (text, rest) ↔
      ∃ b, cs = b ++ '"' :: (text ++ '"' :: rest) ∧ blanks.Matches b ∧ '"' ∉ text := by
  have hstart : ∀ c cs, isBlank c = true → quoted? (c :: cs) = none := by
    intro c cs hc
    have hquote : '"' ≠ c := by
      rintro rfl
      exact absurd hc (by decide)
    rw [Accepts.quoted?_eq]
    simp [afterStart?, hquote]
  rw [behind_blanks_eq_some_iff hstart]
  constructor
  · rintro ⟨b, back, rfl, hb, hread⟩
    obtain ⟨rfl, htext⟩ := quoted?_eq_some_iff.mp hread
    exact ⟨b, rfl, hb, htext⟩
  · rintro ⟨b, rfl, hb, htext⟩
    exact ⟨b, _, rfl, hb, quoted?_eq_some_iff.mpr ⟨rfl, htext⟩⟩

theorem bracketed?_eq_some_iff {opening closing : Char} (hclosing : isWordChar closing = false)
    {word : List Char} : bracketed? opening closing cs = some (word, rest) ↔
      cs = opening :: (word ++ closing :: rest) ∧ Pattern.word.Matches word := by
  rw [Accepts.bracketed?_eq]
  constructor
  · intro h
    obtain ⟨back, hback, h⟩ := Option.bind_eq_some_iff.mp h
    obtain ⟨⟨taken, after⟩, hread, h⟩ := Option.bind_eq_some_iff.mp h
    obtain ⟨behind, hbehind, heq⟩ := Option.map_eq_some_iff.mp h
    obtain ⟨rfl, rfl⟩ := Prod.mk.inj heq
    obtain rfl := eq_append_of_afterStart? hback
    obtain ⟨rfl, hword, -⟩ := run?_eq_some_iff.mp hread
    obtain rfl := eq_append_of_afterStart? hbehind
    exact ⟨rfl, hword⟩
  · rintro ⟨rfl, hword⟩
    have hread : run? isWordChar (word ++ closing :: rest) = some (word, closing :: rest) :=
      run?_eq_some_iff.mpr ⟨rfl, hword, by simpa using hclosing⟩
    rw [show opening :: (word ++ closing :: rest) = [opening] ++ (word ++ closing :: rest) from rfl,
      afterStart?_append, Option.bind_some, hread, Option.bind_some]
    simp [afterStart?]

theorem bracketed_behind_blanks_eq_some_iff {opening closing : Char}
    (hopening : isBlank opening = false) (hclosing : isWordChar closing = false)
    {word : List Char} : (afterBlanks? cs).bind (bracketed? opening closing) = some (word, rest) ↔
      ∃ b, cs = b ++ opening :: (word ++ closing :: rest) ∧ blanks.Matches b ∧
        Pattern.word.Matches word := by
  have hstart : ∀ c cs, isBlank c = true → bracketed? opening closing (c :: cs) = none := by
    intro c cs hc
    have hne : ¬c = opening := by
      rintro rfl
      simp [hopening] at hc
    simp [bracketed?, hne]
  rw [behind_blanks_eq_some_iff hstart]
  constructor
  · rintro ⟨b, back, rfl, hb, hread⟩
    obtain ⟨rfl, hword⟩ := (bracketed?_eq_some_iff hclosing).mp hread
    exact ⟨b, rfl, hb, hword⟩
  · rintro ⟨b, rfl, hb, hword⟩
    exact ⟨b, _, rfl, hb, (bracketed?_eq_some_iff hclosing).mpr ⟨rfl, hword⟩⟩

/-- The word for a flag. -/
def truthText (value : Bool) : List Char :=
  if value then "true".toList else "false".toList

theorem truth_behind_blanks_eq_some_iff {value : Bool} :
    (afterBlanks? cs).bind truthAt? = some (value, rest) ↔
      ∃ b, cs = b ++ truthText value ++ rest ∧ blanks.Matches b := by
  have hread : ∀ cs, truthAt? cs = some (value, rest) ↔ cs = truthText value ++ rest := by
    intro cs
    unfold truthAt?
    constructor
    · intro h
      split at h
      · next back hback =>
        obtain ⟨rfl, rfl⟩ := Prod.mk.inj (Option.some_inj.mp h)
        exact eq_append_of_afterStart? hback
      · obtain ⟨back, hback, heq⟩ := Option.map_eq_some_iff.mp h
        obtain ⟨rfl, rfl⟩ := Prod.mk.inj heq
        exact eq_append_of_afterStart? hback
    · rintro rfl
      cases value <;> rfl
  have hstart : ∀ c cs, isBlank c = true → truthAt? (c :: cs) = none := by
    intro c cs hc
    have hne : 't' ≠ c ∧ 'f' ≠ c := by
      constructor <;> rintro rfl <;> exact absurd hc (by decide)
    simp [truthAt?, afterStart?, hne.1, hne.2]
  rw [behind_blanks_eq_some_iff hstart]
  constructor
  · rintro ⟨b, back, rfl, hb, hback⟩
    obtain rfl := (hread back).mp hback
    exact ⟨b, (List.append_assoc _ _ _).symm, hb⟩
  · rintro ⟨b, rfl, hb⟩
    exact ⟨b, _, List.append_assoc _ _ _, hb, (hread _).mpr rfl⟩

end Directive

end AnnotatedApi
