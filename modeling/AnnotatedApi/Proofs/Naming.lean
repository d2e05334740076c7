import AnnotatedApi.Naming
import AnnotatedApi.Proofs.Text
import Mathlib.Data.List.Chain

/-!
What snake case does to a name.

Every character of a name is lowered to some text, and that text has a `_` only if the character is
one itself (`underscore_mem_lowerChar_iff`).  So the other `_` of a name in snake case are
separators, one in front of every capital that follows another character than a capital
(`count_snakeFrom`).  What is in small letters already stays as it is (`snakeFrom_of_isSmall`).
Main statement: `snakeCase_only_inserts_separators`.
-/

namespace AnnotatedApi

open Text

/-! ### The small form of a character -/

theorem lowerChar_of_ascii {c : Char} (h : c.toNat < 0x80) : lowerChar c = [c.toLower] :=
  if_pos h

theorem lowerChar_ne_nil (c : Char) : lowerChar c ≠ [] := by
  unfold lowerChar
  dsimp only
  split_ifs
  · simp
  · simp
  · split <;> simp

/-- The small letters of all runs come after `_`. -/
theorem underscore_lt_of_mem_caseRuns {r : CaseRun} (h : r ∈ caseRuns) :
    0x5F < r.first + r.offset := by
  have hall : ∀ r ∈ caseRuns, 0x5F < r.first + r.offset := by decide +kernel
  exact hall r h

theorem ofNat_ne_underscore {n : Nat} (h : 0x5F < n) : Char.ofNat n ≠ '_' := by
  intro heq
  by_cases hvalid : n.isValidChar
  · have hcode : (Char.ofNatAux n hvalid).toNat = 0x5F :=
      congrArg Char.toNat ((dif_pos hvalid).symm.trans heq)
    have hsame : n = 0x5F := hcode
    omega
  · exact absurd ((dif_neg hvalid).symm.trans heq) (by decide)

theorem isUpper_iff {c : Char} : c.isUpper = true ↔ 0x41 ≤ c.toNat ∧ c.toNat ≤ 0x5A :=
  decide_eq_true_iff

/-- A capital becomes the letter 32 codes behind it, and other characters stay. -/
theorem toLower_cases (c : Char) :
    (c.isUpper = true ∧ c.toLower.toNat = c.toNat + 0x20) ∨ (c.isUpper = false ∧ c.toLower = c) := by
  by_cases hupper : c.val ≥ 'A'.val ∧ c.val ≤ 'Z'.val
  · have hcode : c.toNat ≤ 0x5A := hupper.2
    have hlower : c.toLower.toNat = (c.toNat + 0x20) % 2 ^ 32 :=
      congrArg Char.toNat (dif_pos hupper)
    refine .inl ⟨isUpper_iff.mpr hupper, ?_⟩
    rw [hlower, Nat.mod_eq_of_lt (by omega)]
  · exact .inr ⟨decide_eq_false hupper, dif_neg hupper⟩

theorem toLower_eq_underscore {c : Char} (h : c.toLower = '_') : c = '_' := by
  rcases toLower_cases c with ⟨hupper, hcode⟩ | ⟨-, hsame⟩
  · rw [isUpper_iff] at hupper
    have hscore : c.toLower.toNat = 0x5F := by rw [h]; rfl
    omega
  · rw [← hsame, h]

/-- Only `_` has a `_` in its small form. -/
theorem underscore_mem_lowerChar_iff {c : Char} : '_' ∈ lowerChar c ↔ c = '_' := by
  constructor
  · intro h
    unfold lowerChar at h
    dsimp only at h
    split_ifs at h
    · exact toLower_eq_underscore (List.mem_singleton.mp h).symm
    · exact absurd h (by decide)
    · split at h
      · next r hr =>
        have hrun := underscore_lt_of_mem_caseRuns (List.mem_of_find?_eq_some hr)
        have hcovers := List.find?_some hr
        simp only [CaseRun.covers, Bool.and_eq_true, decide_eq_true_eq] at hcovers
        exact absurd (List.mem_singleton.mp h).symm (ofNat_ne_underscore (by omega))
      · exact (List.mem_singleton.mp h).symm
  · rintro rfl
    decide

theorem lowerChar_underscore : lowerChar '_' = ['_'] := rfl

theorem count_lowerChar (c : Char) :
    (lowerChar c).count '_' = if c == '_' then 1 else 0 := by
  by_cases hc : c = '_'
  · rw [hc, lowerChar_underscore]
    rfl
  · rw [List.count_eq_zero_of_not_mem (mt underscore_mem_lowerChar_iff.mp hc),
      if_neg (by simpa using hc)]

theorem filter_lowerChar (c : Char) :
    (lowerChar c).filter (· != '_') = ([c].filter (· != '_')).flatMap lowerChar := by
  by_cases hc : c = '_'
  · rw [hc, lowerChar_underscore]
    rfl
  · have hnone : '_' ∉ lowerChar c := mt underscore_mem_lowerChar_iff.mp hc
    have hkeep : (lowerChar c).filter (· != '_') = lowerChar c := by
      rw [List.filter_eq_self]
      intro d hd
      exact bne_iff_ne.mpr (ne_of_mem_of_not_mem hd hnone)
    rw [hkeep, List.filter_cons_of_pos (by simpa using hc)]
    simp

/-! ### Separators -/

/-- Position `i` is where a word of the name starts: a capital that follows another character than a
capital. -/
def startsWord (cs : List Char) (i : Nat) : Bool :=
  0 < i && cs[i]?.any isUppercase && !cs[i - 1]?.any isUppercase

theorem startsWord_one (c d : Char) (rest : List Char) :
    startsWord (c :: d :: rest) 1 = (isUppercase d && !isUppercase c) := by
  simp [startsWord]

theorem startsWord_cons (c : Char) (rest : List Char) (i : Nat) :
    startsWord (c :: rest) (i + 2) = startsWord rest (i + 1) := by
  simp [startsWord]

/-- What stands in front of a character: a separator, if a word starts there. -/
def separator (inside afterUpper : Bool) (c : Char) : List Char :=
  if isUppercase c && inside && !afterUpper then ['_'] else []

theorem snakeFrom_cons (inside afterUpper : Bool) (c : Char) (rest : List Char) :
    snakeFrom inside afterUpper (c :: rest) =
      separator inside afterUpper c ++ lowerChar c ++ snakeFrom true (isUppercase c) rest :=
  rfl

theorem count_separator (afterUpper : Bool) (c : Char) :
    (separator true afterUpper c).count '_' =
      if isUppercase c && !afterUpper then 1 else 0 := by
  rw [separator, Bool.and_true]
  split <;> rfl

theorem filter_separator (inside afterUpper : Bool) (c : Char) :
    (separator inside afterUpper c).filter (· != '_') = [] := by
  unfold separator
  split <;> rfl

/-- Without any `_`, snake case lowers the characters one by one. -/
theorem filter_snakeFrom (inside afterUpper : Bool) (cs : List Char) :
    (snakeFrom inside afterUpper cs).filter (· != '_') =
      (cs.filter (· != '_')).flatMap lowerChar := by
  induction cs generalizing inside afterUpper with
  | nil => rfl
  | cons c rest ih =>
    rw [snakeFrom_cons, List.filter_append, List.filter_append, filter_separator, filter_lowerChar,
      ih, List.nil_append, ← List.flatMap_append, ← List.filter_append, List.singleton_append]

/-- Behind the first character there is one more `_` for every word that starts. -/
theorem count_snakeFrom (c : Char) (rest : List Char) :
    (snakeFrom true (isUppercase c) rest).count '_' =
      rest.count '_' + (List.range rest.length).countP fun i => startsWord (c :: rest) (i + 1) := by
  induction rest generalizing c with
  | nil => rfl
  | cons d rest ih =>
    have hshift : (fun i => startsWord (c :: d :: rest) (i + 1)) ∘ Nat.succ =
        fun i => startsWord (d :: rest) (i + 1) :=
      funext fun i => startsWord_cons c (d :: rest) i
    rw [snakeFrom_cons, List.count_append, List.count_append, ih, count_separator, count_lowerChar,
      List.count_cons, List.length_cons, List.range_succ_eq_map, List.countP_cons, List.countP_map,
      hshift, startsWord_one]
    omega

theorem count_snakeFrom_start (cs : List Char) :
    (snakeFrom false false cs).count '_' =
      cs.count '_' + (List.range cs.length).countP (startsWord cs) := by
  cases cs with
  | nil => rfl
  | cons c rest =>
    have hseparator : separator false false c = [] := by simp [separator]
    have hzero : startsWord (c :: rest) 0 = false := by simp [startsWord]
    have hshift : startsWord (c :: rest) ∘ Nat.succ = fun i => startsWord (c :: rest) (i + 1) :=
      rfl
    rw [snakeFrom_cons, hseparator, List.nil_append, List.count_append, count_lowerChar,
      count_snakeFrom, List.count_cons, List.length_cons, List.range_succ_eq_map, List.countP_cons,
      List.countP_map, hshift, hzero]
    simp only [Bool.false_eq_true, if_false]
    omega

/-! ### Names without a `_` -/

/-- The piece that a character adds ends in its small form. -/
theorem getLast?_piece (inside afterUpper : Bool) (c : Char) :
    (separator inside afterUpper c ++ lowerChar c).getLast? = (lowerChar c).getLast? :=
  List.getLast?_append_of_ne_nil _ (lowerChar_ne_nil c)

theorem getLast?_snakeFrom {cs : List Char} (h : '_' ∉ cs) (inside afterUpper : Bool) :
    (snakeFrom inside afterUpper cs).getLast? ≠ some '_' := by
  induction cs generalizing inside afterUpper with
  | nil => simp [snakeFrom]
  | cons c rest ih =>
    rw [List.mem_cons, not_or] at h
    rw [snakeFrom_cons]
    by_cases hrest : snakeFrom true (isUppercase c) rest = []
    · rw [hrest, List.append_nil, getLast?_piece]
      exact fun hlast => h.1 (underscore_mem_lowerChar_iff.mp (List.mem_of_getLast? hlast)).symm
    · rw [List.getLast?_append_of_ne_nil _ hrest]
      exact ih h.2 true (isUppercase c)

/-- Of two neighbours at most one is a `_`. -/
theorem isChain_snakeFrom {cs : List Char} (h : '_' ∉ cs) (inside afterUpper : Bool) :
    (snakeFrom inside afterUpper cs).IsChain fun d e => d ≠ '_' ∨ e ≠ '_' := by
  induction cs generalizing inside afterUpper with
  | nil => exact .nil
  | cons c rest ih =>
    rw [List.mem_cons, not_or] at h
    have hnone : ∀ d ∈ lowerChar c, d ≠ '_' := fun d hd heq =>
      h.1 (underscore_mem_lowerChar_iff.mp (heq ▸ hd)).symm
    have hlower : (lowerChar c).IsChain fun d e => d ≠ '_' ∨ e ≠ '_' :=
      (List.pairwise_of_forall_mem_list fun d hd e _ => .inl (hnone d hd)).isChain
    have hseparator : (separator inside afterUpper c).IsChain fun d e => d ≠ '_' ∨ e ≠ '_' := by
      unfold separator
      split
      · exact .singleton _
      · exact .nil
    -- A separator stands in front of a small form, and so does whatever follows the small form.
    rw [snakeFrom_cons, List.isChain_append, List.isChain_append]
    refine ⟨⟨hseparator, hlower, fun d _ e he => .inr (hnone e (List.mem_of_mem_head? he))⟩,
      ih h.2 true (isUppercase c), fun d hd e _ => .inl (hnone d ?_)⟩
    rw [getLast?_piece] at hd
    exact List.mem_of_mem_getLast? hd

theorem head?_snakeFrom {cs : List Char} (h : '_' ∉ cs) (afterUpper : Bool) :
    (snakeFrom false afterUpper cs).head? ≠ some '_' := by
  cases cs with
  | nil => simp [snakeFrom]
  | cons c rest =>
    rw [List.mem_cons, not_or] at h
    have hseparator : separator false afterUpper c = [] := by simp [separator]
    rw [snakeFrom_cons, hseparator, List.nil_append,
      List.head?_append_of_ne_nil _ (lowerChar_ne_nil c)]
    exact fun hhead => h.1 (underscore_mem_lowerChar_iff.mp (List.mem_of_mem_head? hhead)).symm

/-! ### Small letters -/

/-- A character that snake case leaves as it is. -/
structure IsSmall (c : Char) : Prop where
  not_upper : isUppercase c = false
  lower : lowerChar c = [c]

theorem snakeFrom_of_isSmall {cs : List Char} (h : ∀ c ∈ cs, IsSmall c)
    (inside afterUpper : Bool) : snakeFrom inside afterUpper cs = cs := by
  induction cs generalizing inside afterUpper with
  | nil => rfl
  | cons c rest ih =>
    rw [List.forall_mem_cons] at h
    have hseparator : separator inside afterUpper c = [] := by simp [separator, h.1.not_upper]
    rw [snakeFrom_cons, hseparator, h.1.lower, ih h.2]
    rfl

theorem isSmall_toLower {c : Char} (h : c.toNat < 0x80) : IsSmall c.toLower := by
  have hother : c.toLower.isUpper = false ∧ c.toLower.toNat < 0x80 := by
    rcases toLower_cases c with ⟨hupper, hcode⟩ | ⟨hupper, hsame⟩
    · rw [isUpper_iff] at hupper
      rw [← Bool.not_eq_true, isUpper_iff]
      omega
    · rw [hsame]
      exact ⟨hupper, h⟩
  obtain ⟨hupper, hascii⟩ := hother
  refine ⟨?_, ?_⟩
  · rw [isUppercase, if_pos hascii, hupper]
  · rw [lowerChar_of_ascii hascii]
    rcases toLower_cases c.toLower with ⟨habove, -⟩ | ⟨-, hsame⟩
    · rw [hupper] at habove
      cases habove
    · rw [hsame]

theorem isSmall_of_mem_snakeFrom {cs : List Char} (h : ∀ c ∈ cs, c.toNat < 0x80)
    (inside afterUpper : Bool) : ∀ d ∈ snakeFrom inside afterUpper cs, IsSmall d := by
  induction cs generalizing inside afterUpper with
  | nil => exact List.forall_mem_nil _
  | cons c rest ih =>
    rw [List.forall_mem_cons] at h
    intro d hd
    rw [snakeFrom_cons, lowerChar_of_ascii h.1, List.mem_append, List.mem_append] at hd
    rcases hd with (hd | hd) | hd
    · obtain rfl : d = '_' := by
        unfold separator at hd
        split at hd
        · exact List.mem_singleton.mp hd
        · cases hd
      exact ⟨rfl, rfl⟩
    · rw [List.mem_singleton.mp hd]
      exact isSmall_toLower h.1
    · exact ih h.2 true (isUppercase c) d hd

/-- **Snake case only inserts separators.**  One stands in front of each capital that follows another
character than a capital; without them the name is lowered character by character. -/
theorem snakeCase_only_inserts_separators (name : String) :
    (snakeCase name).toList.count '_' =
      name.toList.count '_' + (List.range name.length).countP (startsWord name.toList) ∧
    (snakeCase name).toList.filter (· != '_') =
      (name.toList.filter (· != '_')).flatMap lowerChar ∧
    ('_' ∉ name.toList → (snakeCase name).toList.head? ≠ some '_' ∧
      (snakeCase name).toList.getLast? ≠ some '_' ∧ ¬['_', '_'] <:+: (snakeCase name).toList) ∧
    ((∀ c ∈ name.toList, c.toNat < 0x80) → snakeCase (snakeCase name) = snakeCase name) := by
  have hchars : (snakeCase name).toList = snakeFrom false false name.toList :=
    String.toList_ofList
  rw [hchars, ← String.length_toList]
  refine ⟨count_snakeFrom_start _, filter_snakeFrom false false _, fun hnone => ?_, fun hascii => ?_⟩
  · refine ⟨head?_snakeFrom hnone false, getLast?_snakeFrom hnone false false, fun hdouble => ?_⟩
    obtain ⟨front, back, htext⟩ := hdouble
    have hpair := List.isChain_iff_forall_rel_of_append_cons_cons.mp
      (isChain_snakeFrom hnone false false) (htext.symm.trans (List.append_assoc _ _ _))
    simp at hpair
  · rw [snakeCase, hchars, snakeFrom_of_isSmall (isSmall_of_mem_snakeFrom hascii false false)]
    rfl

/-- A name with an acronym in it. -/
theorem snakeCase_of_userHTTPPortNo :
    let name := "userHTTPPortNo"
    '_' ∉ name.toList ∧ (∀ c ∈ name.toList, c.toNat < 0x80) ∧
    (List.range name.length).countP (startsWord name.toList) = 2 ∧
    snakeCase name = "user_httpport_no" ∧
    (snakeCase name).toList.count '_' = 2 ∧
    ¬['_', '_'] <:+: (snakeCase name).toList ∧ snakeCase (snakeCase name) = snakeCase name := by
  intro name
  have hnone : '_' ∉ name.toList := by decide
  have hascii : ∀ c ∈ name.toList, c.toNat < 0x80 := by simp [name]
  have hstarts : (List.range name.length).countP (startsWord name.toList) = 2 := by decide
  have hcase : snakeCase name = "user_httpport_no" := by decide +kernel
  obtain ⟨hcount, -, hends, hagain⟩ := snakeCase_only_inserts_separators name
  rw [hstarts, List.count_eq_zero_of_not_mem hnone] at hcount
  exact ⟨hnone, hascii, hstarts, hcase, hcount, (hends hnone).2.2, hagain hascii⟩

-- A mathematical capital has no small form, so it gets another separator every time.
example : snakeCase "x𝐀" = "x_𝐀" ∧ snakeCase "x_𝐀" = "x__𝐀" := by decide +kernel

end AnnotatedApi
