import AnnotatedApi.Directive.Attribute
import AnnotatedApi.Proofs.Directive.Readers

/-!
Attributes in a text.

An attribute is a word and a value in brackets, and the value goes on to the first closing bracket
(`attributeAt?_eq_some_iff`).  An attribute at the front of a text is read off, and what stands behind
it is read on its own (`attributes_append`); characters that are in no word lead to no attribute
(`attributes_cons_of_not_word`).  Main statement: attributes that are written one after another are
read back, whatever their values are (`attributes_of_texts`).
-/

namespace AnnotatedApi

open Text

namespace Directive

open Pattern

variable {cs rest : List Char}

/-! ### One attribute -/

theorem attributeAt?_eq_some_iff {key value : List Char} :
    attributeAt? cs = some (key, value, rest) ↔
      cs = key ++ '(' :: (value ++ ')' :: rest) ∧ word.Matches key ∧ value ≠ [] ∧ ')' ∉ value := by
  constructor
  · intro h
    unfold attributeAt? at h
    split at h
    · next word behind hrun =>
      obtain ⟨rfl, hword, -⟩ := run?_eq_some_iff.mp hrun
      split at h
      · next text back hcut =>
        obtain ⟨rfl, htext⟩ := cutChars_eq_some_iff.mp hcut
        split at h
        · cases h
        · next hne =>
          obtain ⟨rfl, heq⟩ := Prod.mk.inj (Option.some_inj.mp h)
          obtain ⟨rfl, rfl⟩ := Prod.mk.inj heq
          exact ⟨rfl, hword, by simpa using hne, htext⟩
      · cases h
    · cases h
  · rintro ⟨rfl, hkey, hne, hvalue⟩
    have hrun : run? isWordChar (key ++ '(' :: (value ++ ')' :: rest)) =
        some (key, '(' :: (value ++ ')' :: rest)) :=
      run?_eq_some_iff.mpr ⟨rfl, hkey, by simpa using (by decide : isWordChar '(' = false)⟩
    rw [attributeAt?, hrun]
    simp only [cutChars_append hvalue]
    rw [if_neg (by simpa using hne)]

/-- What stands behind an attribute is shorter than the text. -/
theorem length_lt_of_attributeAt? {key value : List Char}
    (h : attributeAt? cs = some (key, value, rest)) : rest.length < cs.length := by
  obtain ⟨rfl, -⟩ := attributeAt?_eq_some_iff.mp h
  simp
  omega

/-! ### The attributes of a text -/

/-- One step of reading: an attribute, or a character to pass over. -/
theorem attributesFrom_succ (fuel : Nat) (cs : List Char) : attributesFrom (fuel + 1) cs =
    match attributeAt? cs with
    | some (key, value, rest) => (key, value) :: attributesFrom fuel rest
    | none =>
      match cs with
      | [] => []
      | _ :: rest => attributesFrom fuel rest :=
  (rfl)

/-- Any fuel beyond the length gives the same attributes. -/
theorem attributesFrom_eq_of_lt {m n : Nat} (hm : cs.length < m) (hn : cs.length < n) :
    attributesFrom m cs = attributesFrom n cs := by
  induction m generalizing n cs with
  | zero => omega
  | succ m ih =>
    obtain ⟨n, rfl⟩ : ∃ k, n = k + 1 := ⟨n - 1, by omega⟩
    rw [attributesFrom_succ, attributesFrom_succ]
    split
    · next key value rest hattribute =>
      have hlength := length_lt_of_attributeAt? hattribute
      have hrest : attributesFrom m rest = attributesFrom n rest := ih (by omega) (by omega)
      rw [hrest]
    · cases cs with
      | nil => rfl
      | cons c rest =>
        rw [List.length_cons] at hm hn
        exact ih (by omega) (by omega)

/-- No attribute starts with a character that is not one of a word. -/
theorem attributes_cons_of_not_word {c : Char} (hc : isWordChar c = false) (cs : List Char) :
    attributes (.ofList (c :: cs)) = attributes (.ofList cs) := by
  have hnone : attributeAt? (c :: cs) = none := by
    simp [attributeAt?, run?, hc]
  have hskip : attributesFrom (cs.length + 1 + 1) (c :: cs) =
      attributesFrom (cs.length + 1) cs := by
    rw [attributesFrom, hnone]
  simp only [attributes, String.length_ofList, String.toList_ofList, List.length_cons, hskip]

theorem attributes_append_blanks {b : List Char} (hb : ∀ c ∈ b, isBlank c = true)
    (cs : List Char) : attributes (.ofList (b ++ cs)) = attributes (.ofList cs) := by
  induction b with
  | nil => rfl
  | cons c b ih =>
    have hword : isWordChar c = false := by
      by_contra hc
      have hblank := isBlank_of_isWordChar (c := c) (by simpa using hc)
      simp [hb c List.mem_cons_self] at hblank
    rw [List.cons_append, attributes_cons_of_not_word hword,
      ih fun d hd => hb d (List.mem_cons_of_mem c hd)]

/-! ### Attributes one after another -/

/-- The text of an attribute. -/
def attributeText (a : String × String) : String :=
  a.1 ++ "(" ++ a.2 ++ ")"

/-- A key and a value that an attribute can have. -/
structure IsAttribute (a : String × String) : Prop where
  key : word.Matches a.1.toList
  value_ne_empty : a.2 ≠ ""
  value : ')' ∉ a.2.toList

/-- An attribute at the front is read off. -/
theorem attributes_append {a : String × String} (h : IsAttribute a) (text : String) :
    attributes (attributeText a ++ text) =
      (lower a.1, a.2) :: attributes text := by
  have hread : attributeAt? (attributeText a ++ text).toList =
      some (a.1.toList, a.2.toList, text.toList) :=
    attributeAt?_eq_some_iff.mpr
      ⟨by simp [attributeText], h.key, by simpa using h.value_ne_empty, h.value⟩
  have hlength := length_lt_of_attributeAt? hread
  rw [String.length_toList] at hlength
  have hrest : attributesFrom (attributeText a ++ text).length text.toList =
      attributesFrom (text.length + 1) text.toList :=
    attributesFrom_eq_of_lt hlength (by rw [String.length_toList]; omega)
  rw [attributes, attributesFrom_succ, hread]
  dsimp only
  rw [hrest, attributes]
  simp

/-- **Attributes are read back in order.**  Keys come in small letters and values as they are, whatever
they are. -/
theorem attributes_of_texts {written : List (String × String)}
    (h : ∀ a ∈ written, IsAttribute a) :
    attributes (join " " (written.map attributeText)) =
      written.map fun a => (lower a.1, a.2) := by
  induction written with
  | nil => rfl
  | cons a others ih =>
    rw [List.forall_mem_cons] at h
    cases others with
    | nil =>
      have hlast := attributes_append h.1 ""
      rw [String.append_empty] at hlast
      exact hlast
    | cons next others =>
      have hjoin : join " " ((a :: next :: others).map attributeText) =
          attributeText a ++ (" " ++ join " " ((next :: others).map attributeText)) :=
        String.append_assoc
      have hspace : ∀ text : String, attributes (" " ++ text) = attributes text := by
        intro text
        have htext : " " ++ text = .ofList (' ' :: text.toList) := by
          rw [← String.toList_inj]
          simp
        rw [htext, attributes_cons_of_not_word (by decide), String.ofList_toList]
      rw [hjoin, attributes_append h.1, hspace, ih h.2]
      rfl

/-- A value that looks like the start of another attribute, and a key with capitals. -/
theorem attributes_of_nested_brackets :
    let written := [("maxLength", "10"), ("Enums", "a(b, other(more"), ("default", " (")]
    (∀ a ∈ written, IsAttribute a) ∧
    join " " (written.map attributeText) = "maxLength(10) Enums(a(b, other(more) default( ()" ∧
    attributes (join " " (written.map attributeText)) =
      [("maxlength", "10"), ("enums", "a(b, other(more"), ("default", " (")] := by
  intro written
  have hwritten : ∀ a ∈ written, IsAttribute a := by
    rw [List.forall_mem_cons, List.forall_mem_cons, List.forall_mem_singleton]
    exact ⟨⟨⟨by decide, List.all_eq_true.mp rfl⟩, by decide, by decide⟩,
      ⟨⟨by decide, List.all_eq_true.mp rfl⟩, by decide, by decide⟩,
      ⟨⟨by decide, List.all_eq_true.mp rfl⟩, by decide, by decide⟩⟩
  refine ⟨hwritten, by decide, ?_⟩
  rw [attributes_of_texts hwritten]
  decide +kernel

end Directive

end AnnotatedApi
