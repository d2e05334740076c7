import AnnotatedApi.TypeExpr.Reader
import AnnotatedApi.Proofs.Text

/-!
Reading back written types.

A type has several spellings (`TypeExpr.Spells`): any length may stand in the brackets of a slice, and
the empty interface has two names.  The reader takes a spelling off the front of any text that goes on
with a closing bracket (`readFrom_of_spells`), because no name runs on into what follows it and no
name looks like the beginning of another production (`readFrom_eq_readNamed`).  The text of a type
that is built from proper names (`TypeExpr.Writable`) spells it, up to the other name of the empty
interface (`TypeExpr.normal`).  Main statements: `read_of_spells`, `read_text`.
-/

namespace AnnotatedApi.TypeExpr

open Text

/-! ### Types that can be written -/

/-- A non-empty run of letters, digits, `_` and `-`. -/
def IsName (name : String) : Prop :=
  name ≠ "" ∧ ∀ c ∈ name.toList, isNameChar c = true

theorem isName_of_all {name : String} (hne : name ≠ "") (hall : name.toList.all isNameChar = true) :
    IsName name :=
  ⟨hne, List.all_eq_true.mp hall⟩

/-- The type consists of proper names, pointers, slices, maps and empty interfaces, and no package is
named like the empty interface. -/
inductive Writable : TypeExpr → Prop
  | ident {name : String} : IsName name → Writable (.ident name)
  | qualified {package name : String} : IsName package → package ≠ "any" → IsName name →
      Writable (.qualified package name)
  | pointer {target : TypeExpr} : Writable target → Writable (.pointer target)
  | slice {element : TypeExpr} : Writable element → Writable (.slice element)
  | map {key value : TypeExpr} : Writable key → Writable value → Writable (.map key value)
  | interface : Writable .interface

/-- The type with the empty interface in place of its other spelling. -/
def normal : TypeExpr → TypeExpr
  | .ident name => if name = "any" then .interface else .ident name
  | .pointer target => .pointer target.normal
  | .slice element => .slice element.normal
  | .map key value => .map key.normal value.normal
  | e => e

/-! ### Spellings -/

/-- The characters spell the type, by the productions of the grammar. The length of a slice and the
name of the empty interface leave no trace in the type. -/
inductive Spells : TypeExpr → List Char → Prop
  | ident {name : String} : IsName name → name ≠ "any" → Spells (.ident name) name.toList
  | qualified {package name : String} : IsName package → package ≠ "any" → IsName name →
      Spells (.qualified package name) (package.toList ++ '.' :: name.toList)
  | pointer {target : TypeExpr} {cs : List Char} : Spells target cs →
      Spells (.pointer target) ('*' :: cs)
  | slice {element : TypeExpr} {length cs : List Char} : (∀ c ∈ length, isLengthChar c = true) →
      Spells element cs → Spells (.slice element) ('[' :: (length ++ ']' :: cs))
  | map {key value : TypeExpr} {keyChars valueChars : List Char} : Spells key keyChars →
      Spells value valueChars →
      Spells (.map key value) ('m' :: 'a' :: 'p' :: '[' :: (keyChars ++ ']' :: valueChars))
  | interface : Spells .interface "interface\x7b\x7d".toList
  | any : Spells .interface "any".toList

/-- The text of a writable type spells the type in its normal form. -/
theorem Writable.spells {e : TypeExpr} (he : e.Writable) : e.normal.Spells e.text.toList := by
  induction he with
  | @ident name h =>
    rw [normal, text]
    by_cases hany : name = "any"
    · rw [if_pos hany, hany]
      exact .any
    · rw [if_neg hany]
      exact .ident h hany
  | qualified hpackage hany h => simpa [text, normal] using Spells.qualified hpackage hany h
  | pointer _ ih => simpa [text, normal] using ih.pointer
  | slice _ ih => simpa [text, normal] using ih.slice (List.forall_mem_nil _)
  | map _ _ ihKey ihValue => simpa [text, normal] using ihKey.map ihValue
  | interface => exact .interface

theorem isBlank_of_isNameChar {c : Char} (h : isNameChar c = true) : isBlank c = false :=
  isBlank_eq_false_of (by decide +kernel) h

theorem isBlank_of_isLengthChar {c : Char} (h : isLengthChar c = true) : isBlank c = false :=
  isBlank_eq_false_of (by decide +kernel) h

theorem isBlank_of_all {cs : List Char} (h : cs.all (!isBlank ·) = true) :
    ∀ c ∈ cs, isBlank c = false := by
  simpa using h

/-- A spelling has no blanks. -/
theorem Spells.isBlank_of_mem {e : TypeExpr} {cs : List Char} (h : e.Spells cs) :
    ∀ c ∈ cs, isBlank c = false := by
  have hname : ∀ {name : String}, IsName name → ∀ c ∈ name.toList, isBlank c = false :=
    fun h c hc => isBlank_of_isNameChar (h.2 c hc)
  induction h with
  | ident h _ => exact hname h
  | qualified hpackage _ h =>
    simp only [List.forall_mem_append, List.forall_mem_cons]
    exact ⟨hname hpackage, by decide, hname h⟩
  | pointer _ ih =>
    simp only [List.forall_mem_cons]
    exact ⟨by decide, ih⟩
  | slice hlength _ ih =>
    simp only [List.forall_mem_append, List.forall_mem_cons]
    exact ⟨by decide, fun c hc => isBlank_of_isLengthChar (hlength c hc), by decide, ih⟩
  | map _ _ ihKey ihValue =>
    simp only [List.forall_mem_append, List.forall_mem_cons]
    exact ⟨by decide, by decide, by decide, by decide, ihKey, by decide, ihValue⟩
  | interface => exact isBlank_of_all (by decide)
  | any => exact isBlank_of_all (by decide)

/-! ### Reading names -/

/-- A name in front of what does not go on with it. -/
theorem takeWhile_name {name : String} (h : IsName name) {tail : List Char}
    (htail : ∀ c rest, tail = c :: rest → isNameChar c = false) :
    (name.toList ++ tail).takeWhile isNameChar = name.toList ∧
      (name.toList ++ tail).dropWhile isNameChar = tail := by
  rw [List.takeWhile_append_of_pos h.2, List.dropWhile_append_of_pos h.2]
  cases tail with
  | nil => simp
  | cons c rest =>
    have hc : ¬ isNameChar c = true := by simp [htail c rest rfl]
    rw [List.takeWhile_cons_of_neg hc, List.dropWhile_cons_of_neg hc]
    simp

/-- Only a name starts with a name character and does not go on with an opening bracket or brace. -/
theorem readFrom_eq_readNamed (whole : String) (fuel : Nat) {cs : List Char}
    (hhead : cs.takeWhile isNameChar ≠ [])
    (htail : ∀ c rest, cs.dropWhile isNameChar = c :: rest → c ≠ '[' ∧ c ≠ '\x7b') :
    readFrom whole (fuel + 1) cs = readNamed whole cs := by
  -- What another production starts with has no name in front, or goes on in the wrong way.
  have hafter : ∀ (name : String) (c : Char) (rest : List Char),
      name.toList.all isNameChar = true → isNameChar c = false →
      cs = name.toList ++ c :: rest → name ≠ "" ∧ c ≠ '[' ∧ c ≠ '\x7b' := by
    rintro name c rest hall hc rfl
    have hname := List.all_eq_true.mp hall
    rw [List.takeWhile_append_of_pos hname, List.takeWhile_cons_of_neg (by simp [hc]),
      List.append_nil] at hhead
    refine ⟨by simpa using hhead, htail c rest ?_⟩
    rw [List.dropWhile_append_of_pos hname, List.dropWhile_cons_of_neg (by simp [hc])]
  have hstar : ∀ rest, cs = '*' :: rest → False := fun rest hcs =>
    (hafter "" '*' rest (by simp) (by decide +kernel) hcs).1 rfl
  have hbracket : ∀ rest, cs = '[' :: rest → False := fun rest hcs =>
    (hafter "" '[' rest (by simp) (by decide +kernel) hcs).1 rfl
  have hmap : ∀ rest, cs = 'm' :: 'a' :: 'p' :: '[' :: rest → False := fun rest hcs =>
    (hafter "map" '[' rest (by decide +kernel) (by decide +kernel) hcs).2.1 rfl
  have hinterface : afterStart? "interface\x7b\x7d".toList cs = none := by
    cases h : afterStart? "interface\x7b\x7d".toList cs with
    | none => rfl
    | some rest =>
      have hcs := eq_append_of_afterStart? h
      exact absurd rfl
        (hafter "interface" '\x7b' ('\x7d' :: rest) (by decide +kernel) (by decide +kernel) hcs).2.2
  rw [readFrom, hinterface]
  · exact hstar
  · exact hbracket
  · exact hmap

/-- Nothing follows, or a closing bracket does. -/
def IsEnd (tail : List Char) : Prop :=
  ∀ c rest, tail = c :: rest → c = ']'

theorem isEnd_bracket (rest : List Char) : IsEnd (']' :: rest) :=
  fun _ _ hcons => (List.cons.inj hcons).1.symm

theorem IsEnd.isNameChar {tail : List Char} (h : IsEnd tail) (c : Char) (rest : List Char)
    (hcons : tail = c :: rest) : isNameChar c = false := by
  rw [h c rest hcons]
  decide +kernel

theorem isNameChar_of_dot (tail : List Char) (c : Char) (rest : List Char)
    (hcons : '.' :: tail = c :: rest) : isNameChar c = false := by
  rw [← (List.cons.inj hcons).1]
  decide +kernel

theorem toList_beq_any (name : String) :
    (name.toList == ['a', 'n', 'y']) = decide (name = "any") := by
  rw [Bool.eq_iff_iff, beq_iff_eq, decide_eq_true_eq, ← String.toList_inj]
  rfl

theorem readFrom_ident (whole : String) (fuel : Nat) {name : String} (h : IsName name)
    {tail : List Char} (htail : IsEnd tail) :
    readFrom whole (fuel + 1) (name.toList ++ tail) = ((ident name).normal, tail) := by
  obtain ⟨htake, hdrop⟩ := takeWhile_name h htail.isNameChar
  rw [readFrom_eq_readNamed whole fuel (by simpa [htake] using h.1)]
  · have hne : name.toList.isEmpty = false := by simpa using h.1
    rw [readNamed, htake, hdrop, hne, toList_beq_any, normal]
    by_cases hany : name = "any"
    · simp [hany]
    · cases tail with
      | nil => simp [hany]
      | cons c rest =>
        obtain rfl := htail c rest rfl
        simp [hany]
  · intro c rest hcons
    rw [htail c rest (hdrop ▸ hcons)]
    decide

theorem readFrom_qualified (whole : String) (fuel : Nat) {package name : String}
    (hpackage : IsName package) (hany : package ≠ "any") (h : IsName name) {tail : List Char}
    (htail : IsEnd tail) :
    readFrom whole (fuel + 1) (package.toList ++ '.' :: (name.toList ++ tail)) =
      (qualified package name, tail) := by
  obtain ⟨htakePackage, hdropPackage⟩ :=
    takeWhile_name hpackage (isNameChar_of_dot (name.toList ++ tail))
  rw [readFrom_eq_readNamed whole fuel (by simpa [htakePackage] using hpackage.1)]
  · obtain ⟨htake, hdrop⟩ := takeWhile_name h htail.isNameChar
    have hnePackage : package.toList.isEmpty = false := by simpa using hpackage.1
    rw [readNamed, htakePackage, hdropPackage, hnePackage, toList_beq_any]
    simp [hany, htake, hdrop, h.1]
  · intro c rest hcons
    rw [hdropPackage] at hcons
    rw [← (List.cons.inj hcons).1]
    decide

/-! ### Reading types -/

theorem dropWhile_length {length : List Char} (h : ∀ c ∈ length, isLengthChar c = true)
    (tail : List Char) : (length ++ ']' :: tail).dropWhile isLengthChar = ']' :: tail := by
  rw [List.dropWhile_append_of_pos h, List.dropWhile_cons_of_neg (by decide)]

/-- The reader takes a spelling off the front. Each production uses up some of the text, so its
length is enough fuel. -/
theorem readFrom_of_spells (whole : String) {e : TypeExpr} {cs : List Char} (h : e.Spells cs)
    {fuel : Nat} (hfuel : cs.length ≤ fuel) {tail : List Char} (htail : IsEnd tail) :
    readFrom whole fuel (cs ++ tail) = (e, tail) := by
  induction h generalizing fuel tail with
  | @ident name hname hany =>
    have hlength : 0 < name.toList.length := by
      rw [List.length_pos_iff]
      simpa using hname.1
    obtain ⟨fuel, rfl⟩ : ∃ n, fuel = n + 1 := ⟨fuel - 1, by omega⟩
    rw [readFrom_ident whole fuel hname htail, normal, if_neg hany]
  | @qualified package name hpackage hany hname =>
    rw [List.length_append, List.length_cons] at hfuel
    obtain ⟨fuel, rfl⟩ : ∃ n, fuel = n + 1 := ⟨fuel - 1, by omega⟩
    rw [List.append_assoc, List.cons_append,
      readFrom_qualified whole fuel hpackage hany hname htail]
  | @pointer target cs _ ih =>
    rw [List.length_cons] at hfuel
    obtain ⟨fuel, rfl⟩ : ∃ n, fuel = n + 1 := ⟨fuel - 1, by omega⟩
    rw [List.cons_append, readFrom, ih (by omega) htail]
  | @slice element length cs hlength _ ih =>
    simp only [List.length_cons, List.length_append] at hfuel
    obtain ⟨fuel, rfl⟩ : ∃ n, fuel = n + 1 := ⟨fuel - 1, by omega⟩
    have hread : readFrom whole fuel (cs ++ tail) = (element, tail) := ih (by omega) htail
    simp only [List.cons_append, List.append_assoc]
    rw [readFrom, dropWhile_length hlength]
    simp only [hread]
  | @map key value keyChars valueChars _ _ ihKey ihValue =>
    simp only [List.length_cons, List.length_append] at hfuel
    obtain ⟨fuel, rfl⟩ : ∃ n, fuel = n + 1 := ⟨fuel - 1, by omega⟩
    -- The key ends at the bracket that closes it, whatever stands behind that.
    have hkey : readFrom whole fuel (keyChars ++ ']' :: (valueChars ++ tail)) =
        (key, ']' :: (valueChars ++ tail)) := ihKey (by omega) (isEnd_bracket _)
    have hvalue : readFrom whole fuel (valueChars ++ tail) = (value, tail) :=
      ihValue (by omega) htail
    simp only [List.cons_append, List.append_assoc]
    rw [readFrom, hkey]
    simp only [hvalue]
  | interface =>
    have hlength : "interface\x7b\x7d".toList.length = 11 := by decide
    obtain ⟨fuel, rfl⟩ : ∃ n, fuel = n + 1 := ⟨fuel - 1, by omega⟩
    rw [readFrom, afterStart?_append]
    all_goals simp
  | any =>
    have hlength : "any".toList.length = 3 := by decide
    obtain ⟨fuel, rfl⟩ : ∃ n, fuel = n + 1 := ⟨fuel - 1, by omega⟩
    rw [readFrom_ident whole fuel (isName_of_all (by decide) (by decide)) htail]
    rfl

/-- The fuel that a text is read with is more than its length. -/
theorem length_lt_fuel (text : String) :
    (trim text).toList.length < (trim text).length + 1 := by
  rw [String.length_toList]
  exact Nat.lt_succ_self _

/-- **A text that spells a type is read as that type.** -/
theorem read_of_spells {text : String} {e : TypeExpr} (h : e.Spells (trim text).toList) :
    read text = e := by
  have hend : IsEnd [] := fun c rest hcons => absurd hcons (by simp)
  have hread := readFrom_of_spells (trim text) h (length_lt_fuel text).le hend
  rw [List.append_nil] at hread
  rw [read, hread]
  rfl

/-- **A written type is read back**, with the empty interface in place of its other name. -/
theorem read_text {e : TypeExpr} (he : e.Writable) : read e.text = e.normal := by
  refine read_of_spells ?_
  rw [trim_of_forall he.spells.isBlank_of_mem]
  exact he.spells

end AnnotatedApi.TypeExpr
