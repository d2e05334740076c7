import AnnotatedApi.Proofs.TypeExpr

/-!
What the reader makes of any text.

At the front of a text either stands a spelling of a type, or the text breaks off
(`TypeExpr.BreaksOff`): it opens types one inside another up to a place where the reader is stuck
(`TypeExpr.Stuck`).  `readFrom_outcome` shows that there is no third case.  For whole texts it gives

* `read_cases` — a text spells the type it is read as, breaks off, or is unsupported as a whole;
* `read_of_breaksOff` — a text that breaks off is read as the types it opens;
* `read_eq_iff_spells` — the types without unsupported parts are read from their spellings only.

Main statement: `reading_inverts_writing`.
-/

namespace AnnotatedApi.TypeExpr

open Text

/-! ### Texts that break off -/

/-- The reader is stuck at the front of the characters: no production starts with the first of them,
the length of a slice or the key of a map does not go on to its closing bracket, or no name follows
the dot behind a package. -/
inductive Stuck : List Char → Prop
  | start {cs : List Char} :
      (∀ c rest, cs = c :: rest → isNameChar c = false ∧ c ≠ '*' ∧ c ≠ '[') → Stuck cs
  | length {rest : List Char} :
      (∀ length after, (∀ c ∈ length, isLengthChar c = true) → rest ≠ length ++ ']' :: after) →
      Stuck ('[' :: rest)
  | key {rest : List Char} :
      (∀ (key : TypeExpr) (keyChars after : List Char), key.Spells keyChars →
        rest ≠ keyChars ++ ']' :: after) →
      Stuck ('m' :: 'a' :: 'p' :: '[' :: rest)
  | member {package : String} {rest : List Char} : IsName package → package ≠ "any" →
      (∀ c after, rest = c :: after → isNameChar c = false) → Stuck (package.toList ++ '.' :: rest)

/-- The characters open pointers, slices and maps one inside another, and the reader is stuck behind
them. The type is made of these, with the unsupported text `whole` inside. -/
inductive BreaksOff (whole : String) : TypeExpr → List Char → Prop
  | stuck {cs : List Char} : Stuck cs → BreaksOff whole (.unsupported whole) cs
  | pointer {target : TypeExpr} {cs : List Char} : BreaksOff whole target cs →
      BreaksOff whole (.pointer target) ('*' :: cs)
  | slice {element : TypeExpr} {length cs : List Char} : (∀ c ∈ length, isLengthChar c = true) →
      BreaksOff whole element cs → BreaksOff whole (.slice element) ('[' :: (length ++ ']' :: cs))
  | map {key value : TypeExpr} {keyChars cs : List Char} : key.Spells keyChars →
      BreaksOff whole value cs →
      BreaksOff whole (.map key value) ('m' :: 'a' :: 'p' :: '[' :: (keyChars ++ ']' :: cs))

/-! ### The front of a text -/

/-- What the reader makes of characters: the type and what is left of them. -/
inductive Outcome (whole : String) (cs : List Char) : TypeExpr × List Char → Prop
  | taken {e : TypeExpr} {front rest : List Char} : e.Spells front → cs = front ++ rest →
      Outcome whole cs (e, rest)
  | brokenOff {e : TypeExpr} : BreaksOff whole e cs → Outcome whole cs (e, [])

theorem isName_takeWhile {cs : List Char} (h : cs.takeWhile isNameChar ≠ []) :
    IsName (.ofList (cs.takeWhile isNameChar)) := by
  refine ⟨by simpa using h, fun c hc => ?_⟩
  rw [String.toList_ofList] at hc
  exact List.all_eq_true.mp List.all_takeWhile c hc

theorem isNameChar_of_takeWhile_eq_nil {cs : List Char} (h : cs.takeWhile isNameChar = [])
    (c : Char) (rest : List Char) (hcons : cs = c :: rest) : isNameChar c = false := by
  by_contra hc
  rw [hcons, List.takeWhile_cons_of_pos (by simpa using hc)] at h
  exact absurd h (by simp)

theorem readNamed_outcome (whole : String) {cs : List Char} (hstar : ∀ rest, cs ≠ '*' :: rest)
    (hbracket : ∀ rest, cs ≠ '[' :: rest) : Outcome whole cs (readNamed whole cs) := by
  have hsplit : cs = cs.takeWhile isNameChar ++ cs.dropWhile isNameChar :=
    (List.takeWhile_append_dropWhile).symm
  rw [readNamed]
  dsimp only
  by_cases hfirst : cs.takeWhile isNameChar = []
  · -- No name stands at the front, and neither does an opening character.
    rw [if_pos (by simp [hfirst])]
    exact .brokenOff (.stuck (.start fun c rest hcons =>
      ⟨isNameChar_of_takeWhile_eq_nil hfirst c rest hcons, fun hc => hstar rest (hc ▸ hcons),
        fun hc => hbracket rest (hc ▸ hcons)⟩))
  rw [if_neg (by simpa using hfirst)]
  by_cases hany : cs.takeWhile isNameChar = ['a', 'n', 'y']
  · rw [if_pos (by simp [hany])]
    rw [hany] at hsplit
    exact .taken .any hsplit
  rw [if_neg (by simpa using hany)]
  have hname : IsName (.ofList (cs.takeWhile isNameChar)) := isName_takeWhile hfirst
  have hneAny : String.ofList (cs.takeWhile isNameChar) ≠ "any" := by
    rw [← String.toList_inj.ne, String.toList_ofList]
    exact hany
  split
  · next rest hdot =>
    have hcs : cs = (String.ofList (cs.takeWhile isNameChar)).toList ++ '.' :: rest := by
      rw [String.toList_ofList, ← hdot]
      exact hsplit
    by_cases hsecond : rest.takeWhile isNameChar = []
    · rw [if_pos (by simp [hsecond]), hcs]
      exact .brokenOff
        (.stuck (.member hname hneAny (isNameChar_of_takeWhile_eq_nil hsecond)))
    · rw [if_neg (by simpa using hsecond)]
      refine .taken (.qualified hname hneAny (isName_takeWhile hsecond)) ?_
      rw [List.append_assoc, List.cons_append, String.toList_ofList (l := rest.takeWhile isNameChar),
        List.takeWhile_append_dropWhile]
      exact hcs
  · refine .taken (.ident hname hneAny) ?_
    rw [String.toList_ofList]
    exact hsplit

/-- The reader takes a spelling off the front, or the characters break off. -/
theorem readFrom_outcome (whole : String) {fuel : Nat} {cs : List Char} (hfuel : cs.length < fuel) :
    Outcome whole cs (readFrom whole fuel cs) := by
  -- Every step takes at least one character and lowers the fuel by one, which never runs out.
  fun_induction readFrom whole fuel cs with
  | case1 cs => exact absurd hfuel (Nat.not_lt_zero _)
  | case2 fuel rest target left hread ih =>
    rw [hread] at ih
    cases ih (by simpa using hfuel) with
    | taken hspells hrest => exact .taken hspells.pointer (by rw [hrest, List.cons_append])
    | brokenOff hbroken => exact .brokenOff hbroken.pointer
  | case3 fuel rest inner hclosed element left hread ih =>
    have hrest : rest = rest.takeWhile isLengthChar ++ ']' :: inner := by
      rw [← hclosed, List.takeWhile_append_dropWhile]
    have hlength : ∀ c ∈ rest.takeWhile isLengthChar, isLengthChar c = true :=
      List.all_eq_true.mp List.all_takeWhile
    have hinner : inner.length < fuel := by
      have := congrArg List.length hrest
      simp only [List.length_append, List.length_cons] at this hfuel
      omega
    rw [hread] at ih
    rw [hrest]
    cases ih hinner with
    | taken hspells hfront => exact .taken (hspells.slice hlength) (by simp [hfront])
    | brokenOff hbroken => exact .brokenOff (hbroken.slice hlength)
  | case4 fuel rest hopen =>
    refine .brokenOff (.stuck (.length fun length after hlength hrest => ?_))
    exact hopen after (hrest ▸ dropWhile_length hlength after)
  | case5 fuel rest key inner value left hread hkey ihKey ihValue =>
    rw [hkey] at ihKey
    rw [hread] at ihValue
    simp only [List.length_cons] at hfuel
    cases ihKey (by omega) with
    | taken hspellsKey hrest =>
      have hinner : inner.length < fuel := by
        have := congrArg List.length hrest
        simp only [List.length_append, List.length_cons] at this
        omega
      rw [hrest]
      cases ihValue hinner with
      | taken hspells hfront => exact .taken (hspellsKey.map hspells) (by simp [hfront])
      | brokenOff hbroken => exact .brokenOff (hbroken.map hspellsKey)
  | case6 fuel rest key left hread hopen ih =>
    -- Where a key and its bracket stand, the reader would have taken the key.
    refine .brokenOff (.stuck (.key fun key' keyChars after hspells hrest => ?_))
    have hlength : keyChars.length ≤ fuel := by
      simp only [hrest, List.length_cons, List.length_append] at hfuel
      omega
    rw [hrest, readFrom_of_spells whole hspells hlength (isEnd_bracket after)] at hread
    exact hopen after (Prod.mk.inj hread).2.symm
  | case7 fuel cs hstar hbracket hmap rest hafter =>
    exact .taken .interface (eq_append_of_afterStart? hafter)
  | case8 fuel cs hstar hbracket hmap hafter => exact readNamed_outcome whole hstar hbracket

/-! ### Characters that break off -/

theorem readFrom_of_stuck (whole : String) {cs : List Char} (h : Stuck cs) {fuel : Nat}
    (hfuel : cs.length < fuel) : readFrom whole fuel cs = (.unsupported whole, []) := by
  obtain ⟨fuel, rfl⟩ : ∃ n, fuel = n + 1 := ⟨fuel - 1, by omega⟩
  cases h with
  | start hstart =>
    cases cs with
    | nil => rfl
    | cons c rest =>
      obtain ⟨hc, hstar, hbracket⟩ := hstart c rest rfl
      -- Maps and interfaces start like names.
      have hne : ∀ d, isNameChar d = true → c ≠ d := by
        rintro d hd rfl
        simp [hd] at hc
      have hm : c ≠ 'm' := hne 'm' (by decide +kernel)
      have hi : c ≠ 'i' := hne 'i' (by decide +kernel)
      have hlist : "interface\x7b\x7d".toList = 'i' :: "nterface\x7b\x7d".toList := by decide
      have hafter : afterStart? "interface\x7b\x7d".toList (c :: rest) = none := by
        rw [hlist, afterStart?, if_neg (by simpa using hi.symm)]
      rw [readFrom, hafter]
      · simp [readNamed, hc]
      all_goals simp [hstar, hbracket, hm]
  | @length rest hopen =>
    have hnone : ∀ after, rest.dropWhile isLengthChar ≠ ']' :: after := fun after hclosed =>
      hopen _ after (List.all_eq_true.mp List.all_takeWhile) (by
        rw [← hclosed, List.takeWhile_append_dropWhile])
    rw [readFrom]
    split
    · next after hclosed => exact absurd hclosed (hnone after)
    · rfl
  | @key rest hopen =>
    have hrest : rest.length < fuel := by
      simp only [List.length_cons] at hfuel
      omega
    have houtcome : Outcome whole rest (readFrom whole fuel rest) := readFrom_outcome whole hrest
    rw [readFrom]
    generalize readFrom whole fuel rest = result at houtcome
    cases houtcome with
    | @taken key keyChars left hspells hrest =>
      dsimp only
      split
      · next left after => exact absurd hrest (hopen key keyChars after hspells)
      · rfl
    | brokenOff hbroken => rfl
  | @member package rest hpackage hany hend =>
    obtain ⟨htake, hdrop⟩ := takeWhile_name hpackage (isNameChar_of_dot rest)
    rw [readFrom_eq_readNamed whole fuel (by simpa [htake] using hpackage.1)]
    · have hne : package.toList.isEmpty = false := by simpa using hpackage.1
      have hnone : rest.takeWhile isNameChar = [] := by
        cases rest with
        | nil => rfl
        | cons c after => exact List.takeWhile_cons_of_neg (by simp [hend c after rfl])
      rw [readNamed, htake, hdrop, hne, toList_beq_any]
      simp [hany, hnone]
    · intro c after hcons
      rw [hdrop] at hcons
      rw [← (List.cons.inj hcons).1]
      decide

/-- Characters that break off are read as the types they open. -/
theorem readFrom_of_breaksOff {whole : String} {e : TypeExpr} {cs : List Char}
    (h : BreaksOff whole e cs) {fuel : Nat} (hfuel : cs.length < fuel) :
    readFrom whole fuel cs = (e, []) := by
  induction h generalizing fuel with
  | stuck hstuck => exact readFrom_of_stuck whole hstuck hfuel
  | pointer _ ih =>
    obtain ⟨fuel, rfl⟩ : ∃ n, fuel = n + 1 := ⟨fuel - 1, by omega⟩
    rw [readFrom, ih (by simpa using hfuel)]
  | @slice element length cs hlength _ ih =>
    obtain ⟨fuel, rfl⟩ : ∃ n, fuel = n + 1 := ⟨fuel - 1, by omega⟩
    simp only [List.length_cons, List.length_append] at hfuel
    have hread : readFrom whole fuel cs = (element, []) := ih (by omega)
    rw [readFrom, dropWhile_length hlength]
    simp only [hread]
  | @map key value keyChars cs hspells _ ih =>
    obtain ⟨fuel, rfl⟩ : ∃ n, fuel = n + 1 := ⟨fuel - 1, by omega⟩
    simp only [List.length_cons, List.length_append] at hfuel
    have hread : readFrom whole fuel cs = (value, []) := ih (by omega)
    rw [readFrom, readFrom_of_spells whole hspells (by omega) (isEnd_bracket cs)]
    simp only [hread]

/-! ### Whole texts -/

/-- No part of the type is unsupported. Inline structs, which no text is read as, are not looked
into. -/
inductive IsSupported : TypeExpr → Prop
  | ident (name : String) : IsSupported (.ident name)
  | qualified (package name : String) : IsSupported (.qualified package name)
  | pointer {target : TypeExpr} : IsSupported target → IsSupported (.pointer target)
  | slice {element : TypeExpr} : IsSupported element → IsSupported (.slice element)
  | map {key value : TypeExpr} : IsSupported key → IsSupported value → IsSupported (.map key value)
  | struct (fields : List Field) : IsSupported (.struct fields)
  | interface : IsSupported .interface

theorem Spells.isSupported {e : TypeExpr} {cs : List Char} (h : e.Spells cs) : e.IsSupported := by
  induction h with
  | @ident name _ _ => exact .ident name
  | @qualified package name _ _ _ => exact .qualified package name
  | pointer _ ih => exact ih.pointer
  | slice _ _ ih => exact ih.slice
  | map _ _ ihKey ihValue => exact ihKey.map ihValue
  | interface => exact .interface
  | any => exact .interface

theorem BreaksOff.not_isSupported {whole : String} {e : TypeExpr} {cs : List Char}
    (h : BreaksOff whole e cs) : ¬ e.IsSupported := by
  induction h with
  | stuck _ => nofun
  | pointer _ ih => exact fun | .pointer htarget => ih htarget
  | slice _ _ ih => exact fun | .slice helement => ih helement
  | map _ _ ih => exact fun | .map _ hvalue => ih hvalue

theorem read_of_breaksOff {text : String} {e : TypeExpr}
    (h : BreaksOff (trim text) e (trim text).toList) : read text = e := by
  rw [read, readFrom_of_breaksOff h (length_lt_fuel text)]
  rfl

/-- A text spells the type it is read as, breaks off, or is unsupported as a whole. -/
theorem read_cases (text : String) :
    (read text).Spells (trim text).toList ∨
      BreaksOff (trim text) (read text) (trim text).toList ∨
      read text = .unsupported (trim text) := by
  have houtcome := readFrom_outcome (trim text) (length_lt_fuel text)
  rw [read]
  generalize readFrom (trim text) ((trim text).length + 1) (trim text).toList = result at houtcome
  cases houtcome with
  | @taken e front rest hspells htext =>
    cases rest with
    | nil =>
      rw [htext, List.append_nil]
      exact .inl hspells
    | cons c rest => exact .inr (.inr rfl)
  | brokenOff hbroken => exact .inr (.inl hbroken)

/-- A type without unsupported parts is read from its spellings only. -/
theorem read_eq_iff_spells {e : TypeExpr} (he : e.IsSupported) (text : String) :
    read text = e ↔ e.Spells (trim text).toList := by
  refine ⟨fun hread => ?_, read_of_spells⟩
  have hcases := read_cases text
  rw [hread] at hcases
  rcases hcases with hspells | hbroken | rfl
  · exact hspells
  · exact absurd he hbroken.not_isSupported
  · nomatch he

/-! ### Reading and writing -/

/-- No name in the type is the other name of the empty interface. -/
def AvoidsAny : TypeExpr → Prop
  | .ident name => name ≠ "any"
  | .pointer target => target.AvoidsAny
  | .slice element => element.AvoidsAny
  | .map key value => key.AvoidsAny ∧ value.AvoidsAny
  | _ => True

theorem normal_of_avoidsAny {e : TypeExpr} (he : e.Writable) (h : e.AvoidsAny) : e.normal = e := by
  induction he with
  | ident _ => exact if_neg h
  | qualified _ _ _ => rfl
  | pointer _ ih => rw [normal, ih h]
  | slice _ ih => rw [normal, ih h]
  | map _ _ ihKey ihValue => rw [normal, ihKey h.1, ihValue h.2]
  | interface => rfl

/-- The text of a type that can be spelled spells it, too. -/
theorem Spells.text {e : TypeExpr} {cs : List Char} (h : e.Spells cs) :
    e.Spells e.text.toList := by
  induction h with
  | ident hname hany => exact .ident hname hany
  | qualified hpackage hany hname =>
    simpa [TypeExpr.text] using Spells.qualified hpackage hany hname
  | pointer _ ih => simpa [TypeExpr.text] using ih.pointer
  | slice _ _ ih => simpa [TypeExpr.text] using ih.slice (List.forall_mem_nil _)
  | map _ _ ihKey ihValue => simpa [TypeExpr.text] using ihKey.map ihValue
  | interface => exact .interface
  | any => exact .interface

/-- **Reading inverts writing, and writing inverts reading up to spelling.**  A type of proper names
is read back from its text, also between blanks.  A text without unsupported parts is read as a type
whose text is read as the same type.  It is a spelling of that type between blanks, so the length of a
slice, the other name of the empty interface and the blanks are all that is lost. -/
theorem reading_inverts_writing :
    (∀ e : TypeExpr, e.Writable → e.AvoidsAny → ∀ before after : String,
      (∀ c ∈ before.toList, isBlank c = true) → (∀ c ∈ after.toList, isBlank c = true) →
      read (before ++ e.text ++ after) = e) ∧
    (∀ text : String, (read text).IsSupported → read (read text).text = read text) ∧
    ∀ (text : String) (e : TypeExpr), e.IsSupported →
      (read text = e ↔ e.Spells (trim text).toList) := by
  have hback : ∀ {e : TypeExpr} {text : String}, e.Spells e.text.toList →
      trim text = trim e.text → read text = e := by
    intro e text hspells htrim
    refine read_of_spells ?_
    rw [htrim, trim_of_forall hspells.isBlank_of_mem]
    exact hspells
  refine ⟨fun e he hany before after hbefore hafter => ?_, fun text h => ?_,
    fun text e he => read_eq_iff_spells he text⟩
  · have hspells := he.spells
    rw [normal_of_avoidsAny he hany] at hspells
    exact hback hspells (trim_append_blanks hbefore hafter e.text)
  · exact hback ((read_eq_iff_spells h text).mp rfl).text rfl

/-- A map whose names look like keywords, between blanks, and a slice of a given length. -/
theorem names_like_keywords_are_read_back :
    let e : TypeExpr := .map (.ident "map") (.pointer (.qualified "interface" "any"))
    let list : TypeExpr := .slice .interface
    e.Writable ∧ e.AvoidsAny ∧ e.text = "map[map]*interface.any" ∧
    (∀ c ∈ "\t ".toList, isBlank c = true) ∧ (∀ c ∈ "\n".toList, isBlank c = true) ∧
    read ("\t " ++ e.text ++ "\n") = e ∧
    (read " [4]any").IsSupported ∧ read (read " [4]any").text = read " [4]any" ∧
    list.IsSupported ∧ read " [4]any" = list ∧ list.Spells (trim " [4]any").toList := by
  intro e list
  have hname : ∀ name ∈ ["map", "interface", "any"], IsName name := by
    simp only [List.mem_cons, List.not_mem_nil, or_false]
    rintro name (rfl | rfl | rfl) <;> exact isName_of_all (by decide) (by decide)
  have hwritable : e.Writable :=
    .map (.ident (hname _ (by simp)))
      (.pointer (.qualified (hname _ (by simp)) (by decide) (hname _ (by simp))))
  have havoids : e.AvoidsAny := ⟨show "map" ≠ "any" by decide, trivial⟩
  have hbefore : ∀ c ∈ "\t ".toList, isBlank c = true := List.all_eq_true.mp (by decide)
  have hafter : ∀ c ∈ "\n".toList, isBlank c = true := List.all_eq_true.mp (by decide)
  have hread : read " [4]any" = list := rfl
  have hlist : list.IsSupported := .slice .interface
  have hsupported : (read " [4]any").IsSupported := by
    rw [hread]
    exact hlist
  obtain ⟨hwritten, hagain, hspells⟩ := reading_inverts_writing
  exact ⟨hwritable, havoids, by decide, hbefore, hafter,
    hwritten e hwritable havoids "\t " "\n" hbefore hafter, hsupported,
    hagain " [4]any" hsupported, hlist, hread, (hspells " [4]any" list hlist).mp hread⟩

end AnnotatedApi.TypeExpr
