import AnnotatedApi.Directive.GeneralInfo
import AnnotatedApi.Proofs.Text
import Mathlib.Data.List.TakeWhile

/-!
Patterns of directive lines.

A pattern is a sequence of literal texts and runs of a class of characters.  What it matches is said
without a direction of reading (`Pattern.Matches`), whereas the readers of arguments take as much as
they can.  The two agree where a run cannot give characters back to what follows it
(`Pattern.Sheds`, `matches_seq_run_iff`), and this holds all along the arguments of every directive:
each reader succeeds exactly on what its pattern matches (`accepts_paramLine?` and
the lemmas beside it).
-/

namespace AnnotatedApi

open Text

namespace Directive

/-- A pattern of characters. -/
inductive Pattern where
  /-- These characters. -/
  | literal (chars : List Char)
  /-- One or more characters of a class. -/
  | run (p : Char → Bool)
  /-- Any number of characters of a class. -/
  | many (p : Char → Bool)
  | seq (first second : Pattern)
  | either (left right : Pattern)
  /-- Whatever follows. -/
  | anything

namespace Pattern

/-- What a pattern matches, as a whole. -/
def Matches : Pattern → List Char → Prop
  | .literal chars, cs => cs = chars
  | .run p, cs => cs ≠ [] ∧ ∀ c ∈ cs, p c = true
  | .many p, cs => ∀ c ∈ cs, p c = true
  | .seq first second, cs =>
    ∃ front back, cs = front ++ back ∧ first.Matches front ∧ second.Matches back
  | .either left right, cs => left.Matches cs ∨ right.Matches cs
  | .anything, _ => True

/-- A part that may be absent. -/
def optional (a : Pattern) : Pattern :=
  .either a (.literal [])

variable {p q : Char → Bool} {a b : Pattern} {cs : List Char}

theorem matches_seq_literal_iff {chars : List Char} : (seq (.literal chars) b).Matches cs ↔
    ∃ rest, afterStart? chars cs = some rest ∧ b.Matches rest := by
  constructor
  · rintro ⟨front, back, rfl, rfl, hback⟩
    exact ⟨back, afterStart?_append _ _, hback⟩
  · rintro ⟨rest, hrest, hmatch⟩
    exact ⟨chars, rest, eq_append_of_afterStart? hrest, rfl, hmatch⟩

theorem matches_seq_either_iff {left right : Pattern} :
    (seq (.either left right) b).Matches cs ↔
      (seq left b).Matches cs ∨ (seq right b).Matches cs := by
  constructor
  · rintro ⟨front, back, hcs, hfront | hfront, hback⟩
    · exact .inl ⟨front, back, hcs, hfront, hback⟩
    · exact .inr ⟨front, back, hcs, hfront, hback⟩
  · rintro (⟨front, back, hcs, hfront, hback⟩ | ⟨front, back, hcs, hfront, hback⟩)
    · exact ⟨front, back, hcs, .inl hfront, hback⟩
    · exact ⟨front, back, hcs, .inr hfront, hback⟩

/-! ### Runs that end where their class ends -/

/-- What the pattern matches, it matches also without characters of the class in front. -/
def Sheds (p : Char → Bool) (b : Pattern) : Prop :=
  ∀ c cs, p c = true → b.Matches (c :: cs) → b.Matches cs

theorem Sheds.dropWhile (hb : b.Sheds p) (h : b.Matches cs) : b.Matches (cs.dropWhile p) := by
  induction cs with
  | nil => exact h
  | cons c rest ih =>
    rw [List.dropWhile_cons]
    split
    · next hc => exact ih (hb c rest hc h)
    · exact h

/-- A run in front of a pattern takes all characters of its class. -/
theorem matches_seq_run_iff (hb : b.Sheds p) :
    (seq (.run p) b).Matches cs ↔ cs.takeWhile p ≠ [] ∧ b.Matches (cs.dropWhile p) := by
  constructor
  · rintro ⟨front, back, rfl, ⟨hne, hfront⟩, hback⟩
    rw [List.takeWhile_append_of_pos hfront, List.dropWhile_append_of_pos hfront]
    exact ⟨by simp [hne], hb.dropWhile hback⟩
  · rintro ⟨hne, hrest⟩
    refine ⟨cs.takeWhile p, cs.dropWhile p, List.takeWhile_append_dropWhile.symm, ⟨hne, ?_⟩, hrest⟩
    exact List.all_eq_true.mp List.all_takeWhile

theorem matches_seq_many_iff (hb : b.Sheds p) :
    (seq (.many p) b).Matches cs ↔ b.Matches (cs.dropWhile p) := by
  constructor
  · rintro ⟨front, back, rfl, hfront, hback⟩
    rw [List.dropWhile_append_of_pos hfront]
    exact hb.dropWhile hback
  · intro hrest
    refine ⟨cs.takeWhile p, cs.dropWhile p, List.takeWhile_append_dropWhile.symm, ?_, hrest⟩
    exact List.all_eq_true.mp List.all_takeWhile

theorem sheds_of_matches (h : ∀ cs, b.Matches cs) : b.Sheds p :=
  fun _ cs _ _ => h cs

/-- A pattern that starts with a run of a class sheds the characters of any other class. -/
theorem sheds_seq_run (h : ∀ c, p c = true → q c = false) : (seq (.run q) b).Sheds p := by
  rintro c cs hc ⟨front, back, hcs, ⟨hne, hfront⟩, -⟩
  cases front with
  | nil => exact absurd rfl hne
  | cons c' front =>
    obtain ⟨rfl, -⟩ := List.cons.inj hcs
    simp [h c hc] at hfront

/-- A pattern that starts with a literal sheds all but the first character of the literal. -/
theorem sheds_seq_literal {start : Char} {rest : List Char} (hstart : p start = false) :
    (seq (.literal (start :: rest)) b).Sheds p := by
  rintro c cs hc ⟨front, back, hcs, rfl, -⟩
  obtain ⟨rfl, -⟩ := List.cons.inj hcs
  simp [hstart] at hc

theorem sheds_seq_either {left right : Pattern} (hleft : (seq left b).Sheds p)
    (hright : (seq right b).Sheds p) : (seq (.either left right) b).Sheds p := by
  intro c cs hc h
  rw [matches_seq_either_iff] at h ⊢
  exact h.imp (hleft c cs hc) (hright c cs hc)

end Pattern

/-! ### Classes of characters -/

theorem isBlank_of_isWordChar {c : Char} (h : isWordChar c = true) : isBlank c = false :=
  isBlank_eq_false_of (by decide +kernel) h

theorem isBlank_of_isDecimalDigit {c : Char} (h : isDecimalDigit c = true) : isBlank c = false :=
  isBlank_eq_false_of (by decide +kernel) h

/-! ### Readers -/

/-- The reader succeeds exactly on what the pattern matches. -/
def Accepts {α : Type} (reader : List Char → Option α) (pattern : Pattern) : Prop :=
  ∀ cs, (reader cs).isSome = true ↔ pattern.Matches cs

namespace Accepts

variable {α β : Type} {b : Pattern}

theorem map {reader : List Char → Option α} (h : Accepts reader b) (f : α → β) :
    Accepts (fun cs => (reader cs).map f) b := by
  intro cs
  rw [Option.isSome_map]
  exact h cs

theorem afterBlanks?_eq (cs : List Char) : afterBlanks? cs =
    if cs.takeWhile isBlank = [] then none else some (cs.dropWhile isBlank) := by
  cases cs with
  | nil => rfl
  | cons c rest => by_cases hc : isBlank c = true <;> simp [afterBlanks?, hc]

/-- Blanks in front of what a reader takes. -/
theorem blanks {reader : List Char → Option β} {k : β → Option α}
    (h : Accepts (fun cs => (reader cs).bind k) b) (hb : b.Sheds isBlank) :
    Accepts (fun cs => ((afterBlanks? cs).bind reader).bind k) (.seq (.run isBlank) b) := by
  intro cs
  rw [Pattern.matches_seq_run_iff hb, ← h]
  dsimp only
  rw [afterBlanks?_eq]
  split
  · next hnil => simp [hnil]
  · next hne => simp [hne]

theorem run {p : Char → Bool} {k : List Char × List Char → Option α}
    (h : ∀ chars, Accepts (fun cs => k (chars, cs)) b) (hb : b.Sheds p) :
    Accepts (fun cs => (run? p cs).bind k) (.seq (.run p) b) := by
  intro cs
  rw [Pattern.matches_seq_run_iff hb, ← h (cs.takeWhile p)]
  simp only [run?, List.isEmpty_iff]
  split
  · next hnil => simp [hnil]
  · next hne => simp [hne]

theorem cutChars_eq {sep : Char} (cs : List Char) : cutChars sep cs =
    match cs.dropWhile (· != sep) with
    | [] => none
    | _ :: rest => some (cs.takeWhile (· != sep), rest) := by
  induction cs with
  | nil => rfl
  | cons c rest ih =>
    by_cases hc : c = sep
    · simp [cutChars, hc]
    · rw [List.dropWhile_cons_of_pos (by simpa using hc),
        List.takeWhile_cons_of_pos (by simpa using hc), cutChars, if_neg (by simpa using hc), ih]
      cases rest.dropWhile (· != sep) <;> rfl

/-- A text without the given character, then that character. -/
theorem upTo {sep : Char} {k : List Char × List Char → Option α}
    (h : ∀ chars, Accepts (fun cs => k (chars, cs)) b) :
    Accepts (fun cs => (cutChars sep cs).bind k)
      (.seq (.many (· != sep)) (.seq (.literal [sep]) b)) := by
  intro cs
  rw [Pattern.matches_seq_many_iff (Pattern.sheds_seq_literal (by simp)),
    Pattern.matches_seq_literal_iff]
  dsimp only
  rw [cutChars_eq]
  cases hrest : cs.dropWhile (· != sep) with
  | nil => simp [afterStart?]
  | cons c rest =>
    -- The text ends at the character that the class leaves out.
    have hc : c = sep := by
      have hhead := List.head_dropWhile_not (· != sep) (l := cs) (by simp [hrest])
      simpa [hrest] using hhead
    subst hc
    simpa [afterStart?] using h (cs.takeWhile (· != c)) rest

theorem literal {chars : List Char} {k : List Char → Option α} (h : Accepts k b) :
    Accepts (fun cs => (afterStart? chars cs).bind k) (.seq (.literal chars) b) := by
  intro cs
  rw [Pattern.matches_seq_literal_iff]
  simp only [← h _]
  cases afterStart? chars cs <;> simp

theorem quoted?_eq (cs : List Char) :
    quoted? cs = (afterStart? ['"'] cs).bind (cutChars '"') := by
  cases cs with
  | nil => rfl
  | cons c rest =>
    by_cases hc : c = '"'
    · subst hc
      rfl
    · have hnot : quoted? (c :: rest) = none := by
        unfold quoted?
        split
        · next heq => exact absurd (List.cons.inj heq).1 hc
        · rfl
      simp [hnot, afterStart?, Ne.symm hc]

theorem quoted {k : List Char × List Char → Option α}
    (h : ∀ chars, Accepts (fun cs => k (chars, cs)) b) :
    Accepts (fun cs => (quoted? cs).bind k)
      (.seq (.literal ['"']) (.seq (.many (· != '"')) (.seq (.literal ['"']) b))) := by
  intro cs
  rw [← literal (upTo h)]
  dsimp only
  rw [quoted?_eq, Option.bind_assoc]

theorem bracketed?_eq (opening closing : Char) (cs : List Char) :
    bracketed? opening closing cs = (afterStart? [opening] cs).bind fun rest =>
      (run? isWordChar rest).bind fun x => (afterStart? [closing] x.2).map (x.1, ·) := by
  cases cs with
  | nil => rfl
  | cons c rest =>
    simp only [bracketed?, afterStart?, beq_iff_eq, eq_comm (a := opening)]
    split
    · rw [Option.bind_some]
      cases run? isWordChar rest with
      | none => rfl
      | some x =>
        obtain ⟨word, rest⟩ := x
        cases rest with
        | nil => rfl
        | cons d rest =>
          simp only [Option.bind_some, afterStart?, beq_iff_eq, eq_comm (a := closing)]
          split <;> simp
    · rfl

theorem bracketed {opening closing : Char} {k : List Char × List Char → Option α}
    (hclosing : isWordChar closing = false) (h : ∀ chars, Accepts (fun cs => k (chars, cs)) b) :
    Accepts (fun cs => (bracketed? opening closing cs).bind k)
      (.seq (.literal [opening]) (.seq (.run isWordChar) (.seq (.literal [closing]) b))) := by
  have hword : Accepts (fun cs => (run? isWordChar cs).bind fun x =>
      (afterStart? [closing] x.2).bind fun rest => k (x.1, rest))
      (.seq (.run isWordChar) (.seq (.literal [closing]) b)) :=
    run (fun chars => literal (h chars)) (Pattern.sheds_seq_literal hclosing)
  intro cs
  rw [← literal hword]
  dsimp only
  rw [bracketed?_eq]
  simp only [Option.bind_assoc, Option.bind_map, Function.comp_def]

theorem truth {k : Bool × List Char → Option α} (h : ∀ value, Accepts (fun cs => k (value, cs)) b) :
    Accepts (fun cs => (truthAt? cs).bind k)
      (.seq (.either (.literal "true".toList) (.literal "false".toList)) b) := by
  intro cs
  rw [Pattern.matches_seq_either_iff, ← literal (h true) cs, ← literal (h false) cs]
  dsimp only
  unfold truthAt?
  -- What starts with one of the words does not start with the other.
  cases htrue : afterStart? "true".toList cs with
  | none =>
    rw [Option.bind_none, Option.bind_map]
    exact (or_iff_right (by simp)).symm
  | some rest =>
    have hfalse : afterStart? "false".toList cs = none := by
      rw [eq_append_of_afterStart? htrue]
      rfl
    rw [hfalse]
    simp

end Accepts

/-! ### What follows the keyword -/

namespace Pattern

/-- The patterns one after another. -/
def sequence : List Pattern → Pattern
  | [] => .literal []
  | [a] => a
  | a :: rest => .seq a (sequence rest)

def blanks : Pattern := .run isBlank
def token : Pattern := .run (!isBlank ·)
def word : Pattern := .run isWordChar
def digits : Pattern := .run isDecimalDigit

/-- The end of the line. -/
def finish : Pattern := .literal []

/-- A text in double quotes. -/
def quotedText : List Pattern := [.literal ['"'], .many (· != '"'), .literal ['"']]

/-- A word in brackets. -/
def inBrackets (opening closing : Char) : List Pattern :=
  [.literal [opening], word, .literal [closing]]

/-- A text that takes up the rest of the line. -/
def textTail : Pattern := sequence [blanks, .run (· != '\n'), finish]

/-- A token that takes up the rest of the line. -/
def tokenTail : Pattern := sequence [blanks, token, finish]

/-- An optional text up to the end of the line. -/
def remark : Pattern := sequence [.many isBlank, .many (· != '\n'), finish]

def tokenAndRemarkTail : Pattern := sequence [blanks, token, remark]

def apiKeyTail : Pattern := sequence [blanks, token, blanks, token, blanks, word, remark]

def paramTail : Pattern := sequence <|
  [blanks, token, blanks, word, blanks, token, blanks,
    .either (.literal "true".toList) (.literal "false".toList), blanks] ++ quotedText ++
  [optional (sequence [blanks, .run (· != '\n')]), .anything]

/-- A status and a word in braces, in front of what else there is. -/
def statusAndWordThen (b : Pattern) : Pattern := sequence <|
  [blanks, digits, blanks] ++ inBrackets '\x7b' '\x7d' ++ [b]

def responseTail : Pattern := statusAndWordThen <| sequence
  [blanks, token, optional (sequence (blanks :: quotedText)), .anything]

def headerTail : Pattern := statusAndWordThen <| sequence <|
  [blanks, token, blanks] ++ quotedText ++ [.anything]

def securityTail : Pattern := sequence
  [blanks, .run fun c => c != '[' && !isBlank c,
    optional (sequence [.literal ['['], .run (· != ']'), .literal [']']]), .anything]

def deprecatedTail : Pattern := sequence [.many isBlank, finish]

def routerTail : Pattern := sequence <|
  [blanks, token, blanks] ++ inBrackets '[' ']' ++ [.anything]

variable {p : Char → Bool} {a b : Pattern} {cs : List Char}

/-- Blanks end where a run without blanks starts. -/
theorem sheds_blanks (hp : ∀ c, p c = true → isBlank c = false) :
    (seq (.run p) b).Sheds isBlank := by
  refine sheds_seq_run fun c hc => ?_
  by_cases hpc : p c = true
  · simp [hp c hpc] at hc
  · simpa using hpc

/-- A run without blanks ends where blanks start. -/
theorem sheds_of_no_blank (hp : ∀ c, p c = true → isBlank c = false) : (seq blanks b).Sheds p :=
  sheds_seq_run hp

theorem sheds_finish : finish.Sheds p :=
  fun _ _ _ h => absurd h (List.cons_ne_nil _ _)

theorem matches_seq_finish_iff : (seq a finish).Matches cs ↔ a.Matches cs := by
  constructor
  · rintro ⟨front, back, rfl, hfront, rfl⟩
    rwa [List.append_nil]
  · intro h
    exact ⟨cs, [], (List.append_nil cs).symm, h, rfl⟩

theorem matches_deprecatedTail_iff : deprecatedTail.Matches cs ↔ ∀ c ∈ cs, isBlank c = true :=
  matches_seq_finish_iff

/-- What may be absent does not matter if anything can follow. -/
theorem matches_optional_anything (a : Pattern) (cs : List Char) :
    (seq (optional a) .anything).Matches cs :=
  ⟨[], cs, rfl, .inr rfl, trivial⟩

theorem matches_remark_iff :
    remark.Matches cs ↔ ∀ c ∈ cs.dropWhile isBlank, (c != '\n') = true := by
  have hsheds : (seq (.many (· != '\n')) finish).Sheds isBlank := by
    intro c cs _ h
    rw [matches_seq_finish_iff] at h ⊢
    exact fun d hd => h d (List.mem_cons_of_mem c hd)
  exact (matches_seq_many_iff hsheds).trans matches_seq_finish_iff

theorem sheds_remark : remark.Sheds p := by
  intro c cs _ h
  rw [matches_remark_iff] at h ⊢
  rw [List.dropWhile_cons] at h
  split at h
  · exact h
  · intro d hd
    exact h d (List.mem_cons_of_mem c ((List.dropWhile_sublist _).subset hd))

end Pattern

namespace Accepts

open Pattern

variable {α : Type} {b : Pattern}

theorem all {f : List Char → α} (h : ∀ cs, b.Matches cs) : Accepts (fun cs => some (f cs)) b :=
  fun cs => ⟨fun _ => h cs, fun _ => rfl⟩

theorem bind_some {β : Type} {reader : List Char → Option α} (h : Accepts reader b) (f : α → β) :
    Accepts (fun cs => (reader cs).bind fun x => some (f x)) b := by
  intro cs
  rw [← h cs]
  dsimp only
  cases reader cs <;> rfl

/-- A status, a word in braces, and what a reader takes after them. -/
theorem statusAndWord {k : String × String × List Char → Option α}
    (h : ∀ status type, Accepts (fun cs => k (status, type, cs)) b) :
    Accepts (fun cs => (statusAndWord? cs).bind k) (statusAndWordThen b) := by
  have hparts : Accepts (fun cs => ((afterBlanks? cs).bind (run? isDecimalDigit)).bind fun x =>
      ((afterBlanks? x.2).bind (bracketed? '\x7b' '\x7d')).bind fun y =>
        k (.ofList x.1, .ofList y.1, y.2)) (statusAndWordThen b) := by
    refine blanks ?_ (sheds_blanks fun _ => isBlank_of_isDecimalDigit)
    refine run (fun status => ?_) (sheds_of_no_blank fun _ => isBlank_of_isDecimalDigit)
    dsimp only
    refine blanks ?_ (sheds_seq_literal (by decide))
    exact bracketed (by decide) fun type => h (.ofList status) (.ofList type)
  intro cs
  rw [← hparts cs]
  dsimp only [statusAndWord?, Option.bind_eq_bind]
  cases (afterBlanks? cs).bind (run? isDecimalDigit) with
  | none => rfl
  | some x =>
    rw [Option.bind_some, Option.bind_some]
    cases (afterBlanks? x.2).bind (bracketed? '\x7b' '\x7d') <;> rfl

end Accepts

open Pattern

/-- What reads a text unless it has line feeds. -/
theorem isSome_iff_no_line_feed {text : List Char} :
    (if text.contains '\n' then none else some text).isSome = true ↔
      ∀ c ∈ text, (c != '\n') = true := by
  by_cases hbreak : '\n' ∈ text
  · simp [hbreak]
  · have hall : ∀ c ∈ text, ¬c = '\n' := fun c hc => ne_of_mem_of_not_mem hc hbreak
    simpa [hbreak] using hall

theorem accepts_remark? : Accepts remark? remark := by
  intro cs
  rw [matches_remark_iff]
  exact isSome_iff_no_line_feed

theorem matches_textTail_iff {cs : List Char} : textTail.Matches cs ↔
    ∃ front back, cs = front ++ back ∧ (front ≠ [] ∧ ∀ c ∈ front, isBlank c = true) ∧
      back ≠ [] ∧ ∀ c ∈ back, (c != '\n') = true := by
  constructor
  · rintro ⟨front, back, hcs, hfront, hback⟩
    exact ⟨front, back, hcs, hfront, matches_seq_finish_iff.mp hback⟩
  · rintro ⟨front, back, hcs, hfront, hback⟩
    exact ⟨front, back, hcs, hfront, matches_seq_finish_iff.mpr hback⟩

/-- Of nothing but blanks, the last one is the text, if another one is in front of it. -/
theorem matches_textTail_of_blanks {first : Char} {inner : List Char}
    (hblank : ∀ c ∈ first :: inner, isBlank c = true) :
    textTail.Matches (first :: inner) ↔ ∃ last, inner.getLast? = some last ∧ last ≠ '\n' := by
  rw [matches_textTail_iff]
  constructor
  · rintro ⟨front, back, hsplit, ⟨hfront, -⟩, hback, hline⟩
    -- However the blanks are split, both parts have some of them and the text has the last one.
    obtain ⟨c, front, rfl⟩ := List.exists_cons_of_ne_nil hfront
    rw [List.cons_append] at hsplit
    obtain ⟨-, rfl⟩ := List.cons.inj hsplit
    refine ⟨back.getLast hback, ?_, by simpa using hline _ (List.getLast_mem hback)⟩
    rw [List.getLast?_eq_some_getLast (by simp [hback]), List.getLast_append_of_ne_nil _ hback]
  · rintro ⟨last, hlast, hne⟩
    obtain ⟨init, rfl⟩ := List.getLast?_eq_some_iff.mp hlast
    have hfront : ∀ c ∈ first :: init, isBlank c = true := fun c hc =>
      hblank c (List.mem_append_left [last] hc)
    exact ⟨first :: init, [last], rfl, ⟨by simp, hfront⟩, by simp, by simpa using hne⟩

/-- Otherwise the text starts where the blanks end. -/
theorem matches_textTail_of_text {cs : List Char} (hblanks : cs.takeWhile isBlank ≠ [])
    (htext : cs.dropWhile isBlank ≠ []) :
    textTail.Matches cs ↔ ∀ c ∈ cs.dropWhile isBlank, (c != '\n') = true := by
  rw [matches_textTail_iff]
  constructor
  · rintro ⟨front, back, rfl, ⟨-, hfront⟩, -, hline⟩ c hc
    rw [List.dropWhile_append_of_pos hfront] at hc
    exact hline c ((List.dropWhile_sublist _).subset hc)
  · intro hline
    refine ⟨cs.takeWhile isBlank, cs.dropWhile isBlank, List.takeWhile_append_dropWhile.symm,
      ⟨hblanks, ?_⟩, htext, hline⟩
    exact List.all_eq_true.mp List.all_takeWhile

/-- A text behind blanks.  Here a run does give a character back, but only if nothing else is
left. -/
theorem accepts_textArgument? : Accepts textArgument? textTail := by
  intro cs
  dsimp only [textArgument?]
  split
  · next hnil =>
    refine ⟨fun h => by simp at h, fun h => ?_⟩
    obtain ⟨front, back, rfl, ⟨hne, hfront⟩, -⟩ := matches_textTail_iff.mp h
    rw [List.takeWhile_append_of_pos hfront] at hnil
    exact absurd (List.append_eq_nil_iff.mp hnil).1 hne
  · next first inner hblanks hnil =>
    -- All is blank, so the text can be nothing but the last blank.
    have hblank : ∀ c ∈ cs, isBlank c = true := List.dropWhile_eq_nil_iff.mp hnil
    rw [List.takeWhile_eq_self_iff.mpr hblank] at hblanks
    subst hblanks
    rw [matches_textTail_of_blanks hblank]
    cases inner.getLast? with
    | none => simp
    | some last => by_cases hlast : last = '\n' <;> simp [hlast]
  · next hblanks h =>
    have htext : cs.dropWhile isBlank ≠ [] := by
      obtain ⟨first, inner, heq⟩ := List.exists_cons_of_ne_nil hblanks
      exact h first inner heq
    rw [matches_textTail_of_text hblanks htext]
    exact isSome_iff_no_line_feed

theorem accepts_tokenArgument? : Accepts tokenArgument? tokenTail := by
  have hparts : Accepts (fun cs => ((afterBlanks? cs).bind token?).bind fun x =>
      if x.2 = [] then some x.1 else none) tokenTail := by
    refine .blanks ?_ (sheds_blanks (by simp))
    refine .run (fun chars cs => ?_) sheds_finish
    change _ ↔ cs = []
    dsimp only
    split
    · next hnil => simp [hnil]
    · next hne => simp [hne]
  intro cs
  rw [← hparts cs]
  dsimp only [tokenArgument?]
  cases (afterBlanks? cs).bind token? with
  | none => rfl
  | some x =>
    obtain ⟨chars, rest⟩ := x
    cases rest <;> simp

theorem accepts_tokenAndRemark? : Accepts tokenAndRemark? tokenAndRemarkTail := by
  unfold tokenAndRemark?
  refine .blanks ?_ (sheds_blanks (by simp))
  refine .run (fun name => ?_) sheds_remark
  exact (accepts_remark?.map _).bind_some _

theorem accepts_apiKeyArguments? : Accepts apiKeyArguments? apiKeyTail := by
  unfold apiKeyArguments?
  refine .blanks ?_ (sheds_blanks (by simp))
  refine .run (fun scheme => ?_) (sheds_of_no_blank (by simp))
  refine .blanks ?_ (sheds_blanks (by simp))
  refine .run (fun name => ?_) (sheds_of_no_blank (by simp))
  refine .blanks ?_ (sheds_blanks fun _ => isBlank_of_isWordChar)
  refine .run (fun location => ?_) sheds_remark
  exact (accepts_remark?.map _).bind_some _

theorem accepts_paramLine? : Accepts paramLine? paramTail := by
  unfold paramLine?
  refine .blanks ?_ (sheds_blanks (by simp))
  refine .run (fun name => ?_) (sheds_of_no_blank (by simp))
  refine .blanks ?_ (sheds_blanks fun _ => isBlank_of_isWordChar)
  refine .run (fun location => ?_) (sheds_of_no_blank fun _ => isBlank_of_isWordChar)
  refine .blanks ?_ (sheds_blanks (by simp))
  refine .run (fun type => ?_) (sheds_of_no_blank (by simp))
  refine .blanks ?_
    (sheds_seq_either (sheds_seq_literal (by decide)) (sheds_seq_literal (by decide)))
  refine .truth fun required => ?_
  refine .blanks ?_ (sheds_seq_literal (by decide))
  refine .quoted fun description => ?_
  exact .all (matches_optional_anything _)

theorem accepts_responseLine? : Accepts responseLine? responseTail := by
  unfold responseLine?
  refine .statusAndWord fun status kind => ?_
  refine .blanks ?_ (sheds_blanks (by simp))
  refine .run (fun type => ?_) (sheds_of_matches (matches_optional_anything _))
  exact .all (matches_optional_anything _)

theorem accepts_headerLine? : Accepts headerLine? headerTail := by
  unfold headerLine?
  refine .statusAndWord fun status type => ?_
  refine .blanks ?_ (sheds_blanks (by simp))
  refine .run (fun name => ?_) (sheds_of_no_blank (by simp))
  refine .blanks ?_ (sheds_seq_literal (by decide))
  exact .quoted fun description => .all fun _ => trivial

theorem accepts_securityArguments? : Accepts securityArguments? securityTail := by
  unfold securityArguments?
  refine .blanks ?_ (sheds_blanks (by simp))
  refine .run (fun scheme => ?_) (sheds_of_matches (matches_optional_anything _))
  exact .all (matches_optional_anything _)

theorem accepts_routerArguments? : Accepts routerArguments? routerTail := by
  unfold routerArguments?
  refine .blanks ?_ (sheds_blanks (by simp))
  refine .run (fun path => ?_) (sheds_of_no_blank (by simp))
  refine .blanks ?_ (sheds_seq_literal (by decide))
  exact .bracketed (by decide) fun method => .all fun _ => trivial

end Directive

end AnnotatedApi
