import AnnotatedApi.Comment.Basic
import AnnotatedApi.Proofs.Text
import Mathlib.Data.List.Basic
import Mathlib.Data.List.Forall2

/-!
The ways to write a comment.

A directive may stand in a line comment of its own or on a row of a block comment, behind a star or
not.  The directives of a block are read off its rows: what `lines` does to the ends of rows makes no
difference to what is left of them without blanks (`filter_undecorated_lines`), and a row is left with
the text it was made of (`undecorated_of_isRow`).  Main statement:
`directives_do_not_depend_on_style`.
-/

namespace AnnotatedApi

open Text

/-! ### Rows of a block comment -/

/-- Text of blanks, without line feeds. -/
def IsSpace (s : String) : Prop :=
  ∀ c ∈ s.toList, isBlank c = true ∧ c ≠ '\n'

theorem IsSpace.blank {s : String} (h : IsSpace s) : ∀ c ∈ s.toList, isBlank c = true :=
  fun c hc => (h c hc).1

/-- The decorations that a row may have. -/
def IsMark (mark : String) : Prop :=
  mark = "" ∨ mark = "*"

/-- A row with the given text, which stands behind a mark.  There may be blanks anywhere between. -/
def IsRow (mark text row : String) : Prop :=
  ∃ indent spacing after, IsSpace indent ∧ IsSpace spacing ∧ IsSpace after ∧
    row = indent ++ mark ++ spacing ++ text ++ after

/-- A row has no other line feeds than its text. -/
theorem IsRow.newline_notMem {mark text row : String} (h : IsRow mark text row)
    (hmark : IsMark mark) (htext : '\n' ∉ text.toList) : '\n' ∉ row.toList := by
  obtain ⟨indent, spacing, after, hindent, hspacing, hafter, rfl⟩ := h
  have hspace : ∀ {s : String}, IsSpace s → '\n' ∉ s.toList := fun hs hc => (hs _ hc).2 rfl
  have hnone : '\n' ∉ mark.toList := by
    rcases hmark with rfl | rfl <;> decide
  simp [hspace hindent, hspace hspacing, hspace hafter, hnone, htext]

/-- The star is no blank, so only the end of what follows it is trimmed. -/
theorem trim_star_append (s : String) :
    trim ("*" ++ s) = "*" ++ .ofList (dropEndWhile isBlank s.toList) := by
  have hstar : isBlank '*' = false := by decide
  rw [← String.toList_inj]
  simp [trim, trimChars, dropAround, dropEndWhile, hstar, List.dropWhile_append]

/-- Without its decoration a row is the text it was made of. -/
theorem undecorated_of_isRow {mark text row : String} (h : IsRow mark text row)
    (hmark : IsMark mark) (htrim : trim text = text) (hstar : dropStart? "*" text = none) :
    undecorated row = text := by
  obtain ⟨indent, spacing, after, hindent, hspacing, hafter, rfl⟩ := h
  rcases hmark with rfl | rfl
  · have hbefore : ∀ c ∈ (indent ++ "" ++ spacing).toList, isBlank c = true := by
      simpa [or_imp, forall_and] using ⟨hindent.blank, hspacing.blank⟩
    rw [undecorated, trim_append_blanks hbefore hafter.blank, htrim, hstar]
  · -- The star is what is left in front, and the blanks behind it go with it.
    have hrow : indent ++ "*" ++ spacing ++ text ++ after =
        indent ++ ("*" ++ (spacing ++ text)) ++ after := by
      simp only [String.append_assoc]
    have hspaced : trim (spacing ++ text) = text := by
      have htext := trim_append_blanks hspacing.blank (by simp : ∀ c ∈ "".toList, _) text
      rwa [String.append_empty, htrim] at htext
    rw [undecorated, hrow, trim_append_blanks hindent.blank hafter.blank, trim_star_append,
      dropStart?_eq_some_iff.mpr rfl]
    exact (trim_dropEndWhile _).trans hspaced

/-! ### Directives of a block comment -/

/-- What can be told of the lines of a text can be told of the pieces between its line feeds. -/
theorem filter_undecorated_lines (s : String) :
    ((lines s).map undecorated).filter CommentGroup.isDirective =
      ((splitOn '\n' s).map undecorated).filter CommentGroup.isDirective := by
  have hreturn : ∀ cs, undecorated (.ofList (dropReturn cs)) = undecorated (.ofList cs) := by
    intro cs
    rw [undecorated, undecorated, trim_dropReturn]
  obtain ⟨init, last, hpieces⟩ := List.eq_nil_or_concat' (splitWhere (· == '\n') s.toList)
    |>.resolve_left (splitWhere_ne_nil _ _)
  simp only [lines, splitOn, hpieces, List.dropLast_concat, List.getLast?_concat, Option.getD_some,
    List.isEmpty_iff]
  split
  · next hlast =>
    -- An empty last piece is no line, and no directive either.
    subst hlast
    have hempty : CommentGroup.isDirective (undecorated (.ofList [])) = false := by decide
    simp [Function.comp_def, hreturn, hempty]
  · simp [Function.comp_def, hreturn]

/-- The rows of a block comment with the given lines, each behind the mark.  Rows without a text may
stand anywhere, with or without the mark. -/
inductive BlockRows (mark : String) : List String → List String → Prop
  | nil : BlockRows mark [] []
  | line {text row : String} {texts rows : List String} : IsRow mark text row →
      BlockRows mark texts rows → BlockRows mark (text :: texts) (row :: rows)
  | empty {row : String} {texts rows : List String} : IsRow mark "" row ∨ IsRow "" "" row →
      BlockRows mark texts rows → BlockRows mark texts (row :: rows)

/-- A line that is a directive, with nothing around it. -/
structure IsDirectiveText (text : String) : Prop where
  directive : CommentGroup.isDirective text = true
  trimmed : trim text = text
  newline : '\n' ∉ text.toList

theorem IsDirectiveText.dropStart?_star {text : String} (h : IsDirectiveText text) :
    dropStart? "*" text = none := by
  obtain ⟨rest, hrest⟩ := isSome_afterStart?_iff.mp h.directive
  rw [dropStart?, ← hrest]
  rfl

theorem BlockRows.newline_notMem {mark : String} {texts rows : List String}
    (h : BlockRows mark texts rows) (hmark : IsMark mark)
    (htexts : ∀ text ∈ texts, IsDirectiveText text) : ∀ row ∈ rows, '\n' ∉ row.toList := by
  induction h with
  | nil => simp
  | line hrow _ ih =>
    rw [List.forall_mem_cons] at htexts ⊢
    exact ⟨hrow.newline_notMem hmark htexts.1.newline, ih htexts.2⟩
  | empty hrow _ ih =>
    rw [List.forall_mem_cons]
    refine ⟨?_, ih htexts⟩
    rcases hrow with hrow | hrow
    · exact hrow.newline_notMem hmark (by simp)
    · exact hrow.newline_notMem (.inl rfl) (by simp)

theorem BlockRows.filter_undecorated {mark : String} {texts rows : List String}
    (h : BlockRows mark texts rows) (hmark : IsMark mark)
    (htexts : ∀ text ∈ texts, IsDirectiveText text) :
    (rows.map undecorated).filter CommentGroup.isDirective = texts := by
  induction h with
  | nil => rfl
  | line hrow _ ih =>
    rw [List.forall_mem_cons] at htexts
    obtain ⟨htext, htexts⟩ := htexts
    rw [List.map_cons, undecorated_of_isRow hrow hmark htext.trimmed htext.dropStart?_star,
      List.filter_cons_of_pos htext.directive, ih htexts]
  | @empty row _ _ hrow _ ih =>
    have hempty : undecorated row = "" := by
      rcases hrow with hrow | hrow
      · exact undecorated_of_isRow hrow hmark (by decide) (by decide)
      · exact undecorated_of_isRow hrow (.inl rfl) (by decide) (by decide)
    rw [List.map_cons, hempty, List.filter_cons_of_neg (by decide), ih htexts]

/-- The lines of a block comment are those of what stands between its markers. -/
theorem commentLines_block (body : String) :
    commentLines ("/*" ++ body ++ "*/") = (lines body).map undecorated := by
  have hline : dropStart? "//" ("/*" ++ body ++ "*/") = none := by
    simp [dropStart?, afterStart?]
  have hstart : dropStart? "/*" ("/*" ++ body ++ "*/") = some (body ++ "*/") :=
    dropStart?_eq_some_iff.mpr String.append_assoc
  rw [commentLines, hline, hstart, Option.bind_some, dropEnd?_eq_some_iff.mpr rfl,
    Option.getD_some]

theorem directives_of_blockRows {mark : String} {texts rows : List String}
    (h : BlockRows mark texts rows) (hmark : IsMark mark)
    (htexts : ∀ text ∈ texts, IsDirectiveText text) :
    (CommentGroup.push {} ("/*" ++ join "\n" rows ++ "*/")).directives = texts := by
  rw [CommentGroup.directives, CommentGroup.push, commentLines_block, List.nil_append,
    filter_undecorated_lines]
  by_cases hrows : rows = []
  · subst hrows
    cases h
    decide
  · have hsplit : splitOn '\n' (join "\n" rows) = rows :=
      splitOn_join hrows (h.newline_notMem hmark htexts)
    rw [hsplit, h.filter_undecorated hmark htexts]

/-! ### Directives of line comments -/

/-- A line comment with the given text and blanks around it. -/
def IsLineComment (text raw : String) : Prop :=
  ∃ before after, (∀ c ∈ before.toList, isBlank c = true) ∧ (∀ c ∈ after.toList, isBlank c = true) ∧
    raw = "//" ++ (before ++ text ++ after)

theorem commentLines_of_isLineComment {text raw : String} (h : IsLineComment text raw)
    (htrim : trim text = text) : commentLines raw = [text] := by
  obtain ⟨before, after, hbefore, hafter, rfl⟩ := h
  rw [commentLines, dropStart?_eq_some_iff.mpr rfl]
  show [trim (before ++ text ++ after)] = [text]
  rw [trim_append_blanks hbefore hafter, htrim]

theorem lines_foldl_push (raws : List String) (g : CommentGroup) :
    (raws.foldl CommentGroup.push g).lines = g.lines ++ raws.flatMap commentLines := by
  induction raws generalizing g with
  | nil => simp
  | cons raw rest ih =>
    rw [List.foldl_cons, ih, CommentGroup.push, List.flatMap_cons, List.append_assoc]

theorem directives_of_lineComments {texts raws : List String}
    (h : List.Forall₂ IsLineComment texts raws) (htexts : ∀ text ∈ texts, IsDirectiveText text) :
    (raws.foldl CommentGroup.push {}).directives = texts := by
  have hlines : raws.flatMap commentLines = texts := by
    induction h with
    | nil => rfl
    | cons hraw _ ih =>
      rw [List.forall_mem_cons] at htexts
      rw [List.flatMap_cons, commentLines_of_isLineComment hraw htexts.1.trimmed, ih htexts.2,
        List.singleton_append]
  rw [CommentGroup.directives, lines_foldl_push, List.nil_append, hlines, List.filter_eq_self]
  exact fun text htext => (htexts text htext).directive

/-! ### Lines of any comment -/

theorem trim_undecorated (line : String) : trim (undecorated line) = undecorated line := by
  rw [undecorated]
  split
  · exact trim_trim _
  · exact trim_trim line

/-- Nothing is left of a line but characters of it. -/
theorem mem_of_mem_undecorated {line : String} {c : Char} (h : c ∈ (undecorated line).toList) :
    c ∈ line.toList := by
  have htrim : ∀ {s : String}, c ∈ (trim s).toList → c ∈ s.toList := fun {s} hc => by
    rw [trim, String.toList_ofList] at hc
    exact (isInfix_trimChars _).mem hc
  rw [undecorated] at h
  split at h
  · next rest hrest =>
    refine htrim ?_
    rw [dropStart?_eq_some_iff.mp hrest, String.toList_append]
    exact List.mem_append_right _ (htrim h)
  · exact htrim h

/-- A line comment gives the trimmed text behind its marker, any other comment its undecorated
lines. -/
theorem mem_commentLines {raw line : String} (h : line ∈ commentLines raw) :
    (∃ rest, raw = "//" ++ rest ∧ line = trim rest) ∨
      startsWith "//" raw = false ∧ ∃ body inner, inner ∈ lines body ∧ line = undecorated inner := by
  rw [commentLines] at h
  split at h
  · next rest hrest =>
    exact .inl ⟨rest, dropStart?_eq_some_iff.mp hrest, List.mem_singleton.mp h⟩
  · next hnone =>
    obtain ⟨inner, hinner, rfl⟩ := List.mem_map.mp h
    refine .inr ⟨?_, _, inner, hinner, rfl⟩
    rw [dropStart?, Option.map_eq_none_iff] at hnone
    rw [startsWith, hnone]
    rfl

theorem trim_of_mem_commentLines {raw line : String} (h : line ∈ commentLines raw) :
    trim line = line := by
  rcases mem_commentLines h with ⟨rest, -, rfl⟩ | ⟨-, body, inner, -, rfl⟩
  · exact trim_trim rest
  · exact trim_undecorated inner

theorem newline_notMem_of_mem_commentLines {raw line : String} (h : line ∈ commentLines raw)
    (hraw : startsWith "/*" raw = true ∨ '\n' ∉ raw.toList) : '\n' ∉ line.toList := by
  rcases mem_commentLines h with ⟨rest, rfl, rfl⟩ | ⟨-, body, inner, hinner, rfl⟩
  · -- A line comment is no block comment, so it has no line feed at all.
    rcases hraw with hblock | hnone
    · simp [startsWith, afterStart?] at hblock
    · intro hmem
      rw [trim, String.toList_ofList] at hmem
      exact hnone (by simp [(isInfix_trimChars _).mem hmem])
  · exact fun hmem => newline_notMem_of_mem_lines hinner (mem_of_mem_undecorated hmem)

/-- **The style of a comment makes no difference to its directives.** -/
theorem directives_do_not_depend_on_style {texts : List String}
    (htexts : ∀ text ∈ texts, IsDirectiveText text) :
    (∀ raws, List.Forall₂ IsLineComment texts raws →
      (raws.foldl CommentGroup.push {}).directives = texts) ∧
    (∀ rows, BlockRows "" texts rows →
      (CommentGroup.push {} ("/*" ++ join "\n" rows ++ "*/")).directives = texts) ∧
    (∀ rows, BlockRows "*" texts rows →
      (CommentGroup.push {} ("/*" ++ join "\n" rows ++ "*/")).directives = texts) ∧
    ∀ (g : CommentGroup) (raw : String), ∃ pushed, (g.push raw).lines = g.lines ++ pushed ∧
      ∀ line ∈ pushed,
        (∀ c ∈ line.toList.head?, isBlank c = false) ∧
        (∀ c ∈ line.toList.getLast?, isBlank c = false) ∧
        (startsWith "/*" raw = true ∨ '\n' ∉ raw.toList → '\n' ∉ line.toList) := by
  refine ⟨fun raws h => directives_of_lineComments h htexts,
    fun rows h => directives_of_blockRows h (.inl rfl) htexts,
    fun rows h => directives_of_blockRows h (.inr rfl) htexts,
    fun g raw => ⟨commentLines raw, rfl, fun line hline => ?_⟩⟩
  obtain ⟨hhead, hlast⟩ := trim_eq_self_iff.mp (trim_of_mem_commentLines hline)
  exact ⟨hhead, hlast, newline_notMem_of_mem_commentLines hline⟩

/-- Two directives as line comments, below each other, and behind stars. -/
theorem title_and_version_in_every_style :
    let texts := ["@title Pets", "@version 1.0"]
    let raws := ["// @title Pets", "//@version 1.0\t"]
    let rows := [" @title Pets", "", "\t@version 1.0"]
    let starred := ["*", " * @title Pets", "\t*@version 1.0 ", " "]
    (∀ text ∈ texts, IsDirectiveText text) ∧ List.Forall₂ IsLineComment texts raws ∧
    BlockRows "" texts rows ∧ BlockRows "*" texts starred ∧
    (raws.foldl CommentGroup.push {}).directives = texts ∧
    (CommentGroup.push {} ("/*" ++ join "\n" rows ++ "*/")).directives = texts ∧
    (CommentGroup.push {} ("/*" ++ join "\n" starred ++ "*/")).directives = texts := by
  intro texts raws rows starred
  have htexts : ∀ text ∈ texts, IsDirectiveText text := by
    rw [List.forall_mem_cons, List.forall_mem_singleton]
    exact ⟨⟨by decide, by decide, by decide⟩, ⟨by decide, by decide, by decide⟩⟩
  have hnone : IsSpace "" := List.forall_mem_nil _
  have hblank : IsSpace " " := List.forall_mem_singleton.mpr (by decide)
  have htab : IsSpace "\t" := List.forall_mem_singleton.mpr (by decide)
  have hraws : List.Forall₂ IsLineComment texts raws :=
    .cons ⟨" ", "", hblank.blank, hnone.blank, by decide⟩ <|
      .cons ⟨"", "\t", hnone.blank, htab.blank, by decide⟩ .nil
  have hrows : BlockRows "" texts rows :=
    .line ⟨" ", "", "", hblank, hnone, hnone, by decide⟩ <|
      .empty (.inl ⟨"", "", "", hnone, hnone, hnone, by decide⟩) <|
      .line ⟨"\t", "", "", htab, hnone, hnone, by decide⟩ .nil
  have hstarred : BlockRows "*" texts starred :=
    .empty (.inl ⟨"", "", "", hnone, hnone, hnone, by decide⟩) <|
      .line ⟨" ", " ", "", hblank, hblank, hnone, by decide⟩ <|
      .line ⟨"\t", "", " ", htab, hnone, hblank, by decide⟩ <|
      .empty (.inr ⟨" ", "", "", hblank, hnone, hnone, by decide⟩) .nil
  obtain ⟨hline, hplain, hstar, -⟩ := directives_do_not_depend_on_style htexts
  exact ⟨htexts, hraws, hrows, hstarred, hline raws hraws, hplain rows hrows, hstar starred hstarred⟩

end AnnotatedApi
