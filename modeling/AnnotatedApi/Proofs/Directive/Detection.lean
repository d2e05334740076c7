import AnnotatedApi.Build
import AnnotatedApi.Proofs.Directive.Dispatch

/-!
Which files are taken to have general information.

A file is taken for the general-info file by the beginnings of its lines, and then read by patterns
that go on behind the keyword.  What the patterns ask for is said without a reader (`Declares`), and a
line is handled as a title or a version exactly if it declares one (`handled_iff_declares`).  A line
that only begins like one is a lookalike.  Main statement: detection and reading agree on a file
unless it has lookalikes and nothing else (`detection_agrees_iff_no_lone_lookalike`).
-/

namespace AnnotatedApi

open Text Directive

/-- The directives that make a file the one with the general information. -/
def infoNames : List String :=
  ["title", "version"]

/-- The directive, blanks, and a text on the same line; blanks around the line do not count. -/
def Declares (name line : String) : Prop :=
  ∃ blanks text, trim line = "@" ++ name ++ blanks ++ text ∧
    (blanks ≠ "" ∧ ∀ c ∈ blanks.toList, isBlank c = true) ∧ text ≠ "" ∧ '\n' ∉ text.toList

/-- A line that begins like the directive but does not declare it. -/
def IsLookalike (name line : String) : Prop :=
  startsWith ("@" ++ name) line = true ∧ ¬Declares name line

namespace SourceFile

/-- Whether reading the directive lines of the file handles one as a title or a version. -/
def HandlesInfo (f : SourceFile) : Prop :=
  ∃ line ∈ f.comments.flatMap CommentGroup.directives,
    ∃ name ∈ infoNames, (InfoLine.parse? line).map InfoLine.name = some name

/-- Whether a line of the file only begins like a title or a version. -/
def HasLookalike (f : SourceFile) : Prop :=
  ∃ g ∈ f.comments, ∃ line ∈ g.lines, ∃ name ∈ infoNames, IsLookalike name line

end SourceFile

/-! ### Lines -/

/-- What a line declares it matches the pattern of. -/
theorem declares_iff_matches {name line : String} : Declares name line ↔
    (Pattern.seq (.literal ("@" ++ name).toList) Pattern.textTail).Matches (trim line).toList := by
  constructor
  · rintro ⟨blanks, text, hline, ⟨hne, hblanks⟩, htext, hnewline⟩
    refine ⟨("@" ++ name).toList, blanks.toList ++ text.toList, by simp [hline], rfl, ?_⟩
    refine matches_textTail_iff.mpr ⟨_, _, rfl, ⟨by simpa using hne, hblanks⟩, by simpa using htext,
      fun c hc => ?_⟩
    simpa using ne_of_mem_of_not_mem hc hnewline
  · rintro ⟨front, back, hline, rfl, htail⟩
    obtain ⟨blanks, text, rfl, ⟨hne, hblanks⟩, htext, hnewline⟩ := matches_textTail_iff.mp htail
    refine ⟨.ofList blanks, .ofList text, ?_, ⟨by simpa using hne, by simpa using hblanks⟩,
      by simpa using htext, fun hmem => ?_⟩
    · rw [← String.toList_inj, hline]
      simp
    · simpa using hnewline '\n' (by simpa using hmem)

/-- A line is handled as a title or a version exactly if it declares one. -/
theorem handled_iff_declares {name : String} (hname : name ∈ infoNames) (line : String) :
    (InfoLine.parse? line).map InfoLine.name = some name ↔ Declares name line := by
  have hform : ∃ f ∈ infoTable.forms, f.name = name ∧ f.tail = Pattern.textTail := by
    rcases List.mem_pair.mp hname with rfl | rfl
    · exact ⟨.of "title" .text .title fun _ => rfl, by simp [infoTable], rfl, rfl⟩
    · exact ⟨.of "version" .text .version fun _ => rfl, by simp [infoTable], rfl, rfl⟩
  obtain ⟨f, hf, rfl, htail⟩ := hform
  rw [infoLine_parse?_eq_lookup, (infoTable.unambiguous_lookup (trim line)).handled,
    declares_iff_matches, ← htail]
  constructor
  · rintro ⟨g, hg, hgname, hmatch⟩
    -- The names of a table are distinct, so it is the same entry.
    have hsame : g.keyword = f.keyword := by rw [Form.keyword, Form.keyword, hgname]
    rwa [Table.eq_of_keyword_eq hg hf hsame] at hmatch
  · exact fun hmatch => ⟨f, hf, rfl, hmatch⟩

/-- Nothing is trimmed in front of a line that starts with a directive. -/
theorem startsWith_of_declares {name line : String} (hline : CommentGroup.isDirective line = true)
    (h : Declares name line) : startsWith ("@" ++ name) line = true := by
  obtain ⟨blanks, text, htrim, -⟩ := h
  obtain ⟨before, after, hbefore, -, hsplit⟩ := exists_blanks_around_trim line
  obtain ⟨rest, hrest⟩ := isSome_afterStart?_iff.mp hline
  have hnone : before.toList = [] := by
    by_contra hne
    obtain ⟨c, cs, hcons⟩ := List.exists_cons_of_ne_nil hne
    rw [hsplit, String.toList_append, String.toList_append, hcons] at hrest
    -- The first character would be a blank, but it is the sign of a directive.
    obtain rfl : '@' = c := (List.cons.inj hrest).1
    exact absurd (hbefore '@' (by simp [hcons])) (by decide)
  refine isSome_afterStart?_iff.mpr ⟨blanks.toList ++ text.toList ++ after.toList, ?_⟩
  rw [hsplit, htrim]
  simp [hnone]

/-! ### Files -/

namespace SourceFile

theorem hasGeneralInfo_iff {f : SourceFile} : f.hasGeneralInfo = true ↔
    ∃ g ∈ f.comments, ∃ line ∈ g.lines, ∃ name ∈ infoNames,
      startsWith ("@" ++ name) line = true := by
  simp [hasGeneralInfo, infoNames]

theorem handlesInfo_iff {f : SourceFile} : f.HandlesInfo ↔
    ∃ g ∈ f.comments, ∃ line ∈ g.lines, CommentGroup.isDirective line = true ∧
      ∃ name ∈ infoNames, Declares name line := by
  have hline : ∀ line, (∃ name ∈ infoNames,
      (InfoLine.parse? line).map InfoLine.name = some name) ↔
        ∃ name ∈ infoNames, Declares name line := fun line =>
    exists_congr fun name => and_congr_right fun hname => handled_iff_declares hname line
  simp only [HandlesInfo, hline, List.mem_flatMap, CommentGroup.directives, List.mem_filter]
  constructor
  · rintro ⟨line, ⟨g, hg, hmem, hdirective⟩, hdeclares⟩
    exact ⟨g, hg, line, hmem, hdirective, hdeclares⟩
  · rintro ⟨g, hg, line, hmem, hdirective, hdeclares⟩
    exact ⟨line, ⟨g, hg, hmem, hdirective⟩, hdeclares⟩

/-- What is detected is handled or only looks like it. -/
theorem hasGeneralInfo_iff_handles_or_lookalike (f : SourceFile) :
    f.hasGeneralInfo = true ↔ f.HandlesInfo ∨ f.HasLookalike := by
  rw [hasGeneralInfo_iff, handlesInfo_iff]
  constructor
  · rintro ⟨g, hg, line, hmem, name, hname, hstart⟩
    by_cases hdeclares : Declares name line
    · refine .inl ⟨g, hg, line, hmem, ?_, name, hname, hdeclares⟩
      obtain ⟨rest, hrest⟩ := isSome_afterStart?_iff.mp hstart
      exact isSome_afterStart?_iff.mpr ⟨name.toList ++ rest, by simpa using hrest⟩
    · exact .inr ⟨g, hg, line, hmem, name, hname, hstart, hdeclares⟩
  · rintro (⟨g, hg, line, hmem, hdirective, name, hname, hdeclares⟩ |
      ⟨g, hg, line, hmem, name, hname, hstart, -⟩)
    · exact ⟨g, hg, line, hmem, name, hname, startsWith_of_declares hdirective hdeclares⟩
    · exact ⟨g, hg, line, hmem, name, hname, hstart⟩

/-- **Detection agrees with reading unless a file has lookalikes and nothing else.** -/
theorem detection_agrees_iff_no_lone_lookalike (f : SourceFile) :
    (f.hasGeneralInfo = true ↔ f.HandlesInfo ∨ f.HasLookalike) ∧
    ((f.hasGeneralInfo = true ↔ f.HandlesInfo) ↔ (f.HasLookalike → f.HandlesInfo)) := by
  have hdetected := f.hasGeneralInfo_iff_handles_or_lookalike
  refine ⟨hdetected, ?_⟩
  rw [hdetected]
  exact or_iff_left_iff_imp

end SourceFile

/-- A helper whose comment begins like a title takes the place of the file with the title. -/
theorem lookalike_takes_the_place :
    let helper : SourceFile :=
      { path := "case.go", comments := [.ofLines ["@titlecase turns a word into a title"]] }
    let main : SourceFile :=
      { path := "main.go", comments := [.ofLines ["@title Pets", "@version 1.0"]] }
    let b := ({} : Build).addFiles {} [helper, main]
    helper.hasGeneralInfo = true ∧ ¬helper.HandlesInfo ∧
    b.generalInfoFile = some "case.go" ∧ b.document.info.title = "" := by
  intro helper main b
  have hunread : ¬helper.HandlesInfo := by
    unfold SourceFile.HandlesInfo
    decide
  exact ⟨by decide, hunread, by decide, by decide⟩

end AnnotatedApi
