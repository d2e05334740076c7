import AnnotatedApi.Proofs.Assoc
import AnnotatedApi.Proofs.Directive.Pattern
import AnnotatedApi.Proofs.Text

/-!
Lines and the directives that handle them.

The recognised lines make up two tables, one of operations and one of general information.  An entry
is a keyword and a pattern of what follows it.  Such a pattern lets nothing but a blank stand behind
the keyword, so a line that matches an entry has its keyword as first token (`Form.parse?_eq`).  As
the keywords of a table differ, a line matches one entry at most, and to try the entries one after
another, in any order, is to look up the keyword (`Table.findSome?_eq_lookup`).  Main statement:
both registries dispatch without ambiguity, and never the same line (`dispatch_is_unambiguous`).
-/

namespace AnnotatedApi

open Text

namespace Directive

/-! ### Entries of a table -/

/-- A reader of what follows a keyword, and the pattern of what it reads. -/
structure Arguments (α : Type) where
  read? : List Char → Option α
  tail : Pattern
  accepts : Accepts read? tail
  /-- The keyword ends where the arguments start. -/
  spaced : ∀ {c : Char} {cs : List Char}, tail.Matches (c :: cs) → isBlank c = true

/-- A directive with its arguments.  The lines that it reads have its name. -/
structure Form {α : Type} (nameOf : α → String) extends Arguments α where
  name : String
  named : ∀ {cs : List Char} {line : α}, read? cs = some line → nameOf line = name

/-- The directive that makes a line of what its arguments are read as. -/
def Form.of {α β : Type} {nameOf : α → String} (name : String) (args : Arguments β)
    (line : β → α) (hname : ∀ b, nameOf (line b) = name) : Form nameOf where
  read? cs := (args.read? cs).map line
  tail := args.tail
  accepts := args.accepts.map line
  spaced := args.spaced
  name := name
  named h := by
    obtain ⟨b, -, rfl⟩ := Option.map_eq_some_iff.mp h
    exact hname b

namespace Form

variable {α : Type} {nameOf : α → String}

def keyword (f : Form nameOf) : String :=
  "@" ++ f.name

/-- The pattern of the whole line. -/
def pattern (f : Form nameOf) : Pattern :=
  .seq (.literal f.keyword.toList) f.tail

/-- Reads a line that matches the pattern. -/
def parse? (f : Form nameOf) (line : String) : Option α :=
  (afterStart? f.keyword.toList line.toList).bind f.read?

theorem isSome_parse?_iff (f : Form nameOf) (line : String) :
    (f.parse? line).isSome = true ↔ f.pattern.Matches line.toList :=
  Accepts.literal f.accepts line.toList

/-- What can stand behind a keyword ends it. -/
theorem token_append {keyword rest : List Char} (hkeyword : ∀ c ∈ keyword, isBlank c = false)
    (hrest : ∀ c cs, rest = c :: cs → isBlank c = true) :
    token (keyword ++ rest) = (keyword, rest) := by
  have hpos : ∀ c ∈ keyword, (!isBlank c) = true := fun c hc => by simp [hkeyword c hc]
  rw [token, List.takeWhile_append_of_pos hpos, List.dropWhile_append_of_pos hpos]
  cases rest with
  | nil => simp
  | cons c cs => simp [hrest c cs rfl]

/-- A line that matches an entry has its keyword as first token. -/
theorem parse?_eq {f : Form nameOf} (hbare : f.keyword.toList.any isBlank = false)
    (line : String) : f.parse? line =
      if (splitLine line).1 = f.keyword then f.read? (splitLine line).2 else none := by
  split
  · next hkey =>
    have hsplit : line.toList = f.keyword.toList ++ (splitLine line).2 := by
      rw [← hkey]
      simp [splitLine, token]
    rw [parse?, hsplit, afterStart?_append, Option.bind_some]
  · next hkey =>
    rw [parse?, Option.bind_eq_none_iff]
    intro rest hrest
    have hline := eq_append_of_afterStart? hrest
    -- If the arguments were read, the token would end in front of them.
    by_contra hread
    have htail : f.tail.Matches rest := (f.accepts rest).mp (Option.isSome_iff_ne_none.mpr hread)
    have htoken : token line.toList = (f.keyword.toList, rest) := by
      rw [hline]
      exact token_append (by simpa using hbare) fun c cs hcs => f.spaced (hcs ▸ htail)
    exact hkey (by simp [splitLine, htoken])

end Form

/-! ### Tables -/

/-- The directives of a registry. -/
structure Table {α : Type} (nameOf : α → String) where
  forms : List (Form nameOf)
  distinct : (forms.map Form.name).Nodup
  bare : ∀ f ∈ forms, f.keyword.toList.any isBlank = false

namespace Table

variable {α : Type} {nameOf : α → String} {t : Table nameOf} {line : String}

/-- The arguments are read by the entry whose keyword is the first token. -/
def lookup (t : Table nameOf) (line : String) : Option α :=
  (t.forms.find? ((splitLine line).1 == ·.keyword)).bind (·.read? (splitLine line).2)

theorem eq_of_keyword_eq {f g : Form nameOf} (hf : f ∈ t.forms) (hg : g ∈ t.forms)
    (h : f.keyword = g.keyword) : f = g :=
  List.inj_on_of_nodup_map t.distinct hf hg (by simpa [Form.keyword] using h)

theorem keyword_of_matches {f : Form nameOf} (hf : f ∈ t.forms)
    (h : f.pattern.Matches line.toList) : (splitLine line).1 = f.keyword := by
  rw [← f.isSome_parse?_iff, Form.parse?_eq (t.bare f hf)] at h
  by_contra hkey
  simp [hkey] at h

/-- A line matches one entry at most. -/
theorem eq_of_matches {f g : Form nameOf} (hf : f ∈ t.forms) (hg : g ∈ t.forms)
    (hmf : f.pattern.Matches line.toList) (hmg : g.pattern.Matches line.toList) : f = g :=
  eq_of_keyword_eq hf hg ((keyword_of_matches hf hmf).symm.trans (keyword_of_matches hg hmg))

theorem pairwise_not_matches (t : Table nameOf) (line : String) : t.forms.Pairwise fun f g =>
    ¬(f.pattern.Matches line.toList ∧ g.pattern.Matches line.toList) := by
  refine (List.pairwise_map.mp t.distinct).imp_of_mem fun {f g} hf hg hne => ?_
  rintro ⟨hmf, hmg⟩
  exact hne (congrArg Form.name (eq_of_matches hf hg hmf hmg))

/-- A search in which only one element can answer. -/
theorem findSome?_eq_of_forall_ne {β γ : Type} {g : β → Option γ} {l : List β} {b : β} (hb : b ∈ l)
    (h : ∀ c ∈ l, c ≠ b → g c = none) : l.findSome? g = g b := by
  cases hsome : l.findSome? g with
  | none => exact (List.findSome?_eq_none_iff.mp hsome b hb).symm
  | some a =>
    obtain ⟨c, hc, hca⟩ := List.exists_of_findSome?_eq_some hsome
    by_cases hcb : c = b
    · rw [← hcb, hca]
    · rw [h c hc hcb] at hca
      cases hca

/-- To try the entries in order is to look up the keyword. -/
theorem findSome?_eq_lookup (t : Table nameOf) (line : String) :
    t.forms.findSome? (·.parse? line) = t.lookup line := by
  have hparse := fun f hf => Form.parse?_eq (t.bare f hf) line
  rw [lookup]
  cases hfind : t.forms.find? ((splitLine line).1 == ·.keyword) with
  | none =>
    rw [Option.bind_none, List.findSome?_eq_none_iff]
    intro f hf
    rw [hparse f hf, if_neg (by simpa using List.find?_eq_none.mp hfind f hf)]
  | some f =>
    have hf : f ∈ t.forms := List.mem_of_find?_eq_some hfind
    have hkey : (splitLine line).1 = f.keyword := by simpa using List.find?_some hfind
    rw [Option.bind_some, findSome?_eq_of_forall_ne hf fun g hg hne => ?_, hparse f hf, if_pos hkey]
    -- Another entry has another keyword.
    rw [hparse g hg, if_neg]
    exact fun hkey' => hne (eq_of_keyword_eq hg hf (hkey'.symm.trans hkey))

/-- They can be tried in any order. -/
theorem findSome?_perm_eq_lookup {forms : List (Form nameOf)} (hperm : forms.Perm t.forms) :
    forms.findSome? (·.parse? line) = t.lookup line := by
  rw [← t.findSome?_eq_lookup]
  refine (findSome?_perm hperm.symm ((t.pairwise_not_matches line).imp fun {f g} h => ?_)).symm
  rw [← f.isSome_parse?_iff, ← g.isSome_parse?_iff, not_and_or] at h
  simpa using h

theorem lookup_eq_some_iff {a : α} :
    t.lookup line = some a ↔ ∃ f ∈ t.forms, f.parse? line = some a := by
  rw [← t.findSome?_eq_lookup]
  refine ⟨List.exists_of_findSome?_eq_some, ?_⟩
  rintro ⟨f, hf, hline⟩
  have hmf : f.pattern.Matches line.toList := (f.isSome_parse?_iff line).mp (by simp [hline])
  rw [findSome?_eq_of_forall_ne hf fun g hg hne => ?_, hline]
  -- An entry that reads the line matches it, and only one does.
  by_contra hsome
  have hmg := (g.isSome_parse?_iff line).mp (Option.isSome_iff_ne_none.mpr hsome)
  exact hne (eq_of_matches hg hf hmg hmf)

/-- What has the name of an entry is read by that entry, behind its keyword. -/
theorem lookup_eq_some_iff_of_name {f : Form nameOf} (hf : f ∈ t.forms) {a : α}
    (hname : nameOf a = f.name) : t.lookup line = some a ↔
      ∃ rest, line.toList = f.keyword.toList ++ rest ∧ f.read? rest = some a := by
  rw [lookup_eq_some_iff]
  constructor
  · rintro ⟨g, hg, hline⟩
    obtain ⟨rest, hrest, hread⟩ := Option.bind_eq_some_iff.mp hline
    have hkey : g.keyword = f.keyword := by rw [Form.keyword, Form.keyword, ← hname, g.named hread]
    obtain rfl := eq_of_keyword_eq hg hf hkey
    exact ⟨rest, eq_append_of_afterStart? hrest, hread⟩
  · rintro ⟨rest, hline, hread⟩
    refine ⟨f, hf, ?_⟩
    rw [Form.parse?, hline, afterStart?_append, Option.bind_some, hread]

/-- A line that starts with a keyword is read by its entry or not at all, unless another keyword
goes on from there. -/
theorem lookup_append {f : Form nameOf} (hf : f ∈ t.forms)
    (hlast : ∀ g ∈ t.forms, f.keyword.toList <+: g.keyword.toList → g.name = f.name)
    (rest : String) : t.lookup (f.keyword ++ rest) = f.read? rest.toList := by
  refine Option.ext fun a => ?_
  rw [lookup_eq_some_iff]
  have hparse : f.parse? (f.keyword ++ rest) = f.read? rest.toList := by
    rw [Form.parse?, String.toList_append, afterStart?_append, Option.bind_some]
  constructor
  · rintro ⟨g, hg, hline⟩
    -- The first token is the keyword that is read, and it starts with the one that stands there.
    have htoken : (splitLine (f.keyword ++ rest)).1 = g.keyword :=
      keyword_of_matches hg ((g.isSome_parse?_iff _).mp (by simp [hline]))
    have hbare : ∀ c ∈ f.keyword.toList, (!isBlank c) = true := by simpa using t.bare f hf
    have hstart : f.keyword.toList <+: g.keyword.toList := by
      rw [← htoken, splitLine, Text.token, String.toList_append, List.takeWhile_append_of_pos hbare,
        String.toList_ofList]
      exact List.prefix_append _ _
    have hkey : g.keyword = f.keyword := by rw [Form.keyword, Form.keyword, hlast g hg hstart]
    obtain rfl := eq_of_keyword_eq hg hf hkey
    rw [← hparse, hline]
  · intro hread
    exact ⟨f, hf, hparse.trans hread⟩

/-- The result for a line depends on the entries of the table, not on their order. -/
structure Unambiguous (t : Table nameOf) (line : String) (result : Option α) : Prop where
  /-- The first token is the keyword of the directive that handles the line. -/
  token : ∀ a, result = some a → (words line).head? = some ("@" ++ nameOf a)
  /-- The directive that handles the line is the one whose pattern matches. -/
  handled : ∀ name, result.map nameOf = some name ↔
    ∃ f ∈ t.forms, f.name = name ∧ f.pattern.Matches line.toList
  /-- No two patterns match. -/
  exclusive : t.forms.Pairwise fun f g =>
    ¬(f.pattern.Matches line.toList ∧ g.pattern.Matches line.toList)
  /-- The first pattern that matches gives the result, whatever the order of the table. -/
  anyOrder : ∀ forms : List (Form nameOf), forms.Perm t.forms →
    forms.findSome? (·.parse? line) = result

theorem head?_words_of_lookup {a : α} (h : t.lookup line = some a) :
    (words line).head? = some ("@" ++ nameOf a) := by
  obtain ⟨f, hf, hline⟩ := lookup_eq_some_iff.mp h
  rw [Form.parse?_eq (t.bare f hf), Option.ite_none_right_eq_some] at hline
  obtain ⟨hkey, hread⟩ := hline
  rw [f.named hread]
  have hne : (Text.token line.toList).1 ≠ [] := by
    intro hnil
    simp [splitLine, hnil, Form.keyword, ← String.toList_inj] at hkey
  rw [head?_words_of_token hne]
  exact congrArg some hkey

theorem unambiguous_lookup (t : Table nameOf) (line : String) :
    t.Unambiguous line (t.lookup line) where
  token _ := head?_words_of_lookup
  handled name := by
    rw [Option.map_eq_some_iff]
    constructor
    · rintro ⟨a, ha, rfl⟩
      obtain ⟨f, hf, hline⟩ := lookup_eq_some_iff.mp ha
      refine ⟨f, hf, ?_, (f.isSome_parse?_iff line).mp (by simp [hline])⟩
      obtain ⟨rest, -, hread⟩ := Option.bind_eq_some_iff.mp hline
      exact (f.named hread).symm
    · rintro ⟨f, hf, rfl, hmatch⟩
      obtain ⟨a, hline⟩ := Option.isSome_iff_exists.mp ((f.isSome_parse?_iff line).mpr hmatch)
      refine ⟨a, lookup_eq_some_iff.mpr ⟨f, hf, hline⟩, ?_⟩
      obtain ⟨rest, -, hread⟩ := Option.bind_eq_some_iff.mp hline
      exact f.named hread
  exclusive := t.pairwise_not_matches line
  anyOrder _ := findSome?_perm_eq_lookup

end Table

/-! ### The two registries -/

namespace Arguments

open Pattern

theorem spaced_blanks {b : Pattern} {c : Char} {cs : List Char}
    (h : (seq blanks b).Matches (c :: cs)) : isBlank c = true := by
  obtain ⟨front, back, hcs, ⟨hne, hfront⟩, -⟩ := h
  obtain ⟨d, front, rfl⟩ := List.exists_cons_of_ne_nil hne
  obtain ⟨rfl, -⟩ := List.cons.inj hcs
  exact hfront c (by simp)

def text : Arguments String := ⟨text?, textTail, accepts_textArgument?.map _, spaced_blanks⟩

/-- A text with the blanks at its end. -/
def rawText : Arguments (List Char) :=
  ⟨textArgument?, textTail, accepts_textArgument?, spaced_blanks⟩

def wholeToken : Arguments String :=
  ⟨wholeToken?, tokenTail, accepts_tokenArgument?.map _, spaced_blanks⟩

def tokenAndRemark : Arguments (String × Option String) :=
  ⟨tokenAndRemark?, tokenAndRemarkTail, accepts_tokenAndRemark?, spaced_blanks⟩

def param : Arguments ParamLine := ⟨paramLine?, paramTail, accepts_paramLine?, spaced_blanks⟩

def response : Arguments ResponseLine :=
  ⟨responseLine?, responseTail, accepts_responseLine?, spaced_blanks⟩

def header : Arguments HeaderLine := ⟨headerLine?, headerTail, accepts_headerLine?, spaced_blanks⟩

def security : Arguments (String × List String) :=
  ⟨securityArguments?, securityTail, accepts_securityArguments?, spaced_blanks⟩

def router : Arguments (String × String) :=
  ⟨routerArguments?, routerTail, accepts_routerArguments?, spaced_blanks⟩

end Arguments

/-- The only directive whose keyword may end the line. -/
def deprecatedForm : Form OperationLine.name where
  read? rest := if rest.all isBlank then some .deprecated else none
  tail := Pattern.deprecatedTail
  accepts cs := by
    rw [Pattern.matches_deprecatedTail_iff]
    simp
  spaced h := Pattern.matches_deprecatedTail_iff.mp h _ (by simp)
  name := "Deprecated"
  named h := by
    obtain ⟨-, hline⟩ := Option.ite_none_right_eq_some.mp h
    obtain rfl := Option.some.inj hline
    rfl

def apiKeyForm : Form InfoLine.name where
  read? := apiKeyArguments?
  tail := Pattern.apiKeyTail
  accepts := accepts_apiKeyArguments?
  spaced := Arguments.spaced_blanks
  name := "securityDefinitions.apikey"
  named h := by
    simp only [apiKeyArguments?, Option.bind_eq_bind, Option.bind_eq_some_iff] at h
    obtain ⟨_, -, _, -, _, -, _, -, hline⟩ := h
    obtain rfl := Option.some.inj hline
    rfl

/-- The directives of an operation. -/
def operationTable : Table OperationLine.name where
  forms :=
    [.of "Summary" .text .summary fun _ => rfl,
     .of "Description" .text .description fun _ => rfl,
     .of "ID" .text .id fun _ => rfl,
     .of "Tags" .text (fun list => .tags (commaItems list)) fun _ => rfl,
     .of "Accept" .text (fun list => .accept (mediaTypes list)) fun _ => rfl,
     .of "Produce" .text (fun list => .produce (mediaTypes list)) fun _ => rfl,
     .of "Param" .param .param fun _ => rfl,
     .of "Success" .response (.response .success) fun _ => rfl,
     .of "Failure" .response (.response .failure) fun _ => rfl,
     .of "Response" .response (.response .response) fun _ => rfl,
     .of "Header" .header .header fun _ => rfl,
     .of "Security" .security (fun (scheme, scopes) => .security scheme scopes) fun _ => rfl,
     deprecatedForm,
     .of "State" .text .state fun _ => rfl,
     .of "x-codeSamples" .rawText (fun cs => .codeSamples (.ofList cs)) fun _ => rfl,
     .of "Router" .router (fun (path, method) => .router path method) fun _ => rfl]
  distinct := by decide
  bare := by decide

/-- The directives of a document. -/
def infoTable : Table InfoLine.name where
  forms :=
    [.of "title" .text .title fun _ => rfl,
     .of "version" .text .version fun _ => rfl,
     .of "description" .text .description fun _ => rfl,
     .of "summary" .text .summary fun _ => rfl,
     .of "termsOfService" .text .termsOfService fun _ => rfl,
     .of "contact.name" .text .contactName fun _ => rfl,
     .of "contact.url" .text .contactUrl fun _ => rfl,
     .of "contact.email" .text .contactEmail fun _ => rfl,
     .of "license.name" .text .licenseName fun _ => rfl,
     .of "license.url" .text .licenseUrl fun _ => rfl,
     .of "license.identifier" .text .licenseIdentifier fun _ => rfl,
     .of "host" .wholeToken .host fun _ => rfl,
     .of "basePath" .wholeToken .basePath fun _ => rfl,
     .of "schemes" .text .schemes fun _ => rfl,
     .of "server.description" .text .serverDescription fun _ => rfl,
     .of "server" .tokenAndRemark (fun (url, remark) => .server url remark) fun _ => rfl,
     .of "tag.name" .text .tagName fun _ => rfl,
     .of "tag.description" .text .tagDescription fun _ => rfl,
     .of "tag.docs.url" .wholeToken .tagDocsUrl fun _ => rfl,
     .of "tag.docs.description" .text .tagDocsDescription fun _ => rfl,
     .of "externalDocs.url" .wholeToken .externalDocsUrl fun _ => rfl,
     .of "externalDocs.description" .text .externalDocsDescription fun _ => rfl,
     .of "securityDefinitions.basic" .tokenAndRemark
       (fun (scheme, remark) => .basicAuth scheme remark) fun _ => rfl,
     apiKeyForm]
  distinct := by decide
  bare := by decide

theorem operationLine_parse?_eq_lookup (line : String) :
    OperationLine.parse? line = operationTable.lookup line := by
  rw [OperationLine.parse?, Table.lookup]
  obtain ⟨keyword, rest⟩ := splitLine line
  dsimp only
  split
  case h_17 =>
    -- A keyword of none of the cases is the keyword of no entry.
    have hnone : ∀ f ∈ operationTable.forms, ¬(keyword == f.keyword) = true := by
      simp only [operationTable, Form.of, deprecatedForm, Form.keyword, String.reduceAppend,
        beq_iff_eq, List.forall_mem_cons, List.not_mem_nil, false_implies, implies_true, and_true]
      and_intros <;> assumption
    rw [List.find?_eq_none.mpr hnone, Option.bind_none]
  all_goals rfl

theorem infoLine_parse?_eq_lookup (line : String) :
    InfoLine.parse? line = infoTable.lookup (trim line) := by
  rw [InfoLine.parse?, Table.lookup]
  obtain ⟨keyword, rest⟩ := splitLine (trim line)
  dsimp only
  split
  case h_25 =>
    have hnone : ∀ f ∈ infoTable.forms, ¬(keyword == f.keyword) = true := by
      simp only [infoTable, Form.of, apiKeyForm, Form.keyword, String.reduceAppend,
        beq_iff_eq, List.forall_mem_cons, List.not_mem_nil, false_implies, implies_true, and_true]
      and_intros <;> assumption
    rw [List.find?_eq_none.mpr hnone, Option.bind_none]
  all_goals rfl

/-- The registries share no name; in `description` and `summary` they differ by a capital only. -/
theorem name_ne_of_mem_tables : ∀ f ∈ operationTable.forms, ∀ g ∈ infoTable.forms,
    f.name ≠ g.name := by
  decide

/-- **Dispatch is unambiguous.**  Either registry tells by the first token which directive a line
is, and no line is a directive of both. -/
theorem dispatch_is_unambiguous (line : String) :
    operationTable.Unambiguous line (OperationLine.parse? line) ∧
    infoTable.Unambiguous (trim line) (InfoLine.parse? line) ∧
    (OperationLine.parse? line = none ∨ InfoLine.parse? line = none) := by
  have hoperation := operationTable.unambiguous_lookup line
  have hinfo := infoTable.unambiguous_lookup (trim line)
  rw [← operationLine_parse?_eq_lookup] at hoperation
  rw [← infoLine_parse?_eq_lookup] at hinfo
  refine ⟨hoperation, hinfo, ?_⟩
  by_contra hboth
  obtain ⟨l, hl⟩ := Option.ne_none_iff_exists'.mp (not_or.mp hboth).1
  obtain ⟨i, hi⟩ := Option.ne_none_iff_exists'.mp (not_or.mp hboth).2
  -- The first token would be a keyword of either registry.
  have htokens : some ("@" ++ l.name) = some ("@" ++ i.name) := by
    rw [← hoperation.token l hl, ← hinfo.token i hi, words_trim]
  obtain ⟨f, hf, hfname, -⟩ := (hoperation.handled l.name).mp (by rw [hl]; rfl)
  obtain ⟨g, hg, hgname, -⟩ := (hinfo.handled i.name).mp (by rw [hi]; rfl)
  refine name_ne_of_mem_tables f hf g hg ?_
  rw [hfname, hgname]
  simpa using htokens

end Directive

end AnnotatedApi
