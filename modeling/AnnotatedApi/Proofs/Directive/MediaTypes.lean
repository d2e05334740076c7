import AnnotatedApi.Proofs.Directive.Dispatch
import AnnotatedApi.Proofs.Directive.Steps
import Mathlib.Data.List.DropRight

/-!
Lines that list media types.

A list is expanded item by item, and an expanded item stands for itself, so a list that was expanded
and joined again expands to the same list (`mediaTypes_join`).  New media types take over nothing but
the schema of the first entry, and each of them has that schema, so of two lists the second decides
(`retype_retype`).  Main statement: `last_media_types_win`, for the request body and for the
responses.
-/

namespace AnnotatedApi

open Text Directive

/-! ### Expanding a list -/

namespace Directive

/-- A short name has no slash, and what it stands for is an item of a list with one. -/
theorem of_mediaAlias? {name full : String} (h : mediaAlias? name = some full) :
    '/' ∉ name.toList ∧ '/' ∈ full.toList ∧ IsItem full := by
  unfold mediaAlias? at h
  split at h
  all_goals first
    | obtain rfl := Option.some_inj.mp h
      exact ⟨by decide, by decide, by decide, by decide, by decide⟩
    | cases h

/-- A name with a slash stands for itself. -/
theorem mediaType_of_slash {name : String} (h : '/' ∈ name.toList) : mediaType name = name := by
  have halias : mediaAlias? name = none :=
    Option.eq_none_iff_forall_ne_some.mpr fun full hfull => (of_mediaAlias? hfull).1 h
  rw [mediaType, halias]
  exact if_pos (by simpa using h)

theorem isItem_application {name : String} (h : IsItem name) : IsItem ("application/" ++ name) := by
  obtain ⟨-, hlast⟩ := trim_eq_self_iff.mp h.trimmed
  refine ⟨by simp, trim_eq_self_iff.mpr ⟨?_, ?_⟩, ?_⟩
  · rw [String.toList_append]
    exact fun c hc => (Option.some_inj.mp hc) ▸ (by decide)
  · have hne : name.toList ≠ [] := by simpa using h.ne_empty
    rw [String.toList_append, List.getLast?_append_of_ne_nil _ hne]
    exact hlast
  · rw [String.toList_append, List.mem_append, not_or]
    exact ⟨by decide, h.comma⟩

/-- The media type of an item is an item, and it has a slash. -/
theorem isItem_mediaType {name : String} (h : IsItem name) :
    IsItem (mediaType name) ∧ '/' ∈ (mediaType name).toList := by
  unfold mediaType
  split
  · next full hfull =>
    obtain ⟨-, hslash, hitem⟩ := of_mediaAlias? hfull
    exact ⟨hitem, hslash⟩
  · split
    · next hslash => exact ⟨h, by simpa using hslash⟩
    · exact ⟨isItem_application h, by simp⟩

theorem isItem_of_mem_mediaTypes {list type : String} (h : type ∈ mediaTypes list) :
    IsItem type ∧ '/' ∈ type.toList := by
  obtain ⟨item, hitem, rfl⟩ := List.mem_map.mp h
  exact isItem_mediaType (isItem_of_mem_commaList hitem)

/-- Expanding the joined media types of a list gives them again. -/
theorem mediaTypes_join (list : String) :
    mediaTypes (join "," (mediaTypes list)) = mediaTypes list := by
  have hitems : commaList (join "," (mediaTypes list)) = mediaTypes list :=
    commaList_join fun type htype => (isItem_of_mem_mediaTypes htype).1
  rw [mediaTypes, hitems]
  conv_rhs => rw [← List.map_id (mediaTypes list)]
  exact List.map_congr_left fun type htype =>
    mediaType_of_slash (isItem_of_mem_mediaTypes htype).2

/-! ### Lines with a list -/

/-- The directives that take a list of media types. -/
inductive MediaKeyword where
  | accept
  | produce
deriving DecidableEq, Repr

def MediaKeyword.name : MediaKeyword → String
  | .accept => "Accept"
  | .produce => "Produce"

/-- The recognised line with the given media types. -/
def MediaKeyword.line : MediaKeyword → List String → OperationLine
  | .accept => .accept
  | .produce => .produce

/-- The line is recognised, and behind its keyword and blanks it has the list. -/
def MediaKeyword.Lists (keyword : MediaKeyword) (line list : String) : Prop :=
  (OperationLine.parse? line).isSome = true ∧
    ∃ blanks : String, (∀ c ∈ blanks.toList, isBlank c = true) ∧
      line = "@" ++ keyword.name ++ blanks ++ list

theorem MediaKeyword.name_line (keyword : MediaKeyword) (types : List String) :
    (keyword.line types).name = keyword.name := by
  cases keyword <;> rfl

/-- The entry of a keyword. -/
def mediaForm (keyword : MediaKeyword) : Form OperationLine.name :=
  .of keyword.name .text (fun list => keyword.line (mediaTypes list)) fun _ => keyword.name_line _

theorem mediaForm_mem (keyword : MediaKeyword) : mediaForm keyword ∈ operationTable.forms := by
  cases keyword <;> simp [operationTable, mediaForm, MediaKeyword.name, MediaKeyword.line]

/-- The text behind a keyword is what is left there when trimmed. -/
theorem eq_trim_of_text? {cs : List Char} {text : String} (h : text? cs = some text) :
    text = trim (.ofList cs) := by
  obtain ⟨argument, hargument, rfl⟩ := Option.map_eq_some_iff.mp h
  rw [trim, String.toList_ofList]
  congr 1
  simp only [textArgument?] at hargument
  split at hargument
  · cases hargument
  · next first inner hfront hrest =>
    -- Only blanks stand there, and the last one of them is the argument.
    have hall : trimChars cs = [] := by rw [trimChars, dropAround, hrest]; rfl
    split at hargument
    · next c hlast =>
      have hmem : c ∈ cs.takeWhile isBlank :=
        hfront ▸ List.mem_cons_of_mem first (List.mem_of_getLast? hlast)
      have hblank : isBlank c = true := List.all_eq_true.mp List.all_takeWhile c hmem
      rw [Option.ite_none_left_eq_some, Option.some_inj] at hargument
      obtain ⟨-, rfl⟩ := hargument
      rw [hall]
      simp [trimChars, dropAround, hblank]
    · cases hargument
  · rw [Option.ite_none_left_eq_some, Option.some_inj] at hargument
    obtain ⟨-, rfl⟩ := hargument
    rw [trimChars, trimChars, dropAround, dropAround, List.dropWhile_idempotent isBlank]

/-- A line that lists media types is read as the media types of its list. -/
theorem MediaKeyword.Lists.parse? {keyword : MediaKeyword} {line list : String}
    (h : keyword.Lists line list) :
    OperationLine.parse? line = some (keyword.line (mediaTypes list)) := by
  obtain ⟨hsome, blanks, hblanks, rfl⟩ := h
  have hlast : ∀ g ∈ operationTable.forms,
      (mediaForm keyword).keyword.toList <+: g.keyword.toList → g.name = keyword.name := by
    cases keyword <;> decide
  have hread : OperationLine.parse? ("@" ++ keyword.name ++ blanks ++ list) =
      (text? (blanks ++ list).toList).map fun list => keyword.line (mediaTypes list) := by
    rw [operationLine_parse?_eq_lookup, String.append_assoc]
    exact Table.lookup_append (mediaForm_mem keyword) hlast (blanks ++ list)
  rw [hread, Option.isSome_map] at hsome
  obtain ⟨text, htext⟩ := Option.isSome_iff_exists.mp hsome
  have hitems : commaItems text = commaItems list := by
    have hempty : ∀ c ∈ "".toList, isBlank c = true := by simp
    have hfront := commaItems_append_blanks hblanks hempty list
    rw [String.append_empty] at hfront
    rw [eq_trim_of_text? htext, String.ofList_toList, commaItems_trim, hfront]
  rw [hread, htext, Option.map_some, mediaTypes, mediaTypes, commaList, commaList, hitems]

end Directive

/-! ### New media types -/

/-- What content becomes when it gets new media types.  Empty content stays empty.  Otherwise the
media types are the keys, each once and where it comes first in the list, and all of them have the
schema of the first entry. -/
def Retyped (types : List String) (before after : Assoc MediaType) : Prop :=
  (before = [] → after = []) ∧
    ∀ first ∈ before.head?, Assoc.keys after = types.eraseDups ∧
      ∀ entry ∈ after, entry.2 = { schema := first.2.schema }

section

variable {types : List String}

theorem eq_of_mem_retype_cons (hne : types ≠ []) {first entry : String × MediaType}
    {rest : Assoc MediaType} (h : entry ∈ retype types (first :: rest)) :
    entry.2 = { schema := first.2.schema } := by
  rw [retype_cons hne] at h
  refine Assoc.forall_mem_ofEntries (P := fun m => m = { schema := first.2.schema }) ?_ entry h
  intro e he
  obtain ⟨type, -, rfl⟩ := List.mem_map.mp he
  rfl

theorem retyped_retype (hne : types ≠ []) (content : Assoc MediaType) :
    Retyped types content (retype types content) := by
  cases content with
  | nil => exact ⟨fun _ => rfl, fun first hfirst => by simp at hfirst⟩
  | cons entry rest =>
    refine ⟨fun h => by simp at h, fun first hfirst => ?_⟩
    obtain rfl : entry = first := by simpa using hfirst
    refine ⟨?_, fun e he => eq_of_mem_retype_cons hne he⟩
    rw [retype_cons hne, Assoc.keys_ofEntries]
    simp [Assoc.keys, Function.comp_def]

/-- Of two lists the second decides, as the first one leaves the schema of the first entry. -/
theorem retype_retype (hne : types ≠ []) (earlier : List String) (content : Assoc MediaType) :
    retype types (retype earlier content) = retype types content := by
  cases content with
  | nil => rfl
  | cons first rest =>
    by_cases hearlier : earlier = []
    · rw [hearlier, retype_empty]
    · obtain ⟨entry, others, hcons⟩ : ∃ entry others,
          retype earlier (first :: rest) = entry :: others := by
        refine List.exists_cons_of_ne_nil ?_
        rw [retype_cons hearlier]
        exact Assoc.ofEntries_ne_nil (by simpa using hearlier)
      have hentry : entry ∈ retype earlier (first :: rest) := by
        rw [hcons]
        exact List.mem_cons_self
      rw [hcons, retype_cons hne, retype_cons hne, eq_of_mem_retype_cons hearlier hentry]

end

namespace Operation

variable {ctx : OperationContext} {op : Operation} {types : List String}

theorem apply_mediaLine_empty (keyword : MediaKeyword) :
    (keyword.line []).apply ctx op = op := by
  cases keyword with
  | accept => simp [MediaKeyword.line, OperationLine.apply, retype_empty]
  | produce => simp [MediaKeyword.line, OperationLine.apply, Assoc.mapValues, retype_empty]

theorem apply_mediaLine_twice (hne : types ≠ []) (keyword : MediaKeyword)
    (earlier : List String) :
    (keyword.line types).apply ctx ((keyword.line earlier).apply ctx op) =
      (keyword.line types).apply ctx op := by
  cases keyword with
  | accept =>
    simp [MediaKeyword.line, OperationLine.apply, Function.comp_def, retype_retype hne]
  | produce =>
    simp [MediaKeyword.line, OperationLine.apply, Assoc.mapValues, Function.comp_def,
      retype_retype hne]

/-- **The last list of media types wins, and the schema stays.**  Of two lines with one keyword the
second one decides, unless its list is empty.  It gives its media types to every response, or to the
body, and changes nothing else; with an empty list it changes nothing at all.  Expanding a list is
idempotent. -/
theorem last_media_types_win (ctx : OperationContext) (op : Operation) :
    (∀ (keyword : MediaKeyword) (line line' list list' : String),
      keyword.Lists line list → keyword.Lists line' list' → mediaTypes list' ≠ [] →
      (op.applyLine ctx line).applyLine ctx line' = op.applyLine ctx line') ∧
    (∀ line list : String, MediaKeyword.produce.Lists line list → mediaTypes list ≠ [] →
      ∃ responses, op.applyLine ctx line = { op with responses } ∧
        List.Forall₂ (fun before after => after.1 = before.1 ∧
          after.2 = { before.2 with content := after.2.content } ∧
          Retyped (mediaTypes list) before.2.content after.2.content) op.responses responses) ∧
    (∀ line list : String, MediaKeyword.accept.Lists line list → mediaTypes list ≠ [] →
      ∃ requestBody, op.applyLine ctx line = { op with requestBody } ∧
        Option.Rel (fun before after => after = { before with content := after.content } ∧
          Retyped (mediaTypes list) before.content after.content) op.requestBody requestBody) ∧
    (∀ (keyword : MediaKeyword) (line list : String),
      keyword.Lists line list → mediaTypes list = [] → op.applyLine ctx line = op) ∧
    ∀ list : String, mediaTypes (join "," (mediaTypes list)) = mediaTypes list := by
  have hread : ∀ {keyword : MediaKeyword} {line list : String} (op : Operation),
      keyword.Lists line list →
      op.applyLine ctx line = (keyword.line (mediaTypes list)).apply ctx op := by
    intro keyword line list op h
    rw [applyLine, h.parse?]
  refine ⟨?_, ?_, ?_, ?_, mediaTypes_join⟩
  · intro keyword line line' list list' hline hline' hne
    rw [hread _ hline', hread _ hline, hread _ hline', apply_mediaLine_twice hne]
  · intro line list hline hne
    refine ⟨_, hread op hline, ?_⟩
    rw [Assoc.mapValues, List.forall₂_map_right_iff, List.forall₂_same]
    exact fun entry _ => ⟨rfl, rfl, retyped_retype hne entry.2.content⟩
  · intro line list hline hne
    refine ⟨_, hread op hline, ?_⟩
    cases op.requestBody with
    | none => exact .none
    | some body => exact .some ⟨rfl, retyped_retype hne body.content⟩
  · intro keyword line list hline hempty
    rw [hread op hline, hempty, apply_mediaLine_empty]

/-- Two lists behind each other for a response with content and one without, a list for the body,
and a list of nothing. -/
theorem pets_with_new_media_types :
    let pets : Assoc MediaType := [("application/json", { schema := some (.ref "Pet") })]
    let op : Operation :=
      { requestBody := some { required := true, content := pets }
        responses := [("200", { description := "Pets", content := pets }), ("204", {})] }
    mediaTypes "json, xml,json" = ["application/json", "text/xml", "application/json"] ∧
    (op.applyLine {} "@Produce png").applyLine {} "@Produce  json, xml,json" =
      op.applyLine {} "@Produce  json, xml,json" ∧
    (∃ responses, op.applyLine {} "@Produce  json, xml,json" = { op with responses } ∧
      responses.map (fun entry => Assoc.keys entry.2.content) =
        [["application/json", "text/xml"], []]) ∧
    (∃ body, op.applyLine {} "@Accept png" = { op with requestBody := some body } ∧
      Assoc.keys body.content = ["image/png"]) ∧
    op.applyLine {} "@Accept , ," = op := by
  intro pets op
  obtain ⟨htwice, hproduce, haccept, hempty, -⟩ := last_media_types_win {} op
  have hlist : mediaTypes "json, xml,json" =
      ["application/json", "text/xml", "application/json"] := by decide
  have hblank : ∀ c ∈ " ".toList, isBlank c = true := List.all_eq_true.mp (by decide)
  have hline : MediaKeyword.produce.Lists "@Produce  json, xml,json" "json, xml,json" :=
    ⟨by decide, "  ", List.all_eq_true.mp (by decide), by decide⟩
  obtain ⟨responses, hresponses, hforall⟩ := hproduce _ _ hline (by rw [hlist]; simp)
  obtain ⟨body, hbody, hrel⟩ := haccept "@Accept png" "png" ⟨by decide, " ", hblank, by decide⟩
    (by decide)
  refine ⟨hlist, ?_, ⟨responses, hresponses, ?_⟩, ?_, ?_⟩
  · exact htwice .produce "@Produce png" _ "png" _ ⟨by decide, " ", hblank, by decide⟩ hline
      (by rw [hlist]; simp)
  · cases hforall with
    | cons hfirst hrest =>
      cases hrest with
      | cons hsecond hnil =>
        cases hnil
        obtain ⟨-, -, -, hcontent⟩ := hfirst
        obtain ⟨-, -, hnone, -⟩ := hsecond
        rw [List.map_cons, List.map_singleton, (hcontent _ rfl).1, hnone rfl, hlist]
        decide
  · cases hrel with
    | some hnew =>
      exact ⟨_, hbody, ((hnew.2.2 _ rfl).1).trans (by decide)⟩
  · exact hempty .accept _ ", ," ⟨by decide, " ", hblank, by decide⟩ (by decide)

end Operation

end AnnotatedApi
