import AnnotatedApi.Proofs.Assoc
import AnnotatedApi.Proofs.Directive.Dispatch
import AnnotatedApi.Proofs.Directive.Readers

/-!
The lines that declare responses.

Three keywords declare a response, and behind each of them the same arguments stand
(`ResponseLine.Spells`), so the grammar is inverted once: the reader finds what is spelled and
nothing else (`responseLine?_eq_some_iff`).  The description is optional, and one that is empty
counts as absent (`Directive.Describes`).  A line that starts with one of the keywords is read by
that reader or not at all (`parse?_append_keyword`), so its effect does not depend on which of the
three it is.  Main statement: `response_lines_share_one_grammar`.
-/

namespace AnnotatedApi

open Text Directive Directive.Pattern

/-! ### The grammar -/

/-- The name of the directive. -/
def ResponseKeyword.name : ResponseKeyword → String
  | .success => "Success"
  | .failure => "Failure"
  | .response => "Response"

/-- What stands behind the type starts with blanks and a text in quotes, which is not empty. -/
def Directive.Describes (rest : List Char) (text : String) : Prop :=
  text ≠ "" ∧ '"' ∉ text.toList ∧
    ∃ b after, blanks.Matches b ∧ rest = b ++ '"' :: (text.toList ++ '"' :: after)

/-- The characters behind the keyword spell the arguments of `l`, with blanks in front of the
status, of the brace and of the type; `rest` is what stands behind the type. -/
structure ResponseLine.Spells (l : ResponseLine) (cs rest : List Char) : Prop where
  arguments : ∃ b₁ b₂ b₃ : List Char, (∀ b ∈ [b₁, b₂, b₃], blanks.Matches b) ∧
    cs = b₁ ++ l.status.toList ++
      (b₂ ++ '\x7b' :: (l.kind.toList ++ '\x7d' :: (b₃ ++ l.type.toList ++ rest)))
  status : digits.Matches l.status.toList
  kind : word.Matches l.kind.toList
  type : token.Matches l.type.toList
  /-- The type is the whole token. -/
  ends : ∀ c ∈ rest.head?, isBlank c = true
  description : Describes rest l.description ∨
    l.description = "Success" ∧ ∀ text, ¬Describes rest text

namespace Directive

variable {cs rest : List Char} {l : ResponseLine} {line : String}

theorem describes_iff {text : String} : Describes rest text ↔
    text ≠ "" ∧ ∃ after, (afterBlanks? rest).bind quoted? = some (text.toList, after) := by
  simp only [quoted_behind_blanks_eq_some_iff]
  constructor
  · rintro ⟨hne, hquote, b, after, hb, hrest⟩
    exact ⟨hne, after, b, hrest, hb, hquote⟩
  · rintro ⟨hne, after, b, hrest, hb, hquote⟩
    exact ⟨hne, hquote, b, after, hb, hrest⟩

/-- The description that stands behind the type, or else the usual one. -/
def descriptionOf (rest : List Char) : String :=
  match (afterBlanks? rest).bind quoted? with
  | some (text, _) => if text.isEmpty then "Success" else .ofList text
  | none => "Success"

theorem descriptionOf_eq_iff {description : String} : descriptionOf rest = description ↔
    Describes rest description ∨ description = "Success" ∧ ∀ text, ¬Describes rest text := by
  have husual : descriptionOf rest = "Success" → (∀ text, ¬Describes rest text) →
      (descriptionOf rest = description ↔
        Describes rest description ∨ description = "Success" ∧ ∀ text, ¬Describes rest text) := by
    intro hvalue hnone
    rw [hvalue]
    exact ⟨fun h => .inr ⟨h.symm, hnone⟩, fun h => (h.resolve_left (hnone _)).1.symm⟩
  cases hread : (afterBlanks? rest).bind quoted? with
  | none =>
    refine husual (by rw [descriptionOf, hread]) fun text h => ?_
    obtain ⟨-, after, htext⟩ := describes_iff.mp h
    rw [hread] at htext
    cases htext
  | some found =>
    obtain ⟨quoted, after⟩ := found
    -- Nothing but the text in quotes can be the description, and only if it is not empty.
    have hiff : ∀ text, Describes rest text ↔ text = String.ofList quoted ∧ quoted ≠ [] := by
      intro text
      rw [describes_iff, hread]
      constructor
      · rintro ⟨hne, after', h⟩
        obtain ⟨rfl, -⟩ := Prod.mk.inj (Option.some_inj.mp h)
        exact ⟨String.ofList_toList.symm, by simpa using hne⟩
      · rintro ⟨rfl, hne⟩
        exact ⟨by simpa using hne, after, by rw [String.toList_ofList]⟩
    by_cases hempty : quoted = []
    · refine husual (by rw [descriptionOf, hread, hempty]; rfl) fun text h => ?_
      exact ((hiff text).mp h).2 hempty
    · have hvalue : descriptionOf rest = String.ofList quoted := by
        rw [descriptionOf, hread]
        exact if_neg (by simpa using hempty)
      have hdescribes : Describes rest (String.ofList quoted) := (hiff _).mpr ⟨rfl, hempty⟩
      rw [hvalue]
      constructor
      · rintro rfl
        exact .inl hdescribes
      · rintro (h | ⟨-, hnone⟩)
        · exact ((hiff description).mp h).1.symm
        · exact absurd hdescribes (hnone _)

theorem statusAndWord?_eq_some_iff {status kind : String} :
    statusAndWord? cs = some (status, kind, rest) ↔
      digits.Matches status.toList ∧ word.Matches kind.toList ∧
        ∃ b₁ b₂, blanks.Matches b₁ ∧ blanks.Matches b₂ ∧
          cs = b₁ ++ status.toList ++ (b₂ ++ '\x7b' :: (kind.toList ++ '\x7d' :: rest)) := by
  have hopening : isBlank '\x7b' = false := by decide
  have hclosing : isWordChar '\x7d' = false := by decide
  simp only [statusAndWord?, Option.bind_eq_bind, Option.pure_def]
  constructor
  · intro h
    obtain ⟨⟨status, r₁⟩, hstatus, h⟩ := Option.bind_eq_some_iff.mp h
    obtain ⟨⟨kind, r₂⟩, hkind, hread⟩ := Option.bind_eq_some_iff.mp h
    obtain ⟨b₁, rfl, hb₁, hdigits, -⟩ :=
      (run_behind_blanks_eq_some_iff fun c => isBlank_of_isDecimalDigit).mp hstatus
    obtain ⟨b₂, rfl, hb₂, hword⟩ :=
      (bracketed_behind_blanks_eq_some_iff hopening hclosing).mp hkind
    obtain ⟨rfl, rfl, rfl⟩ : String.ofList status = _ ∧ String.ofList kind = _ ∧ r₂ = rest := by
      simpa using hread
    rw [String.toList_ofList, String.toList_ofList]
    exact ⟨hdigits, hword, b₁, b₂, hb₁, hb₂, rfl⟩
  · rintro ⟨hstatus, hkind, b₁, b₂, hb₁, hb₂, rfl⟩
    have hread : ∀ back, (afterBlanks? (b₁ ++ (status.toList ++ (b₂ ++ back)))).bind
        (run? isDecimalDigit) = some (status.toList, b₂ ++ back) :=
      run_between_blanks (fun c => isBlank_of_isDecimalDigit) hb₁ hstatus hb₂
    have hread' : (afterBlanks? (b₂ ++ '\x7b' :: (kind.toList ++ '\x7d' :: rest))).bind
        (bracketed? '\x7b' '\x7d') = some (kind.toList, rest) :=
      (bracketed_behind_blanks_eq_some_iff hopening hclosing).mpr ⟨b₂, rfl, hb₂, hkind⟩
    simp only [List.append_assoc, hread, hread', Option.bind_some, String.ofList_toList]

/-- What the reader finds is spelled. -/
theorem spells_of_responseLine? (h : responseLine? cs = some l) : ∃ rest, l.Spells cs rest := by
  simp only [responseLine?, Option.bind_eq_bind, Option.pure_def] at h
  obtain ⟨⟨status, kind, r₁⟩, hstart, h⟩ := Option.bind_eq_some_iff.mp h
  obtain ⟨⟨type, rest⟩, htype, hline⟩ := Option.bind_eq_some_iff.mp h
  obtain ⟨hstatus, hkind, b₁, b₂, hb₁, hb₂, rfl⟩ := statusAndWord?_eq_some_iff.mp hstart
  obtain ⟨b₃, rfl, hb₃, hwhole, hends⟩ :=
    (run_behind_blanks_eq_some_iff fun c => isBlank_of_not).mp htype
  obtain rfl := Option.some_inj.mp hline
  refine ⟨rest, ⟨⟨b₁, b₂, b₃, by simp [hb₁, hb₂, hb₃], ?_⟩, hstatus, hkind, ?_, ?_,
    descriptionOf_eq_iff.mp rfl⟩⟩
  · rw [String.toList_ofList]
  · rw [String.toList_ofList]
    exact hwhole
  · intro c hc
    simpa using hends c hc

/-- What is spelled is found. -/
theorem responseLine?_of_spells (h : l.Spells cs rest) : responseLine? cs = some l := by
  obtain ⟨b₁, b₂, b₃, hb, rfl⟩ := h.arguments
  obtain ⟨hb₁, hb₂, hb₃⟩ : blanks.Matches b₁ ∧ blanks.Matches b₂ ∧ blanks.Matches b₃ := by
    simpa using hb
  have hstart : ∀ back, statusAndWord? (b₁ ++ l.status.toList ++
      (b₂ ++ '\x7b' :: (l.kind.toList ++ '\x7d' :: back))) = some (l.status, l.kind, back) :=
    fun back => statusAndWord?_eq_some_iff.mpr ⟨h.status, h.kind, b₁, b₂, hb₁, hb₂, rfl⟩
  have htype : (afterBlanks? (b₃ ++ l.type.toList ++ rest)).bind token? =
      some (l.type.toList, rest) :=
    (run_behind_blanks_eq_some_iff fun c => isBlank_of_not).mpr
      ⟨b₃, rfl, hb₃, h.type, fun c hc => by simpa using h.ends c hc⟩
  have hdescription : descriptionOf rest = l.description :=
    descriptionOf_eq_iff.mpr h.description
  simp only [responseLine?, Option.bind_eq_bind, hstart, htype, Option.bind_some, Option.pure_def,
    String.ofList_toList]
  show some (ResponseLine.mk l.status l.kind l.type (descriptionOf rest)) = some l
  rw [hdescription]

theorem responseLine?_eq_some_iff : responseLine? cs = some l ↔ ∃ rest, l.Spells cs rest :=
  ⟨spells_of_responseLine?, fun ⟨_, h⟩ => responseLine?_of_spells h⟩

/-! ### The three keywords -/

theorem name_response (keyword : ResponseKeyword) (l : ResponseLine) :
    (OperationLine.response keyword l).name = keyword.name := by
  cases keyword <;> rfl

theorem name_eq_response_iff {parsed : OperationLine} {keyword : ResponseKeyword} :
    parsed.name = keyword.name ↔ ∃ l, parsed = .response keyword l := by
  constructor
  · intro h
    cases parsed with
    | response other l =>
      have hsame : other = keyword := by
        cases other <;> cases keyword <;> simp [OperationLine.name, ResponseKeyword.name] at h ⊢
      exact ⟨l, by rw [hsame]⟩
    | _ => cases keyword <;> simp [OperationLine.name, ResponseKeyword.name] at h
  · rintro ⟨l, rfl⟩
    exact name_response keyword l

/-- The entry of a keyword.  The entries differ in the keyword only. -/
def responseForm (keyword : ResponseKeyword) : Form OperationLine.name :=
  .of keyword.name .response (.response keyword) (name_response keyword)

theorem responseForm_mem (keyword : ResponseKeyword) :
    responseForm keyword ∈ operationTable.forms := by
  cases keyword <;> simp [operationTable, responseForm, ResponseKeyword.name]

/-- A response line is its keyword and what the reader finds behind it. -/
theorem parse?_eq_some_response_iff {keyword : ResponseKeyword} :
    OperationLine.parse? line = some (.response keyword l) ↔
      ∃ cs rest, line.toList = ("@" ++ keyword.name).toList ++ cs ∧ l.Spells cs rest := by
  rw [operationLine_parse?_eq_lookup,
    Table.lookup_eq_some_iff_of_name (responseForm_mem keyword) (name_response keyword l)]
  show (∃ cs, line.toList = ("@" ++ keyword.name).toList ++ cs ∧
    (responseLine? cs).map (OperationLine.response keyword) = some (.response keyword l)) ↔ _
  simp [responseLine?_eq_some_iff]

/-- Behind any of the keywords the same reader decides. -/
theorem parse?_append_keyword (keyword : ResponseKeyword) (rest : String) :
    OperationLine.parse? ("@" ++ keyword.name ++ rest) =
      (responseLine? rest.toList).map (.response keyword) := by
  have hlast : ∀ g ∈ operationTable.forms,
      (responseForm keyword).keyword.toList <+: g.keyword.toList → g.name = keyword.name := by
    cases keyword <;> decide
  rw [operationLine_parse?_eq_lookup]
  exact Table.lookup_append (responseForm_mem keyword) hlast rest

end Directive

/-! ### Effects -/

/-- What the arguments of a line say about the response that it declares. -/
structure Response.DeclaredBy (r : Resolver) (l : ResponseLine) (response : Response) : Prop where
  description : response.description = l.description
  headers : response.headers = []
  object : l.kind = "object" →
    response.content = [("application/json", { schema := some (r.resolveText l.type) })]
  array : l.kind = "array" →
    response.content = [("application/json", { schema := some (.array (r.resolveText l.type)) })]
  other : l.kind ≠ "object" → l.kind ≠ "array" → response.content = []

namespace Operation

variable {ctx : OperationContext} {op : Operation}

theorem declaredBy_responseOf (r : Resolver) (l : ResponseLine) :
    (responseOf r l).DeclaredBy r l := by
  unfold responseOf
  split
  · next hkind =>
    exact ⟨rfl, rfl, fun _ => rfl, fun h => by simp [hkind] at h, fun h => absurd hkind h⟩
  · next hkind =>
    exact ⟨rfl, rfl, fun h => by simp [hkind] at h, fun _ => rfl, fun _ h => absurd hkind h⟩
  · next hobject harray =>
    exact ⟨rfl, rfl, fun h => absurd h hobject, fun h => absurd h harray, fun _ _ => rfl⟩

/-- **Response lines share one grammar.**  Under each of the three keywords a line is a response
line if and only if it is spelled like one.  It records the response of its status in the place of
the old one, or behind all others, and nothing else changes; which of the keywords it has makes no
difference. -/
theorem response_lines_share_one_grammar (ctx : OperationContext) :
    (∀ (keyword : ResponseKeyword) (line : String),
      (OperationLine.parse? line).map OperationLine.name = some keyword.name ↔
        ∃ l cs rest, line.toList = ("@" ++ keyword.name).toList ++ cs ∧
          ResponseLine.Spells l cs rest) ∧
    (∀ (keyword : ResponseKeyword) (line : String) (l : ResponseLine) (cs rest : List Char)
      (op : Operation),
      line.toList = ("@" ++ keyword.name).toList ++ cs → l.Spells cs rest →
      ∃ (response : Response) (responses : Assoc Response),
        response.DeclaredBy ctx.resolver l ∧
        op.applyLine ctx line = { op with responses } ∧
        Assoc.get? responses l.status = some response ∧
        (∀ status, status ≠ l.status →
          Assoc.get? responses status = Assoc.get? op.responses status) ∧
        Assoc.keys responses = if l.status ∈ Assoc.keys op.responses then Assoc.keys op.responses
          else Assoc.keys op.responses ++ [l.status]) ∧
    ∀ (keyword keyword' : ResponseKeyword) (rest : String) (op : Operation),
      op.applyLine ctx ("@" ++ keyword.name ++ rest) =
        op.applyLine ctx ("@" ++ keyword'.name ++ rest) := by
  refine ⟨?_, ?_, ?_⟩
  · intro keyword line
    rw [Option.map_eq_some_iff]
    constructor
    · rintro ⟨parsed, hparsed, hname⟩
      obtain ⟨l, rfl⟩ := name_eq_response_iff.mp hname
      exact ⟨l, parse?_eq_some_response_iff.mp hparsed⟩
    · rintro ⟨l, hspells⟩
      exact ⟨.response keyword l, parse?_eq_some_response_iff.mpr hspells,
        name_response keyword l⟩
  · intro keyword line l cs rest op hcs hspells
    have hread : OperationLine.parse? line = some (.response keyword l) :=
      parse?_eq_some_response_iff.mpr ⟨cs, rest, hcs, hspells⟩
    refine ⟨responseOf ctx.resolver l, _, declaredBy_responseOf ctx.resolver l, ?_,
      Assoc.get?_insert_self _ _ _, ?_, Assoc.keys_insert _ _ _⟩
    · rw [applyLine, hread]
      rfl
    · intro status hstatus
      exact Assoc.get?_insert_of_ne _ _ (Ne.symm hstatus)
  · intro keyword keyword' rest op
    rw [applyLine, applyLine, parse?_append_keyword, parse?_append_keyword]
    cases responseLine? rest.toList <;> rfl

/-- A list of pets with a description, declared twice under one status. -/
theorem pets_declared_twice :
    let line := "@Success 200 \x7barray\x7d Pet  \"Pets\" // all of them"
    let l : ResponseLine :=
      { status := "200", kind := "array", type := "Pet", description := "Pets" }
    let op : Operation := { responses := [("200", { description := "Old" }), ("404", {})] }
    (OperationLine.parse? line).map OperationLine.name = some "Success" ∧
    (∃ (response : Response) (responses : Assoc Response), response.DeclaredBy {} l ∧
      op.applyLine {} line = { op with responses } ∧
      Assoc.get? responses "200" = some response ∧ Assoc.keys responses = ["200", "404"]) ∧
    op.applyLine {} line =
      op.applyLine {} "@Failure 200 \x7barray\x7d Pet  \"Pets\" // all of them" := by
  intro line l op
  obtain ⟨hname, heffect, hkeyword⟩ := response_lines_share_one_grammar {}
  have hblank : blanks.Matches [' '] := matches_run_of_all (by decide) (by decide)
  have hcs : line.toList = ("@" ++ ResponseKeyword.success.name).toList ++
      " 200 \x7barray\x7d Pet  \"Pets\" // all of them".toList := by decide
  have hdescribes : Describes "  \"Pets\" // all of them".toList "Pets" :=
    ⟨by decide, by decide, [' ', ' '], " // all of them".toList,
      matches_run_of_all (by decide) (by decide), by decide⟩
  have hspells : l.Spells " 200 \x7barray\x7d Pet  \"Pets\" // all of them".toList
      "  \"Pets\" // all of them".toList :=
    ⟨⟨[' '], [' '], [' '], by simp [hblank], by decide⟩,
      matches_run_of_all (by decide) (by decide), matches_run_of_all (by decide) (by decide),
      matches_run_of_all (by decide) (by decide), by simp [isBlank], .inl hdescribes⟩
  obtain ⟨response, responses, hresponse, hop, hget, -, hkeys⟩ :=
    heffect .success line l _ _ op hcs hspells
  exact ⟨(hname .success line).mpr ⟨l, _, _, hcs, hspells⟩,
    ⟨response, responses, hresponse, hop, hget, hkeys⟩,
    hkeyword .success .failure " 200 \x7barray\x7d Pet  \"Pets\" // all of them" op⟩

end Operation

end AnnotatedApi
