import AnnotatedApi.Proofs.Assoc
import AnnotatedApi.Proofs.Directive.AttributeTexts
import AnnotatedApi.Proofs.Directive.DeclaredTypes
import AnnotatedApi.Proofs.Directive.Dispatch

/-!
The lines that declare parameters.

The grammar of such a line names its arguments one after another (`ParamLine.Spells`).  What the
reader finds is spelled (`spells_of_paramLine?`), and what is spelled is found
(`paramLine?_of_spells`).  What follows the description matters for its attributes only: those start
behind a blank, and further blanks in front of them make no difference (`trailingAttributes_eq`).
Main statement: a line is a parameter line exactly if it is spelled like one, and what it does can
be told from its arguments (`param_lines_are_exactly_their_grammar`).
-/

namespace AnnotatedApi

open Text Directive Directive.Pattern

/-! ### The grammar -/

/-- The characters behind the keyword spell the arguments of `l`, each with blanks in front of it;
`rest` is what stands behind the closing quote. -/
structure ParamLine.Spells (l : ParamLine) (cs rest : List Char) : Prop where
  arguments : ∃ b₁ b₂ b₃ b₄ b₅ : List Char,
    (∀ b ∈ [b₁, b₂, b₃, b₄, b₅], blanks.Matches b) ∧
    cs = b₁ ++ l.name.toList ++ (b₂ ++ l.location.toList ++ (b₃ ++ l.type.toList ++
      (b₄ ++ truthText l.required ++ (b₅ ++ '"' :: (l.description.toList ++ '"' :: rest)))))
  name : token.Matches l.name.toList
  location : word.Matches l.location.toList
  type : token.Matches l.type.toList
  description : '"' ∉ l.description.toList
  /-- Attributes are looked for behind a blank only. -/
  attributes : l.attributes =
    if rest.head?.any isBlank = true then Directive.attributes (.ofList rest) else []

namespace Directive

variable {cs rest : List Char} {l : ParamLine} {line : String}

/-- On a single line, the attributes are those of everything behind the description, if that starts
with a blank. -/
theorem trailingAttributes_eq (hrest : '\n' ∉ rest) : trailingAttributes rest =
    if rest.head?.any isBlank = true then attributes (.ofList rest) else [] := by
  unfold trailingAttributes
  cases hblank : rest.head?.any isBlank with
  | false =>
    have hnone : afterBlanks? rest = none := by
      cases rest with
      | nil => rfl
      | cons c cs => simpa [afterBlanks?] using hblank
    rw [hnone, if_neg Bool.false_ne_true]
  | true =>
    obtain ⟨cs, hcs⟩ : ∃ cs, afterBlanks? rest = some cs := by
      cases rest with
      | nil => cases hblank
      | cons c cs => exact ⟨cs.dropWhile isBlank, if_pos (by simpa using hblank)⟩
    obtain ⟨b, rfl, hb, -⟩ := afterBlanks?_eq_some_iff.mp hcs
    have hline : cs.takeWhile (· != '\n') = cs := by
      rw [List.takeWhile_eq_self_iff]
      intro c hc
      have hne : c ≠ '\n' := by
        rintro rfl
        exact hrest (List.mem_append_right b hc)
      simpa using hne
    rw [hcs, if_pos rfl, attributes_append_blanks hb.2]
    dsimp only
    rw [hline]

/-- What the reader finds is spelled. -/
theorem spells_of_paramLine? (hcs : '\n' ∉ cs) (h : paramLine? cs = some l) :
    ∃ rest, l.Spells cs rest := by
  simp only [paramLine?, Option.bind_eq_bind, Option.pure_def] at h
  obtain ⟨⟨name, r₁⟩, hname, h⟩ := Option.bind_eq_some_iff.mp h
  obtain ⟨⟨location, r₂⟩, hlocation, h⟩ := Option.bind_eq_some_iff.mp h
  obtain ⟨⟨type, r₃⟩, htype, h⟩ := Option.bind_eq_some_iff.mp h
  obtain ⟨⟨required, r₄⟩, hrequired, h⟩ := Option.bind_eq_some_iff.mp h
  obtain ⟨⟨description, rest⟩, hdescription, hline⟩ := Option.bind_eq_some_iff.mp h
  -- One reader after another, each with what the one before it left.
  obtain ⟨b₁, rfl, hb₁, hname, -⟩ :=
    (run_behind_blanks_eq_some_iff fun c => isBlank_of_not).mp hname
  obtain ⟨b₂, rfl, hb₂, hlocation, -⟩ :=
    (run_behind_blanks_eq_some_iff fun c => isBlank_of_isWordChar).mp hlocation
  obtain ⟨b₃, rfl, hb₃, htype, -⟩ :=
    (run_behind_blanks_eq_some_iff fun c => isBlank_of_not).mp htype
  obtain ⟨b₄, rfl, hb₄⟩ := truth_behind_blanks_eq_some_iff.mp hrequired
  obtain ⟨b₅, rfl, hb₅, hdescription⟩ := quoted_behind_blanks_eq_some_iff.mp hdescription
  obtain rfl := Option.some_inj.mp hline
  have hrest : '\n' ∉ rest := fun hmem => hcs (by simp [hmem])
  refine ⟨rest, ⟨⟨b₁, b₂, b₃, b₄, b₅, ?_, ?_⟩, ?_, ?_, ?_, ?_, trailingAttributes_eq hrest⟩⟩
  · simp [hb₁, hb₂, hb₃, hb₄, hb₅]
  · simp only [String.toList_ofList]
  all_goals
    rw [String.toList_ofList]
    assumption

/-- What is spelled is found. -/
theorem paramLine?_of_spells (hcs : '\n' ∉ cs) (h : l.Spells cs rest) :
    paramLine? cs = some l := by
  obtain ⟨b₁, b₂, b₃, b₄, b₅, hb, rfl⟩ := h.arguments
  obtain ⟨hb₁, hb₂, hb₃, hb₄, hb₅⟩ : blanks.Matches b₁ ∧ blanks.Matches b₂ ∧ blanks.Matches b₃ ∧
      blanks.Matches b₄ ∧ blanks.Matches b₅ := by simpa using hb
  have hrest : '\n' ∉ rest := fun hmem => hcs (by simp [hmem])
  -- One reader after another leaves what the next one starts with.
  have hname : ∀ back, (afterBlanks? (b₁ ++ (l.name.toList ++ (b₂ ++ back)))).bind token? =
      some (l.name.toList, b₂ ++ back) :=
    run_between_blanks (fun c => isBlank_of_not) hb₁ h.name hb₂
  have hlocation : ∀ back, (afterBlanks? (b₂ ++ (l.location.toList ++ (b₃ ++ back)))).bind
      (run? isWordChar) = some (l.location.toList, b₃ ++ back) :=
    run_between_blanks (fun c => isBlank_of_isWordChar) hb₂ h.location hb₃
  have htype : ∀ back, (afterBlanks? (b₃ ++ (l.type.toList ++ (b₄ ++ back)))).bind token? =
      some (l.type.toList, b₄ ++ back) :=
    run_between_blanks (fun c => isBlank_of_not) hb₃ h.type hb₄
  have hrequired : ∀ back, (afterBlanks? (b₄ ++ (truthText l.required ++ back))).bind truthAt? =
      some (l.required, back) := fun back =>
    truth_behind_blanks_eq_some_iff.mpr ⟨b₄, (List.append_assoc _ _ _).symm, hb₄⟩
  have hdescription :
      (afterBlanks? (b₅ ++ '"' :: (l.description.toList ++ '"' :: rest))).bind quoted? =
        some (l.description.toList, rest) :=
    quoted_behind_blanks_eq_some_iff.mpr ⟨b₅, rfl, hb₅, h.description⟩
  simp only [paramLine?, List.append_assoc, Option.bind_eq_bind, hname, hlocation, htype,
    hrequired, hdescription, Option.bind_some, Option.pure_def, String.ofList_toList,
    trailingAttributes_eq hrest, ← h.attributes]

theorem name_eq_param_iff {parsed : OperationLine} :
    parsed.name = "Param" ↔ ∃ l, parsed = .param l := by
  constructor
  · intro h
    cases parsed with
    | param l => exact ⟨l, rfl⟩
    | response keyword l => cases keyword <;> simp [OperationLine.name] at h
    | _ => simp [OperationLine.name] at h
  · rintro ⟨l, rfl⟩
    rfl

/-- A parameter line is the keyword and what the reader finds behind it. -/
theorem parse?_eq_some_param_iff : OperationLine.parse? line = some (.param l) ↔
    ∃ cs, line.toList = "@Param".toList ++ cs ∧ paramLine? cs = some l := by
  let form : Form OperationLine.name := .of "Param" .param .param fun _ => rfl
  have hform : form ∈ operationTable.forms := by simp [operationTable, form]
  rw [operationLine_parse?_eq_lookup, Table.lookup_eq_some_iff_of_name hform rfl]
  show (∃ cs, line.toList = "@Param".toList ++ cs ∧
    (paramLine? cs).map OperationLine.param = some (.param l)) ↔ _
  simp

theorem parse?_eq_some_param_iff_spells (hline : '\n' ∉ line.toList) :
    OperationLine.parse? line = some (.param l) ↔
      ∃ cs rest, line.toList = "@Param".toList ++ cs ∧ l.Spells cs rest := by
  have hbehind : ∀ {cs}, line.toList = "@Param".toList ++ cs → '\n' ∉ cs :=
    fun hcs hmem => hline (by simp [hcs, hmem])
  rw [parse?_eq_some_param_iff]
  constructor
  · rintro ⟨cs, hcs, hread⟩
    obtain ⟨rest, hspells⟩ := spells_of_paramLine? (hbehind hcs) hread
    exact ⟨cs, rest, hcs, hspells⟩
  · rintro ⟨cs, rest, hcs, hspells⟩
    exact ⟨cs, hcs, paramLine?_of_spells (hbehind hcs) hspells⟩

end Directive

/-! ### Effects -/

/-- The parameter of a line with its attributes applied from left to right. -/
def Parameter.attributed (r : Resolver) (l : ParamLine) : Parameter :=
  l.attributes.foldl (fun p a => p.applyAttribute a.1 a.2) (.bare r l)

/-- The collection format of a line: the last one among its attributes, or else the usual one. -/
def ParamLine.collectionFormat (ctx : OperationContext) (l : ParamLine) : CollectionFormat :=
  (Parameter.collectionFormat? l.attributes).getD ctx.collectionFormat

/-- What the arguments of a line say about the parameter that it declares.  The schema is that of
the type text, with the attributes applied from left to right; these may also set the flags and the
example, and the collection format gives style and explosion, which only arrays have. -/
structure Parameter.DeclaredBy (ctx : OperationContext) (l : ParamLine) (p : Parameter) : Prop where
  name : p.name = l.name
  location : p.location = l.location
  required : p.required = l.required
  description : p.description = if l.description = "" then none else some l.description
  schema : p.schema = (Parameter.attributed ctx.resolver l).schema
  styled : p.schema.bind (·.typeName?) = some "array" →
    l.location ∈ ["query", "header", "path", "cookie"] →
    p.style = some (l.collectionFormat ctx).style.1 ∧
      p.explode = some (l.collectionFormat ctx).style.2
  unstyled : ¬(p.schema.bind (·.typeName?) = some "array" ∧
    l.location ∈ ["query", "header", "path", "cookie"]) → p.style = none ∧ p.explode = none
  whole : p = (Parameter.attributed ctx.resolver l).applyFormat (l.collectionFormat ctx)

/-- What the arguments of a line say about the body, of which there may be one already.  Attributes
do not matter. -/
structure RequestBody.DeclaredBy (r : Resolver) (l : ParamLine) (old : Option RequestBody)
    (body : RequestBody) : Prop where
  entry : Assoc.get? body.content "application/json" =
    some { schema := some (r.resolveText l.type) }
  others : ∀ media, media ≠ "application/json" →
    Assoc.get? body.content media = old.bind fun b => Assoc.get? b.content media
  order :
    let before := (old.map fun b => Assoc.keys b.content).getD []
    Assoc.keys body.content =
      if "application/json" ∈ before then before else before ++ ["application/json"]
  created : old = none → body.required = l.required ∧
    body.description = if l.description = "" then none else some l.description
  kept : ∀ b, old = some b → body.required = b.required ∧ body.description = b.description

theorem nonEmpty?_eq (s : String) : nonEmpty? s = if s = "" then none else some s := by
  simp [nonEmpty?]

namespace Operation

open Parameter

variable {ctx : OperationContext} {op : Operation} {l : ParamLine}

theorem declaredBy_parameterOf (ctx : OperationContext) (l : ParamLine) :
    (parameterOf ctx l).DeclaredBy ctx l := by
  have hbare : (bare ctx.resolver l).schema = some (ctx.resolver.resolveText l.type) := rfl
  -- Whatever their texts are, attributes leave what the parameter is called and where it stands.
  have hattributed : attributed ctx.resolver l = _ := foldl_applyAttribute_eq hbare l.attributes
  have hwhole : parameterOf ctx l =
      (attributed ctx.resolver l).applyFormat (l.collectionFormat ctx) :=
    parameterOf_eq_foldl ctx l
  have hlocation : (attributed ctx.resolver l).location = l.location := by rw [hattributed]; rfl
  have hstyles : takesStyle l.location = true ↔
      l.location ∈ ["query", "header", "path", "cookie"] := by
    rw [takesStyle, List.contains_iff_mem]
  obtain ⟨style, explode, hformat⟩ :=
    applyFormat_eq (attributed ctx.resolver l) (l.collectionFormat ctx)
  have hschema : (parameterOf ctx l).schema = (attributed ctx.resolver l).schema := by
    rw [hwhole, hformat]
  refine ⟨?_, ?_, ?_, ?_, hschema, ?_, ?_, hwhole⟩
  · rw [hwhole, hformat, hattributed]
    rfl
  · rw [hwhole, hformat, hattributed]
    rfl
  · rw [hwhole, hformat, hattributed]
    rfl
  · rw [hwhole, hformat, hattributed]
    exact nonEmpty?_eq l.description
  · intro harray hmem
    rw [hschema] at harray
    rw [hwhole, applyFormat, if_pos (by simp [harray, hlocation, hstyles.mpr hmem])]
    exact ⟨rfl, rfl⟩
  · intro hnone
    rw [hschema, ← hstyles] at hnone
    rw [hwhole, applyFormat, if_neg (by simpa [hlocation] using hnone), hattributed]
    exact ⟨rfl, rfl⟩

theorem declaredBy_addBody (r : Resolver) (l : ParamLine) (op : Operation) :
    ∃ body : RequestBody, body.DeclaredBy r l op.requestBody ∧
      op.addBody r l = { op with requestBody := some body } := by
  refine ⟨_, ⟨Assoc.get?_insert_self _ _ _, ?_, ?_, ?_, ?_⟩, rfl⟩
  · intro media hmedia
    have hne : defaultMedia ≠ media := Ne.symm hmedia
    rw [Assoc.get?_insert_of_ne _ _ hne]
    cases op.requestBody <;> rfl
  · refine (Assoc.keys_insert _ _ _).trans ?_
    cases op.requestBody <;> rfl
  · intro hnone
    rw [hnone]
    exact ⟨rfl, nonEmpty?_eq l.description⟩
  · intro b hb
    rw [hb]
    exact ⟨rfl, rfl⟩

/-- **Parameter lines are exactly their grammar.**  A line is one if and only if it is spelled like
one.  It adds a parameter with what its arguments say, or if its location is `body` it sets an entry
of the body, and nothing else changes. -/
theorem param_lines_are_exactly_their_grammar (ctx : OperationContext) (line : String)
    (hline : '\n' ∉ line.toList) :
    ((OperationLine.parse? line).map OperationLine.name = some "Param" ↔
      ∃ l cs rest, line.toList = "@Param".toList ++ cs ∧ ParamLine.Spells l cs rest) ∧
    ∀ l cs rest, line.toList = "@Param".toList ++ cs → ParamLine.Spells l cs rest →
      ∀ op : Operation,
        (l.location ≠ "body" → ∃ p : Parameter, p.DeclaredBy ctx l ∧
          op.applyLine ctx line = { op with parameters := op.parameters ++ [p] }) ∧
        (l.location = "body" → ∃ body : RequestBody, body.DeclaredBy ctx.resolver l op.requestBody ∧
          op.applyLine ctx line = { op with requestBody := some body }) := by
  have hparse : ∀ {l}, OperationLine.parse? line = some (.param l) ↔
      ∃ cs rest, line.toList = "@Param".toList ++ cs ∧ ParamLine.Spells l cs rest :=
    parse?_eq_some_param_iff_spells hline
  constructor
  · rw [Option.map_eq_some_iff]
    constructor
    · rintro ⟨parsed, hparsed, hname⟩
      obtain ⟨l, rfl⟩ := name_eq_param_iff.mp hname
      exact ⟨l, hparse.mp hparsed⟩
    · rintro ⟨l, hspells⟩
      exact ⟨.param l, hparse.mpr hspells, rfl⟩
  · intro l cs rest hcs hspells op
    have hread : OperationLine.parse? line = some (.param l) := hparse.mpr ⟨cs, rest, hcs, hspells⟩
    constructor
    · intro hlocation
      exact ⟨parameterOf ctx l, declaredBy_parameterOf ctx l, applyLine_of_param hread hlocation⟩
    · intro hlocation
      obtain ⟨body, hbody, hop⟩ := declaredBy_addBody ctx.resolver l op
      refine ⟨body, hbody, ?_⟩
      rw [applyLine, hread, ← hop]
      exact if_pos (by simpa using hlocation)

/-- A line for a page number, with a bound behind the description, and a line for a body. -/
theorem page_number_and_pet_body :
    let line := "@Param page  query int false \"Page\" minimum(1)"
    let l : ParamLine :=
      { name := "page", location := "query", type := "int", required := false, description := "Page"
        attributes := [("minimum", "1")] }
    let bodyLine := "@Param pet body Pet true \"\""
    let pet : ParamLine :=
      { name := "pet", location := "body", type := "Pet", required := true, description := ""
        attributes := [] }
    ('\n' ∉ line.toList ∧ (OperationLine.parse? line).map OperationLine.name = some "Param" ∧
      ∃ p : Parameter, p.DeclaredBy {} l ∧ applyLine {} {} line = { parameters := [p] }) ∧
    '\n' ∉ bodyLine.toList ∧
      (OperationLine.parse? bodyLine).map OperationLine.name = some "Param" ∧
      ∃ body : RequestBody, body.DeclaredBy {} pet none ∧
        applyLine {} {} bodyLine = { requestBody := some body } := by
  intro line l bodyLine pet
  have hblank : blanks.Matches [' '] := matches_run_of_all (by decide) (by decide)
  have hblanks : blanks.Matches [' ', ' '] := matches_run_of_all (by decide) (by decide)
  have hline : '\n' ∉ line.toList := by decide
  have hspells : l.Spells " page  query int false \"Page\" minimum(1)".toList
      " minimum(1)".toList :=
    ⟨⟨[' '], [' ', ' '], [' '], [' '], [' '], by simp [hblank, hblanks], by decide⟩,
      matches_run_of_all (by decide) (by decide), matches_run_of_all (by decide) (by decide),
      matches_run_of_all (by decide) (by decide), by decide, by decide⟩
  have hbodyLine : '\n' ∉ bodyLine.toList := by decide
  have hbodySpells : pet.Spells " pet body Pet true \"\"".toList [] :=
    ⟨⟨[' '], [' '], [' '], [' '], [' '], by simp [hblank], by decide⟩,
      matches_run_of_all (by decide) (by decide), matches_run_of_all (by decide) (by decide),
      matches_run_of_all (by decide) (by decide), by decide, by decide⟩
  obtain ⟨hname, heffect⟩ := param_lines_are_exactly_their_grammar {} line hline
  obtain ⟨hbodyName, hbodyEffect⟩ := param_lines_are_exactly_their_grammar {} bodyLine hbodyLine
  exact ⟨⟨hline, hname.mpr ⟨l, _, _, by decide, hspells⟩,
      (heffect l _ _ (by decide) hspells {}).1 (by decide)⟩,
    hbodyLine, hbodyName.mpr ⟨pet, _, _, by decide, hbodySpells⟩,
      (hbodyEffect pet _ _ (by decide) hbodySpells {}).2 rfl⟩

end Operation

end AnnotatedApi
