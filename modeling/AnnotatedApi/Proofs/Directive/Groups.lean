import AnnotatedApi.Proofs.Directive.Steps

/-!
Lines that act on different parts of an operation.

Every recognised line but `@Router` belongs to a group (`OperationLine.group?`), and every group has
a part of the operation to itself (`Operation.AgreeOn`).  A line writes nothing but the part of its
group (`apply_eq_withPart`) and what it writes depends on nothing else (`AgreeOn.apply`), so the part
of a group after many lines is what the lines of that group make of it (`AgreeOn.foldl`).  Main
statement: lists that have the same lines in each group have the same effect, however the groups are
interleaved (`equal_groups_have_equal_effect`).
-/

namespace AnnotatedApi

/-- The groups of lines. -/
inductive LineGroup where
  | summary
  | description
  | id
  | tags
  | body
  | parameters
  | responses
  | security
  | deprecated
  | extensions
deriving DecidableEq, Repr

/-- The group of a recognised line.  Routes belong to none. -/
def OperationLine.group? : OperationLine → Option LineGroup
  | .summary _ => some .summary
  | .description _ => some .description
  | .id _ => some .id
  | .tags _ => some .tags
  | .accept _ => some .body
  | .param line => some (if line.location == "body" then .body else .parameters)
  | .produce _ | .response _ _ | .header _ => some .responses
  | .security _ _ => some .security
  | .deprecated => some .deprecated
  | .state _ | .codeSamples _ => some .extensions
  | .router _ _ => none

/-- The group of a line of a comment.  A line that is not recognised belongs to none. -/
def Directive.lineGroup? (line : String) : Option LineGroup :=
  (OperationLine.parse? line).bind (·.group?)

namespace Operation

variable {ctx : OperationContext} {g : LineGroup} {a b c op : Operation}

/-! ### Parts -/

/-- The operations have the same part for the group. -/
def AgreeOn (g : LineGroup) (a b : Operation) : Prop :=
  match g with
  | .summary => a.summary = b.summary
  | .description => a.description = b.description
  | .id => a.operationId = b.operationId
  | .tags => a.tags = b.tags
  | .body => a.requestBody = b.requestBody
  | .parameters => a.parameters = b.parameters
  | .responses => a.responses = b.responses
  | .security => a.security = b.security
  | .deprecated => a.deprecated = b.deprecated
  | .extensions => a.extensions = b.extensions

/-- The operation with the part of a group taken from another one. -/
def withPart (g : LineGroup) (source op : Operation) : Operation :=
  match g with
  | .summary => { op with summary := source.summary }
  | .description => { op with description := source.description }
  | .id => { op with operationId := source.operationId }
  | .tags => { op with tags := source.tags }
  | .body => { op with requestBody := source.requestBody }
  | .parameters => { op with parameters := source.parameters }
  | .responses => { op with responses := source.responses }
  | .security => { op with security := source.security }
  | .deprecated => { op with deprecated := source.deprecated }
  | .extensions => { op with extensions := source.extensions }

theorem AgreeOn.refl (g : LineGroup) (a : Operation) : AgreeOn g a a := by
  cases g <;> exact Eq.refl _

theorem AgreeOn.symm (h : AgreeOn g a b) : AgreeOn g b a := by
  cases g <;> exact Eq.symm h

theorem AgreeOn.trans (h : AgreeOn g a b) (h' : AgreeOn g b c) : AgreeOn g a c := by
  cases g <;> exact Eq.trans h h'

/-- The parts make up the operation. -/
theorem eq_of_agreeOn (h : ∀ g, AgreeOn g a b) : a = b := by
  have hsummary : a.summary = b.summary := h .summary
  have hdescription : a.description = b.description := h .description
  have hid : a.operationId = b.operationId := h .id
  have htags : a.tags = b.tags := h .tags
  have hbody : a.requestBody = b.requestBody := h .body
  have hparameters : a.parameters = b.parameters := h .parameters
  have hresponses : a.responses = b.responses := h .responses
  have hsecurity : a.security = b.security := h .security
  have hdeprecated : a.deprecated = b.deprecated := h .deprecated
  have hextensions : a.extensions = b.extensions := h .extensions
  cases a
  cases b
  simp_all only

theorem agreeOn_withPart_of_ne {g' : LineGroup} (hne : g' ≠ g) (source op : Operation) :
    AgreeOn g (withPart g' source op) op := by
  cases g' <;> cases g <;> simp [AgreeOn, withPart] at hne ⊢

/-! ### One line -/

/-- A line writes nothing but the part of its group. -/
theorem apply_eq_withPart {line : OperationLine} (hgroup : line.group? = some g) (op : Operation) :
    line.apply ctx op = withPart g (line.apply ctx op) op := by
  cases line with
  | router path method => simp [OperationLine.group?] at hgroup
  | param line =>
    rw [OperationLine.group?, Option.some_inj] at hgroup
    subst hgroup
    rw [OperationLine.apply, addParam]
    split <;> rfl
  | codeSamples text =>
    obtain rfl := Option.some_inj.mp hgroup
    rw [OperationLine.apply]
    rcases addCodeSample_cases ctx.content text op with hsame | ⟨value, hnew, -⟩
    · rw [hsame]
      rfl
    · rw [hnew]
      rfl
  | _ =>
    obtain rfl := Option.some_inj.mp hgroup
    rfl

/-- What a line writes to the part of its group depends on that part only. -/
theorem AgreeOn.apply {line : OperationLine} (hgroup : line.group? = some g) (h : AgreeOn g a b) :
    AgreeOn g (line.apply ctx a) (line.apply ctx b) := by
  cases line with
  | router path method => simp [OperationLine.group?] at hgroup
  | param line =>
    rw [OperationLine.group?, Option.some_inj] at hgroup
    subst hgroup
    rw [OperationLine.apply, OperationLine.apply, addParam, addParam]
    -- The location decides both the group and the part that is read and written.
    by_cases hbody : (line.location == "body") = true
    · rw [if_pos hbody] at h ⊢
      rw [if_pos hbody, if_pos hbody]
      have hpart : a.requestBody = b.requestBody := h
      simp only [AgreeOn, addBody, hpart]
    · rw [if_neg hbody] at h ⊢
      rw [if_neg hbody, if_neg hbody]
      have hpart : a.parameters = b.parameters := h
      simp only [AgreeOn, hpart]
  | codeSamples text =>
    obtain rfl := Option.some_inj.mp hgroup
    have hpart : a.extensions = b.extensions := h
    rw [OperationLine.apply, OperationLine.apply, addCodeSample, addCodeSample]
    split
    · exact hpart
    · dsimp only
      split
      · exact hpart
      · simp only [AgreeOn, hpart]
  | _ =>
    obtain rfl := Option.some_inj.mp hgroup
    simp only [AgreeOn] at h
    simp only [AgreeOn, OperationLine.apply, addDescription, addHeader, h]

/-- A line without a group has no effect. -/
theorem apply_of_group?_eq_none {line : OperationLine} (hgroup : line.group? = none)
    (op : Operation) : line.apply ctx op = op := by
  cases line with
  | router path method => rfl
  | _ => simp [OperationLine.group?] at hgroup

/-- A line leaves the parts of the other groups alone. -/
theorem agreeOn_apply_of_ne {line : OperationLine} (hgroup : line.group? ≠ some g)
    (op : Operation) : AgreeOn g (line.apply ctx op) op := by
  cases hline : line.group? with
  | none =>
    rw [apply_of_group?_eq_none hline]
    exact .refl g op
  | some g' =>
    have hne : g' ≠ g := fun heq => hgroup (heq ▸ hline)
    rw [apply_eq_withPart hline op]
    exact agreeOn_withPart_of_ne hne _ op

/-! ### Lines of comments -/

theorem applyLine_of_lineGroup?_eq_none {line : String} (hgroup : Directive.lineGroup? line = none)
    (op : Operation) : op.applyLine ctx line = op := by
  unfold applyLine
  split
  · next l hl =>
    rw [Directive.lineGroup?, hl, Option.bind_some] at hgroup
    exact apply_of_group?_eq_none hgroup op
  · rfl

theorem agreeOn_applyLine_of_ne {line : String} (hgroup : Directive.lineGroup? line ≠ some g)
    (op : Operation) : AgreeOn g (op.applyLine ctx line) op := by
  unfold applyLine
  split
  · next l hl =>
    rw [Directive.lineGroup?, hl, Option.bind_some] at hgroup
    exact agreeOn_apply_of_ne hgroup op
  · exact .refl g op

theorem AgreeOn.applyLine {line : String} (hgroup : Directive.lineGroup? line = some g)
    (h : AgreeOn g a b) : AgreeOn g (a.applyLine ctx line) (b.applyLine ctx line) := by
  obtain ⟨l, hl, hg⟩ := Option.bind_eq_some_iff.mp hgroup
  rw [Operation.applyLine, Operation.applyLine, hl]
  exact h.apply hg

/-- After many lines the part of a group is what the lines of the group make of it. -/
theorem AgreeOn.foldl (ctx : OperationContext) (h : AgreeOn g a b) (lines : List String) :
    AgreeOn g (lines.foldl (Operation.applyLine ctx) a)
      ((lines.filter (Directive.lineGroup? · = some g)).foldl (Operation.applyLine ctx) b) := by
  induction lines generalizing a b with
  | nil => exact h
  | cons line rest ih =>
    -- A line of the group is applied on both sides, any other line is applied on the left only.
    by_cases hgroup : Directive.lineGroup? line = some g
    · rw [List.filter_cons_of_pos (by simpa using hgroup), List.foldl_cons, List.foldl_cons]
      exact ih (h.applyLine hgroup)
    · rw [List.filter_cons_of_neg (by simpa using hgroup), List.foldl_cons]
      exact ih ((agreeOn_applyLine_of_ne hgroup a).trans h)

/-- **The groups of lines are independent.**  Lines without a group have no effect, and from any
operation on, lists with the same lines in each group lead to the same operation. -/
theorem equal_groups_have_equal_effect (ctx : OperationContext) (op : Operation) :
    (∀ line, Directive.lineGroup? line = none → op.applyLine ctx line = op) ∧
    ∀ lines lines' : List String,
      (∀ g, lines.filter (Directive.lineGroup? · = some g) =
        lines'.filter (Directive.lineGroup? · = some g)) →
      lines.foldl (applyLine ctx) op = lines'.foldl (applyLine ctx) op := by
  refine ⟨fun line hline => applyLine_of_lineGroup?_eq_none hline op, fun lines lines' heq => ?_⟩
  refine eq_of_agreeOn fun g => ?_
  have hlines := (AgreeOn.refl g op).foldl ctx lines
  have hlines' := (AgreeOn.refl g op).foldl ctx lines'
  rw [heq g] at hlines
  exact hlines.trans hlines'.symm

/-- The media types of a body are set behind its declaration, in two orders with a summary. -/
theorem effect_of_interleaved_groups :
    let lines := ["@Param pet body Pet true \"\"", "@Accept xml", "@Summary Update"]
    let lines' := ["@Summary Update", "@Param pet body Pet true \"\"", "godoc", "@Accept xml"]
    Directive.lineGroup? "godoc" = none ∧
    (∀ g, lines.filter (Directive.lineGroup? · = some g) =
      lines'.filter (Directive.lineGroup? · = some g)) ∧
    lines.foldl (applyLine {}) {} = lines'.foldl (applyLine {}) {} := by
  intro lines lines'
  have hbody : Directive.lineGroup? "@Param pet body Pet true \"\"" = some .body := by
    decide
  have haccept : Directive.lineGroup? "@Accept xml" = some .body := by decide
  have hsummary : Directive.lineGroup? "@Summary Update" = some .summary := by decide
  have hgodoc : Directive.lineGroup? "godoc" = none := by decide
  have hgroups : ∀ g, lines.filter (Directive.lineGroup? · = some g) =
      lines'.filter (Directive.lineGroup? · = some g) := by
    intro g
    cases g <;> simp [lines, lines', hbody, haccept, hsummary, hgodoc]
  exact ⟨hgodoc, hgroups, (equal_groups_have_equal_effect {} {}).2 lines lines' hgroups⟩

end Operation

end AnnotatedApi
