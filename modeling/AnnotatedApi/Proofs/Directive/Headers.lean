import AnnotatedApi.Proofs.Assoc
import AnnotatedApi.Proofs.Directive.Groups

/-!
The headers of responses.

A header of a response is settled by the last line that is about it: a header line of that status
and name declares it, and a line that declares the response of that status removes it, since it puts
a response without headers in the place of the old one (`OperationLine.settles?`, `headerAt_run`).
The response itself stays once there is one (`mem_keys_run`).  Main statement: a header is kept
exactly if the response is not declared after it (`header_kept_iff_response_not_declared_later`).
-/

namespace AnnotatedApi

/-- The effect of recognised lines. -/
def Operation.run (ctx : OperationContext) (op : Operation) (lines : List OperationLine) :
    Operation :=
  lines.foldl (fun op line => line.apply ctx op) op

namespace Operation

variable {ctx : OperationContext} {op : Operation}

theorem foldl_applyLine_eq_run (lines : List String) :
    lines.foldl (applyLine ctx) op = op.run ctx (lines.filterMap OperationLine.parse?) := by
  induction lines generalizing op with
  | nil => rfl
  | cons line rest ih =>
    rw [List.foldl_cons, ih, applyLine]
    cases hline : OperationLine.parse? line with
    | none => rw [List.filterMap_cons_none hline]
    | some l =>
      rw [List.filterMap_cons_some hline, run, run, List.foldl_cons]

theorem run_append (first second : List OperationLine) :
    op.run ctx (first ++ second) = (op.run ctx first).run ctx second :=
  List.foldl_append

/-- The header that a line declares. -/
def headerOf (r : Resolver) (line : HeaderLine) : Header :=
  { description := nonEmpty? line.description, schema := some (r.resolveText line.type) }

/-- A header of the response of a status. -/
def headerAt (op : Operation) (status name : String) : Option Header :=
  (Assoc.get? op.responses status).bind fun response => Assoc.get? response.headers name

end Operation

/-- What a line says about a header: nothing, that there is none, or which one it is. -/
def OperationLine.settles? (r : Resolver) (status name : String) :
    OperationLine → Option (Option Header)
  | .header line =>
    if line.status = status ∧ line.name = name then some (some (Operation.headerOf r line))
    else none
  | .response _ line => if line.status = status then some none else none
  | _ => none

namespace Operation

variable {ctx : OperationContext} {op : Operation}

/-! ### One line -/

/-- Lines of other groups leave the responses alone. -/
theorem responses_apply_of_ne {line : OperationLine} (hgroup : line.group? ≠ some .responses) :
    (line.apply ctx op).responses = op.responses :=
  agreeOn_apply_of_ne hgroup op

theorem group?_param_ne_responses (line : ParamLine) :
    (OperationLine.param line).group? ≠ some .responses := by
  rw [OperationLine.group?]
  split <;> simp

theorem mem_keys_of_headerAt {status name : String} {header : Header}
    (h : headerAt op status name = some header) : status ∈ Assoc.keys op.responses := by
  obtain ⟨response, hresponse, -⟩ := Option.bind_eq_some_iff.mp h
  exact List.mem_map.mpr ⟨_, Assoc.mem_of_get? hresponse, rfl⟩

theorem headers_responseOf (r : Resolver) (line : ResponseLine) :
    (responseOf r line).headers = [] := by
  unfold responseOf
  split <;> rfl

theorem headerAt_addHeader (r : Resolver) (line : HeaderLine) (status name : String) :
    headerAt (op.addHeader r line) status name =
      if line.status = status ∧ line.name = name then some (headerOf r line)
      else headerAt op status name := by
  rw [headerAt, headerAt, addHeader]
  dsimp only
  rw [Assoc.get?_alter]
  by_cases hstatus : line.status = status
  · subst hstatus
    rw [if_pos rfl, Option.bind_some, Assoc.get?_insert]
    by_cases hname : line.name = name
    · rw [if_pos hname, if_pos ⟨rfl, hname⟩]
      rfl
    · rw [if_neg hname, if_neg fun h => hname h.2]
      -- A response that is new has no other headers.
      cases Assoc.get? op.responses line.status <;> rfl
  · rw [if_neg hstatus, if_neg fun h => hstatus h.1]

/-- One line settles a header, or leaves it as it was. -/
theorem headerAt_apply (line : OperationLine) (status name : String) :
    headerAt (line.apply ctx op) status name =
      (line.settles? ctx.resolver status name).getD (headerAt op status name) := by
  cases line with
  | produce types =>
    rw [headerAt, headerAt, OperationLine.apply]
    dsimp only
    rw [Assoc.get?_mapValues]
    cases Assoc.get? op.responses status <;> rfl
  | response keyword line =>
    rw [headerAt, OperationLine.apply, OperationLine.settles?]
    dsimp only
    rw [Assoc.get?_insert]
    by_cases hstatus : line.status = status
    · rw [if_pos hstatus, if_pos hstatus, Option.bind_some, headers_responseOf]
      rfl
    · rw [if_neg hstatus, if_neg hstatus]
      rfl
  | header line =>
    rw [OperationLine.apply, headerAt_addHeader, OperationLine.settles?]
    split <;> rfl
  | param line =>
    rw [headerAt, responses_apply_of_ne (group?_param_ne_responses line)]
    rfl
  | _ =>
    rw [headerAt, responses_apply_of_ne (by simp [OperationLine.group?])]
    rfl

/-- A response stays once there is one. -/
theorem mem_keys_apply {status : String} (line : OperationLine)
    (h : status ∈ Assoc.keys op.responses) :
    status ∈ Assoc.keys (line.apply ctx op).responses := by
  cases line with
  | produce types =>
    rw [OperationLine.apply]
    dsimp only
    rw [Assoc.keys_mapValues]
    exact h
  | response keyword line => exact Assoc.mem_keys_insert h
  | header line => exact Assoc.mem_keys_insert h
  | param line =>
    rw [responses_apply_of_ne (group?_param_ne_responses line)]
    exact h
  | _ =>
    rw [responses_apply_of_ne (by simp [OperationLine.group?])]
    exact h

/-! ### Many lines -/

/-- A header after many lines is what the last line about it says. -/
theorem headerAt_run (ctx : OperationContext) (op : Operation) (lines : List OperationLine)
    (status name : String) :
    headerAt (op.run ctx lines) status name =
      (lines.reverse.findSome? (·.settles? ctx.resolver status name)).getD
        (headerAt op status name) := by
  induction lines using List.reverseRecOn with
  | nil => rfl
  | append_singleton lines line ih =>
    rw [run_append, run, List.foldl_cons, List.foldl_nil, headerAt_apply, ih,
      List.reverse_append, List.reverse_singleton, List.singleton_append, List.findSome?_cons]
    cases line.settles? ctx.resolver status name <;> rfl

theorem mem_keys_run {status : String} (lines : List OperationLine)
    (h : status ∈ Assoc.keys op.responses) : status ∈ Assoc.keys (op.run ctx lines).responses :=
  List.foldlRecOn (motive := fun op : Operation => status ∈ Assoc.keys op.responses) lines _ h
    fun _ hop line _ => mem_keys_apply line hop

/-- Among lines without the header itself, only a declaration of the response settles it. -/
theorem declares_of_settles? {r : Resolver} {line : OperationLine} {status name : String}
    {header : Option Header} (h : line.settles? r status name = some header)
    (hnot : ∀ other, line = .header other → ¬(other.status = status ∧ other.name = name)) :
    header = none ∧ ∃ keyword other, line = .response keyword other ∧ other.status = status := by
  cases line with
  | header other =>
    rw [OperationLine.settles?, if_neg (hnot other rfl)] at h
    simp at h
  | response keyword other =>
    rw [OperationLine.settles?] at h
    split at h
    · next hstatus => exact ⟨(Option.some_inj.mp h).symm, keyword, other, rfl, hstatus⟩
    · simp at h
  | _ => simp [OperationLine.settles?] at h

/-- The operation of a comment is what its recognised lines lead to, if there are any. -/
theorem ofComment?_eq_run (ctx : OperationContext) {doc : CommentGroup} {lines : List OperationLine}
    (hlines : doc.directives.filterMap OperationLine.parse? = lines) (hne : lines ≠ []) :
    ofComment? ctx doc = some (run ctx {} lines) := by
  have hdirectives : ¬doc.directives.isEmpty = true := by
    intro hempty
    rw [List.isEmpty_iff.mp hempty] at hlines
    exact hne hlines.symm
  rw [ofComment?, if_neg hdirectives, applyComment, foldl_applyLine_eq_run, hlines]

/-- **A header is kept exactly if its response is not declared after it.**  `line` is the last
header line for its status and name.  The response of its status is there in any case, and without
the header if a later line declares that response. -/
theorem header_kept_iff_response_not_declared_later (ctx : OperationContext) (doc : CommentGroup)
    (before after : List OperationLine) (line : HeaderLine)
    (hlines : doc.directives.filterMap OperationLine.parse? = before ++ .header line :: after)
    (hlast : ∀ other, .header other ∈ after →
      ¬(other.status = line.status ∧ other.name = line.name)) :
    ∃ op response, ofComment? ctx doc = some op ∧
      Assoc.get? op.responses line.status = some response ∧
      (Assoc.get? response.headers line.name =
        some { description := nonEmpty? line.description,
               schema := some (ctx.resolver.resolveText line.type) } ↔
        ∀ keyword other, .response keyword other ∈ after → other.status ≠ line.status) ∧
      (Assoc.get? response.headers line.name = none ↔
        ∃ keyword other, .response keyword other ∈ after ∧ other.status = line.status) := by
  have hoperation := ofComment?_eq_run ctx hlines (by simp)
  rw [run_append, run, List.foldl_cons, ← run] at hoperation
  -- Right after the line the header is there; what is left is what later lines do to it.
  generalize hdeclared : OperationLine.apply ctx (.header line) (run ctx {} before) = declared
    at hoperation
  have hstart : headerAt declared line.status line.name = some (headerOf ctx.resolver line) := by
    rw [← hdeclared, headerAt_apply, OperationLine.settles?, if_pos ⟨rfl, rfl⟩]
    rfl
  have hkey : line.status ∈ Assoc.keys (declared.run ctx after).responses :=
    mem_keys_run after (mem_keys_of_headerAt hstart)
  obtain ⟨response, hresponse⟩ : ∃ response,
      Assoc.get? (declared.run ctx after).responses line.status = some response :=
    Option.ne_none_iff_exists'.mp fun hnone => (Assoc.get?_eq_none_iff _ _).mp hnone hkey
  have hheader : Assoc.get? response.headers line.name =
      (after.reverse.findSome? (·.settles? ctx.resolver line.status line.name)).getD
        (some (headerOf ctx.resolver line)) := by
    rw [← hstart, ← headerAt_run, headerAt, hresponse, Option.bind_some]
  refine ⟨_, response, hoperation, hresponse, ?_⟩
  rw [hheader]
  cases hfound : after.reverse.findSome? (·.settles? ctx.resolver line.status line.name) with
  | none =>
    have hnone : ∀ keyword other, OperationLine.response keyword other ∈ after →
        other.status ≠ line.status := by
      intro keyword other hmem hstatus
      have hsilent := List.findSome?_eq_none_iff.mp hfound _ (List.mem_reverse.mpr hmem)
      simp [OperationLine.settles?, hstatus] at hsilent
    refine ⟨⟨fun _ => hnone, fun _ => rfl⟩, ⟨fun h => by simp at h, ?_⟩⟩
    rintro ⟨keyword, other, hmem, hstatus⟩
    exact absurd hstatus (hnone keyword other hmem)
  | some header =>
    obtain ⟨l, hl, hsettles⟩ := List.exists_of_findSome?_eq_some hfound
    have hafter : l ∈ after := List.mem_reverse.mp hl
    obtain ⟨rfl, keyword, other, rfl, hstatus⟩ := declares_of_settles? hsettles
      fun other hother => hlast other (hother ▸ hafter)
    refine ⟨⟨fun h => by simp at h, fun h => absurd hstatus (h keyword other hafter)⟩, ?_⟩
    exact ⟨fun _ => ⟨keyword, other, hafter, hstatus⟩, fun _ => rfl⟩

/-- A header line behind the declaration of its response, with new media types after it. -/
theorem header_behind_response_is_kept :
    let doc := CommentGroup.ofLines ["@Success 200 \x7bobject\x7d Pet",
      "@Header 200 \x7bstring\x7d X-Id \"Request\"", "@Produce xml"]
    let declaration : OperationLine := .response .success
      { status := "200", kind := "object", type := "Pet", description := "Success" }
    let line : HeaderLine :=
      { status := "200", type := "string", name := "X-Id", description := "Request" }
    doc.directives.filterMap OperationLine.parse? =
      [declaration] ++ .header line :: [.produce ["text/xml"]] ∧
    ∃ op response, ofComment? {} doc = some op ∧ Assoc.get? op.responses "200" = some response ∧
      Assoc.get? response.headers "X-Id" =
        some { description := some "Request",
               schema := some (Resolver.resolveText {} "string") } := by
  intro doc declaration line
  have hlines : doc.directives.filterMap OperationLine.parse? =
      [declaration] ++ .header line :: [.produce ["text/xml"]] := by decide +kernel
  obtain ⟨op, response, hop, hresponse, hkept, -⟩ :=
    header_kept_iff_response_not_declared_later {} doc [declaration] [.produce ["text/xml"]] line
      hlines (by simp)
  exact ⟨hlines, op, response, hop, hresponse, hkept.mpr (by simp)⟩

/-- The declaration of its response behind a header line takes the header away. -/
theorem header_lost_to_later_response :
    let doc := CommentGroup.ofLines
      ["@Header 200 \x7bstring\x7d X-Id \"Request\"", "@Success 200 \x7bobject\x7d Pet"]
    let line : HeaderLine :=
      { status := "200", type := "string", name := "X-Id", description := "Request" }
    .header line ∈ doc.directives.filterMap OperationLine.parse? ∧
    (ofComment? {} doc).map (fun op =>
      (Assoc.get? op.responses "200").map fun response => Assoc.keys response.headers) =
        some (some []) := by
  decide +kernel

end Operation

end AnnotatedApi
