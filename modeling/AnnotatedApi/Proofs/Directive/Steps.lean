import AnnotatedApi.Directive.Operation
import AnnotatedApi.Proofs.Assoc

/-!
What the effect of a line can be.

New media types replace content as a whole, by the schema of its first entry, or leave it alone
(`retype_cases`).  A code sample writes one extension, or none (`Operation.addCodeSample_cases`).
What every recognised line keeps, a comment keeps (`Operation.applyComment_induction`).
-/

namespace AnnotatedApi

/-! ### New media types -/

theorem retype_empty (content : Assoc MediaType) : retype [] content = content := by
  cases content <;> rfl

/-- Equal values under the given keys. -/
theorem retype_cons {types : List String} (hne : types ≠ []) (first : String × MediaType)
    (rest : Assoc MediaType) :
    retype types (first :: rest) =
      Assoc.ofEntries (types.map fun type => (type, { schema := first.2.schema })) := by
  rw [retype, if_neg (by simpa using hne)]

theorem retype_cases (types : List String) (content : Assoc MediaType) :
    retype types content = content ∨
      types ≠ [] ∧ ∃ first ∈ content, retype types content =
        Assoc.ofEntries (types.map fun type => (type, { schema := first.2.schema })) := by
  cases content with
  | nil => exact .inl rfl
  | cons first rest =>
    by_cases htypes : types = []
    · exact .inl (htypes ▸ retype_empty _)
    · exact .inr ⟨htypes, first, List.mem_cons_self, retype_cons htypes first rest⟩

theorem retype_ne_nil {types : List String} {content : Assoc MediaType} (h : content ≠ []) :
    retype types content ≠ [] := by
  rcases retype_cases types content with hsame | ⟨htypes, first, -, hnew⟩
  · rwa [hsame]
  · rw [hnew]
    exact Assoc.ofEntries_ne_nil (by simpa using htypes)

/-- New media types have nothing but a schema, and one that was there before. -/
theorem forall_mem_retype {P : MediaType → Prop} {content : Assoc MediaType} (types : List String)
    (h : ∀ e ∈ content, P e.2) (hschema : ∀ e ∈ content, P { schema := e.2.schema }) :
    ∀ e ∈ retype types content, P e.2 := by
  rcases retype_cases types content with hsame | ⟨-, first, hfirst, hnew⟩
  · rwa [hsame]
  · rw [hnew]
    refine Assoc.forall_mem_ofEntries fun e he => ?_
    obtain ⟨type, -, rfl⟩ := List.mem_map.mp he
    exact hschema first hfirst

/-- Distinct media types stay distinct. -/
theorem nodup_keys_retype {content : Assoc MediaType} (types : List String)
    (h : (Assoc.keys content).Nodup) : (Assoc.keys (retype types content)).Nodup := by
  rcases retype_cases types content with hsame | ⟨-, first, -, hnew⟩
  · rwa [hsame]
  · rw [hnew]
    exact Assoc.nodup_keys_ofEntries _

namespace Operation

/-! ### Code samples -/

/-- The sample is appended to the samples so far; anything but a list of samples stays. -/
theorem addCodeSample_cases (content : ContentStore) (text : String) (op : Operation) :
    op.addCodeSample content text = op ∨ ∃ value,
      op.addCodeSample content text =
        { op with extensions := Assoc.insert op.extensions codeSamplesKey value } ∧
      (Assoc.get? op.extensions codeSamplesKey = some value ∨ ∃ items language source,
        value = .arr (items ++ [codeSample language source]) ∧
        (items = [] ∨ Assoc.get? op.extensions codeSamplesKey = some (.arr items))) := by
  unfold addCodeSample
  split
  · exact .inl rfl
  · dsimp only
    split
    · exact .inl rfl
    · refine .inr ⟨_, rfl, ?_⟩
      split
      · next items hitems => exact .inr ⟨items, _, _, rfl, .inr hitems⟩
      · next hother => exact .inl hother
      · exact .inr ⟨[], _, _, rfl, .inl rfl⟩

/-! ### Comments -/

theorem applyComment_induction {P : Operation → Prop} {ctx : OperationContext}
    (hstep : ∀ op text line, OperationLine.parse? text = some line → P op → P (line.apply ctx op))
    (doc : CommentGroup) {op : Operation} (h : P op) : P (op.applyComment ctx doc) := by
  refine List.foldlRecOn doc.directives _ h fun op hop text _ => ?_
  unfold applyLine
  split
  · next line hline => exact hstep op text line hline hop
  · exact hop

end Operation

end AnnotatedApi
