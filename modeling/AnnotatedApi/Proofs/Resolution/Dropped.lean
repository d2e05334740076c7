import AnnotatedApi.Proofs.Resolution.Contributions

/-!
Fields that their tags drop.

A field whose tag has `swaggerignore:"true"` or `json:"-"` adds nothing to the schema of its struct,
unless it embeds a named type: embedding is looked at before the tag, and adds a reference in any
case.  So taking out dropped fields that embed no named type changes no schema, at whatever depth of
inline structs they stand (`structSchema_withoutFields`).  Main statement:
`dropped_fields_leave_references_only`, which also says that taking out all dropped fields of a
struct changes its schema as soon as one of them embeds a named type.
-/

namespace AnnotatedApi

/-- The field is dropped, and it embeds no named type. -/
def FieldOf.LeavesNoTrace (field : Field) : Prop :=
  field.isDropped = true ∧ field.embeddedName? = none

/-- A field without a trace in the schema: it adds nothing. -/
theorem addField_of_leavesNoTrace {field : Field} (h : field.LeavesNoTrace) (rules : RecordRules)
    (typeSchema s : Schema) : addField rules typeSchema field s = s := by
  obtain ⟨hdropped, hname⟩ := h
  have hnone : field.contributions rules typeSchema = [] := by
    rw [FieldOf.contributions, if_pos (by simp [hdropped])]
  rw [addField_eq, hname, hnone, Option.toList_none, s.composedOf_nil, List.foldl_nil]

/-! ### Taking out fields -/

mutual

/-- The type without the fields that `p` tells, at every depth of inline structs. -/
def TypeExpr.without (p : Field → Bool) : TypeExpr → TypeExpr
  | .pointer target => .pointer (target.without p)
  | .slice element => .slice (element.without p)
  | .map key value => .map (key.without p) (value.without p)
  | .struct fields => .struct (withoutFields p fields)
  | e => e

/-- The fields without those that `p` tells, at every depth of inline structs. -/
def withoutFields (p : Field → Bool) : List (FieldOf TypeExpr) → List (FieldOf TypeExpr)
  | [] => []
  | ⟨names, type, tag, doc⟩ :: rest =>
    if p ⟨names, type, tag, doc⟩ then withoutFields p rest
    else ⟨names, type.without p, tag, doc⟩ :: withoutFields p rest

end

mutual

/-- All fields of inline structs in the type satisfy `P`, at every depth. -/
def TypeExpr.EveryField (P : Field → Prop) : TypeExpr → Prop
  | .pointer target => target.EveryField P
  | .slice element => element.EveryField P
  | .map key value => key.EveryField P ∧ value.EveryField P
  | .struct fields => EveryFieldOf P fields
  | _ => True

/-- All fields satisfy `P`, and so do those of the inline structs in their types. -/
def EveryFieldOf (P : Field → Prop) : List (FieldOf TypeExpr) → Prop
  | [] => True
  | ⟨names, type, tag, doc⟩ :: rest =>
    P ⟨names, type, tag, doc⟩ ∧ type.EveryField P ∧ EveryFieldOf P rest

end

mutual

theorem TypeExpr.everyField_of_forall {P : Field → Prop} (h : ∀ f, P f) :
    ∀ e : TypeExpr, e.EveryField P
  | .pointer target => TypeExpr.everyField_of_forall h target
  | .slice element => TypeExpr.everyField_of_forall h element
  | .map key value =>
    ⟨TypeExpr.everyField_of_forall h key, TypeExpr.everyField_of_forall h value⟩
  | .struct fields => everyFieldOf_of_forall h fields
  | .ident _ | .qualified _ _ | .interface | .unsupported _ => trivial

theorem everyFieldOf_of_forall {P : Field → Prop} (h : ∀ f, P f) :
    ∀ fields : List (FieldOf TypeExpr), EveryFieldOf P fields
  | [] => trivial
  | ⟨_, type, _, _⟩ :: rest =>
    ⟨h _, TypeExpr.everyField_of_forall h type, everyFieldOf_of_forall h rest⟩

end

/-- Taking out fields inside a type leaves what an embedded field shows of it. -/
theorem TypeExpr.name?_deref_without (p : Field → Bool) (e : TypeExpr) :
    (e.without p).deref.name? = e.deref.name? := by
  induction e using TypeExpr.deref.induct with
  | case1 target ih => rw [TypeExpr.without, TypeExpr.deref, TypeExpr.deref, ih]
  | case2 e hne =>
    cases e with
    | pointer target => exact absurd rfl (hne target)
    | _ => rfl

theorem TypeExpr.isPointer_without (p : Field → Bool) (e : TypeExpr) :
    (e.without p).isPointer = e.isPointer := by
  cases e <;> rfl

/-- A field adds the same when its type loses fields but keeps its schema. -/
theorem addField_without (p : Field → Bool) (rules : RecordRules) (typeSchema s : Schema)
    (names : List String) (type : TypeExpr) (tag : Option String) (doc : CommentGroup) :
    addField rules typeSchema ⟨names, type.without p, tag, doc⟩ s =
      addField rules typeSchema ⟨names, type, tag, doc⟩ s := by
  unfold addField FieldOf.isEmbedded
  dsimp only
  rw [TypeExpr.name?_deref_without, TypeExpr.isPointer_without]

namespace Resolver

/-- Fields that add nothing may be taken out of types and of lists of fields. -/
theorem resolve_and_addFields_without (r : Resolver) (v : Vocabulary) (p : Field → Bool) :
    (∀ e depth, e.EveryField (fun f => p f = true → f.LeavesNoTrace) →
      r.resolve v (e.without p) depth = r.resolve v e depth) ∧
    ∀ rules fields depth s, EveryFieldOf (fun f => p f = true → f.LeavesNoTrace) fields →
      r.addFields v rules (withoutFields p fields) depth s = r.addFields v rules fields depth s := by
  apply Resolver.resolve.mutual_induct r v
    (fun e depth => e.EveryField _ → r.resolve v (e.without p) depth = r.resolve v e depth)
    (fun rules fields depth s => EveryFieldOf _ fields →
      r.addFields v rules (withoutFields p fields) depth s = r.addFields v rules fields depth s)
  · intro e depth hend _
    unfold Resolver.resolve
    rw [if_pos hend, if_pos hend]
  · intro depth hgo name _
    rfl
  · intro depth hgo package name _
    rfl
  · intro depth hgo target ih h
    rw [TypeExpr.without, Resolver.resolve, Resolver.resolve, if_neg hgo, if_neg hgo, ih h]
  · intro depth hgo element ih h
    rw [TypeExpr.without, Resolver.resolve, Resolver.resolve, if_neg hgo, if_neg hgo, ih h]
  · intro depth hgo key value ih h
    rw [TypeExpr.EveryField] at h
    rw [TypeExpr.without, Resolver.resolve, Resolver.resolve, if_neg hgo, if_neg hgo, ih h.2]
  -- Inline structs: nothing in directives, the fields in source files.
  · intro depth hgo fields hv _
    subst hv
    rw [TypeExpr.without, Resolver.resolve, Resolver.resolve, if_neg hgo]
  · intro depth hgo fields rules hv ih h
    subst hv
    rw [TypeExpr.EveryField] at h
    rw [TypeExpr.without, Resolver.resolve, Resolver.resolve, if_neg hgo, if_neg hgo, ih h]
  · intro depth hgo _
    rfl
  · intro depth hgo text _
    rfl
  · intro rules depth s _
    rfl
  · intro rules names type tag doc rest depth s ihType ihRest h
    obtain ⟨hfield, htype, hrest⟩ := h
    rw [withoutFields, Resolver.addFields]
    split
    · next hp =>
      -- The field is taken out, and it would have added nothing.
      have hnothing := addField_of_leavesNoTrace (hfield hp) rules (r.resolve v type depth) s
      rw [hnothing] at ihRest ⊢
      exact ihRest hrest
    · rw [Resolver.addFields, addField_without, ihType htype, ihRest hrest]

theorem structSchema_withoutFields (r : Resolver) (rules : RecordRules) {p : Field → Bool}
    {fields : List Field} (h : EveryFieldOf (fun f => p f = true → f.LeavesNoTrace) fields)
    (doc : Option CommentGroup) (depth : Nat) :
    r.structSchema rules (withoutFields p fields) doc depth =
      r.structSchema rules fields doc depth :=
  (r.resolve_and_addFields_without (.source rules) p).2 rules fields depth _ h

/-! ### One level of fields -/

/-- Fields that add nothing may be taken out of a struct alone. -/
theorem addFields_filter (r : Resolver) (v : Vocabulary) (rules : RecordRules)
    {p : Field → Bool} {fields : List Field}
    (h : ∀ f ∈ fields, p f = false → f.LeavesNoTrace) (depth : Nat) (s : Schema) :
    r.addFields v rules (fields.filter p) depth s = r.addFields v rules fields depth s := by
  induction fields generalizing s with
  | nil => rfl
  | cons field rest ih =>
    have hrest := ih fun f hf => h f (List.mem_cons_of_mem field hf)
    cases hp : p field with
    | true => rw [List.filter_cons_of_pos hp, Resolver.addFields, Resolver.addFields, hrest]
    | false =>
      have hnothing := addField_of_leavesNoTrace (h field (by simp) hp) rules
        (r.resolve v field.type depth) s
      rw [List.filter_cons_of_neg (by simp [hp]), Resolver.addFields, hnothing, hrest]

/-- A struct refers to the named types that its fields embed, in their order. -/
theorem allOf_structSchema (r : Resolver) (rules : RecordRules) (fields : List Field)
    (doc : Option CommentGroup) (depth : Nat) :
    (r.structSchema rules fields doc depth).allOf =
      (fields.filterMap FieldOf.embeddedName?).map Schema.ref := by
  rw [structSchema_eq]

end Resolver

/-- **Dropped fields leave references only.**  Taking out all dropped fields, at every depth of
inline structs, leaves the schema of a struct as it is if none of them embeds a named type.  Of the
fields of the struct itself this is exact: the schema stays the same only if none of those that are
taken out embeds a named type.  In general those that embed no named type can be taken out. -/
theorem dropped_fields_leave_references_only (r : Resolver) (rules : RecordRules)
    (fields : List Field) (doc : Option CommentGroup) (depth : Nat) :
    (EveryFieldOf (fun f => f.isDropped = true → f.embeddedName? = none) fields →
      r.structSchema rules (withoutFields FieldOf.isDropped fields) doc depth =
        r.structSchema rules fields doc depth) ∧
    (r.structSchema rules (fields.filter (!·.isDropped)) doc depth =
        r.structSchema rules fields doc depth ↔
      ∀ f ∈ fields, f.isDropped = true → f.embeddedName? = none) ∧
    r.structSchema rules
        (withoutFields (fun f => f.isDropped && f.embeddedName?.isNone) fields) doc depth =
      r.structSchema rules fields doc depth := by
  refine ⟨fun h => ?_, ⟨fun h => ?_, fun h => ?_⟩, ?_⟩
  · refine r.structSchema_withoutFields rules ?_ doc depth
    have hsame : (fun f : Field => f.isDropped = true → f.LeavesNoTrace) =
        fun f : Field => f.isDropped = true → f.embeddedName? = none := by
      funext f
      exact propext (forall_congr' fun hdropped => and_iff_right hdropped)
    rw [hsame]
    exact h
  · -- Both schemas have as many references as there are embedded names.
    have hlength := congrArg (fun s : Schema => s.allOf.length) h
    simp only [r.allOf_structSchema, List.length_map, List.length_filterMap_eq_countP,
      List.countP_filter] at hlength
    have hsplit := List.countP_eq_countP_filter_add fields (fun f => f.embeddedName?.isSome)
      (fun f : Field => !f.isDropped)
    rw [List.countP_filter, List.countP_filter, hlength, Nat.left_eq_add,
      List.countP_eq_zero] at hsplit
    intro f hf hdropped
    simpa [hdropped] using hsplit f hf
  · exact r.addFields_filter (.source rules) rules
      (fun f hf hout => ⟨by simpa using hout, h f hf (by simpa using hout)⟩) depth _
  · refine r.structSchema_withoutFields rules (everyFieldOf_of_forall (fun f hout => ?_) fields)
      doc depth
    simpa [FieldOf.LeavesNoTrace] using hout

/-- A field that is hidden, and one that is ignored in an inline struct below a slice. -/
theorem fields_without_hidden_and_ignored :
    let token : Field :=
      { names := ["Token"], type := .ident "string", tag := some "swaggerignore:\x22TRUE\x22" }
    let price : Field := { names := ["Price"], type := .ident "float64" }
    let secret : Field := { names := ["Secret"], type := .ident "string", tag := some "json:\x22-\x22" }
    let lines : Field := { names := ["Lines"], type := .slice (.struct [token, price]) }
    let fields := [secret, lines]
    EveryFieldOf (fun f => f.isDropped = true → f.embeddedName? = none) fields ∧
    withoutFields FieldOf.isDropped fields =
      [{ names := ["Lines"], type := .slice (.struct [price]) }] ∧
    Resolver.structSchema {} {} [{ names := ["Lines"], type := .slice (.struct [price]) }] none 0 =
      Resolver.structSchema {} {} fields none 0 := by
  intro token price secret lines fields
  have hevery : EveryFieldOf (fun f => f.isDropped = true → f.embeddedName? = none) fields :=
    ⟨fun _ => rfl, trivial, fun _ => rfl, ⟨fun _ => rfl, trivial, fun _ => rfl, trivial, trivial⟩,
      trivial⟩
  have hwithout : withoutFields FieldOf.isDropped fields =
      [{ names := ["Lines"], type := .slice (.struct [price]) }] := by
    have hdropped : [secret, lines, token, price].map FieldOf.isDropped =
        [true, false, true, false] := by decide
    simp only [List.map_cons, List.map_nil, List.cons.injEq, and_true] at hdropped
    obtain ⟨hsecret, hlines, htoken, hprice⟩ := hdropped
    simp only [fields, secret, lines, token, price] at hsecret hlines htoken hprice ⊢
    simp [withoutFields, TypeExpr.without, hsecret, hlines, htoken, hprice]
  exact ⟨hevery, hwithout, hwithout ▸
    (dropped_fields_leave_references_only {} {} fields none 0).1 hevery⟩

/-- Two dropped fields that embed named types: one is ignored, one is hidden from JSON. Both leave a
reference in the schema. -/
theorem dropped_embedded_fields_are_composed :
    let base : Field :=
      { names := [], type := .ident "Base", tag := some "swaggerignore:\x22true\x22" }
    let audit : Field :=
      { names := [], type := .pointer (.qualified "log" "Audit"), tag := some "json:\x22-\x22" }
    let name : Field := { names := ["Name"], type := .ident "string" }
    let fields := [base, audit, name]
    fields.filter (!·.isDropped) = [name] ∧
    (Resolver.structSchema {} {} fields none 0).allOf = [.ref "Base", .ref "log.Audit"] ∧
    Resolver.structSchema {} {} (fields.filter (!·.isDropped)) none 0 ≠
      Resolver.structSchema {} {} fields none 0 := by
  intro base audit name fields
  have hdropped : fields.map FieldOf.isDropped = [true, true, false] := by decide
  simp only [fields, List.map_cons, List.map_nil, List.cons.injEq, and_true] at hdropped
  obtain ⟨hbase, haudit, hname⟩ := hdropped
  have hfilter : fields.filter (!·.isDropped) = [name] := by
    simp [fields, hbase, haudit, hname]
  have hall : (Resolver.structSchema {} {} fields none 0).allOf =
      [.ref "Base", .ref "log.Audit"] := Resolver.allOf_structSchema {} {} fields none 0
  refine ⟨hfilter, hall, fun heq => ?_⟩
  have hallOf := congrArg (fun s : Schema => s.allOf.length) heq
  simp only [hfilter, hall, Resolver.allOf_structSchema] at hallOf
  exact absurd hallOf (by decide)

end AnnotatedApi
