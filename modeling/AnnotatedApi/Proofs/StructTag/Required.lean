import AnnotatedApi.Proofs.StructTag.Pairs

/-!
Which fields their tags make required.

An explicit request comes first, then what makes a field optional, then the default
(`requiredByPrecedence`).  A request is looked for among the rules of the validation tags; the option
`omitempty` is looked for in the whole text of the JSON tag, and a property name may have that text in
it as well (`omits_imp_mentions`).  Main statement: `tags_require_by_precedence_iff`, the tags that
this decides otherwise.
-/

namespace AnnotatedApi

open Text

namespace StructTags

variable (value : String → Option String) (pointer byDefault : Bool)

/-! ### What the values of a tag ask for -/

/-- One of the rules of a validation tag is `required`, or the field is outright said to be. -/
def requests : Bool :=
  (value "binding").any (fun rules => (commaItems rules).contains "required") ||
    (value "validate").any (fun rules => (commaItems rules).contains "required") ||
    value "required" == some "true"

/-- One of the options behind the JSON name is `omitempty`. -/
def omits : Bool :=
  (value "json").any fun json => (commaItems json).tail.contains "omitempty"

/-- The JSON tag has the text `omitempty` somewhere. -/
def mentionsOmission : Bool :=
  (value "json").any (contains "omitempty" ·)

/-- Whether a field is required: a request counts most, then the option to leave out empty values and
pointers, then the default. -/
def requiredByPrecedence : Bool :=
  if requests value then true else if omits value || pointer then false else byDefault

/-- An option of the JSON tag is part of its text. -/
theorem omits_imp_mentions (h : omits value = true) : mentionsOmission value = true := by
  rw [omits, Option.any_eq_true] at h
  rw [mentionsOmission, Option.any_eq_true]
  obtain ⟨json, hjson, hoption⟩ := h
  have hmem : "omitempty" ∈ (commaItems json).tail := List.contains_iff_mem.mp hoption
  exact ⟨json, hjson, contains_of_mem_commaItems (List.mem_of_mem_tail hmem)⟩

/-! ### What reading a tag makes of them -/

theorem mentionsRequired_eq (rules : Option String) :
    mentionsRequired rules =
      (rules.map fun rules => (commaItems rules).contains "required").getD false := by
  cases rules <;> rfl

theorem required_parse (tag : String) :
    (parse tag).required = requests (tagValue? tag) := by
  have hrules (key : String) :
      mentionsRequired ((tagValue? tag key).filter (!·.isEmpty)) =
        (tagValue? tag key).any fun rules => (commaItems rules).contains "required" := by
    rw [mentionsRequired_eq, getD_map_filter_isEmpty (by decide)]
  rw [requests, ← hrules, ← hrules, ← filter_isEmpty_beq (by decide)]
  rfl

theorem omitEmpty_parse (tag : String) :
    (parse tag).omitEmpty = mentionsOmission (tagValue? tag) :=
  getD_map_filter_isEmpty (by decide) (tagValue? tag "json")

/-- Whether a field is required, for every text of a tag. -/
theorem isRequired_parse (tag : String) :
    (parse tag).isRequired pointer byDefault =
      if requests (tagValue? tag) then true
      else if mentionsOmission (tagValue? tag) || pointer then false else byDefault := by
  rw [isRequired, required_parse, omitEmpty_parse]

/-- The precedence is followed unless the JSON tag mentions `omitempty` elsewhere than among its
options, and nothing else settles the matter. -/
theorem isRequired_parse_eq_iff (tag : String) :
    (parse tag).isRequired pointer byDefault =
        requiredByPrecedence (tagValue? tag) pointer byDefault ↔
      (mentionsOmission (tagValue? tag) = true → omits (tagValue? tag) = true ∨
        requests (tagValue? tag) = true ∨ pointer = true ∨ byDefault = false) := by
  have himp := omits_imp_mentions (tagValue? tag)
  rw [isRequired_parse, requiredByPrecedence]
  revert himp
  generalize requests (tagValue? tag) = requested
  generalize omits (tagValue? tag) = omitted
  generalize mentionsOmission (tagValue? tag) = mentioned
  revert requested omitted mentioned pointer byDefault
  decide

/-! ### Tags written from pairs -/

/-- **In a tag of pairs, requests are the rule `required` of a validation tag and `required:"true"`,
and without one the text `omitempty` in the JSON tag, wherever it stands, or a pointer makes the
field optional.  This is the precedence of requests, options, pointers and the default iff a JSON tag
that mentions `omitempty` has it among its options, or the field is requested, a pointer or optional
by default anyway.** -/
theorem tags_require_by_precedence_iff {pairs : List (String × String)}
    (h : ∀ p ∈ pairs, IsTagKey p.1.toList ∧ '\x22' ∉ p.2.toList) :
    (parse (tagText pairs)).isRequired pointer byDefault =
        (if requests (Assoc.get? pairs) then true
        else if mentionsOmission (Assoc.get? pairs) || pointer then false else byDefault) ∧
      ((parse (tagText pairs)).isRequired pointer byDefault =
          requiredByPrecedence (Assoc.get? pairs) pointer byDefault ↔
        (mentionsOmission (Assoc.get? pairs) = true → omits (Assoc.get? pairs) = true ∨
          requests (Assoc.get? pairs) = true ∨ pointer = true ∨ byDefault = false)) := by
  have hvalues : tagValue? (tagText pairs) = Assoc.get? pairs :=
    funext (tagValue?_tagText h)
  constructor
  · rw [isRequired_parse, hvalues]
  · rw [← hvalues]
    exact isRequired_parse_eq_iff pointer byDefault (tagText pairs)

/-- A conditional rule is no request, and a validation tag may mention `omitempty`: the default
decides. -/
theorem conditional_rules_leave_the_default :
    let pairs := [("json", "nick"), ("validate", "omitempty, required_with=Email")]
    (∀ p ∈ pairs, IsTagKey p.1.toList ∧ '\x22' ∉ p.2.toList) ∧
      (parse (tagText pairs)).isRequired false true = true ∧
      (parse (tagText pairs)).isRequired false true =
        requiredByPrecedence (Assoc.get? pairs) false true := by
  intro pairs
  have hpairs : ∀ p ∈ pairs, IsTagKey p.1.toList ∧ '\x22' ∉ p.2.toList := by
    rw [List.forall_mem_cons, List.forall_mem_singleton]
    exact ⟨⟨⟨'j', "son".toList, rfl, rfl, List.all_eq_true.mp rfl⟩, by decide⟩,
      ⟨'v', "alidate".toList, rfl, rfl, List.all_eq_true.mp rfl⟩, by decide⟩
  have hmention : mentionsOmission (Assoc.get? pairs) = false := by decide
  obtain ⟨hvalue, hprecedence⟩ := tags_require_by_precedence_iff false true hpairs
  refine ⟨hpairs, ?_, hprecedence.mpr fun htrue => ?_⟩
  · rw [hvalue, hmention]
    decide
  · rw [hmention] at htrue
    cases htrue

/-- A property name that mentions `omitempty` makes the field optional, although it is no option. -/
theorem name_that_mentions_omission_is_optional :
    let pairs := [("json", "omitempty_count")]
    tagText pairs = "json:\x22omitempty_count\x22" ∧
      (parse (tagText pairs)).isRequired false true = false ∧
      requiredByPrecedence (Assoc.get? pairs) false true = true := by
  decide

end StructTags

end AnnotatedApi
