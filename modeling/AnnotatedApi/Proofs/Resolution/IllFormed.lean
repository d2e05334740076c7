import AnnotatedApi.Proofs.Resolution.Replacement
import AnnotatedApi.Proofs.TypeExpr.Reader

/-!
Type texts in directives that fit no production.

A text that spells no type is unsupported as a whole and has the empty schema, unless it breaks off
inside a type that it opens (`TypeExpr.BreaksOff`).  Then the pointers, slices and maps in front of
the place where the reader is stuck are kept, and only pointers leave the schema empty
(`Resolver.resolve_of_breaksOff_eq_empty_iff`).  Main statement: `ill_formed_text_is_unsupported_iff`.
-/

namespace AnnotatedApi

open Text TypeExpr

/-- Behind its pointers, a type that breaks off is unsupported as a whole, or a slice or a map. -/
theorem TypeExpr.BreaksOff.deref_cases {whole : String} {e : TypeExpr} {cs : List Char}
    (h : BreaksOff whole e cs) :
    e.deref = .unsupported whole ∨ (∃ element, e.deref = .slice element) ∨
      ∃ key value, e.deref = .map key value := by
  induction h with
  | stuck _ => exact .inl rfl
  | pointer _ ih => exact ih
  | @slice element _ _ _ _ _ => exact .inr (.inl ⟨element, rfl⟩)
  | @map key value _ _ _ _ _ => exact .inr (.inr ⟨key, value, rfl⟩)

namespace Resolver

/-- Resolution never gives up at the outermost type. -/
theorem isExhausted_zero (r : Resolver) : r.isExhausted 0 = false := by
  unfold isExhausted
  by_cases h : 0 < r.maxDepth
  · simp [h, Nat.not_le.mpr h]
  · simp [h]

/-- Of what a text that breaks off opens, slices and maps show in the schema, and pointers do not. -/
theorem resolve_of_breaksOff_eq_empty_iff (r : Resolver) {whole : String} {e : TypeExpr}
    {cs : List Char} (h : BreaksOff whole e cs) :
    r.resolve .directive e 0 = {} ↔ e.deref = .unsupported whole := by
  have hgo : ¬ r.isExhausted 0 = true := by simp [r.isExhausted_zero]
  have htype : ∀ {s : Schema}, s.type ≠ none → s ≠ {} := fun hne heq => hne (heq ▸ rfl)
  rw [← r.resolve_deref]
  rcases h.deref_cases with hwhole | ⟨element, hslice⟩ | ⟨key, value, hmap⟩
  · rw [hwhole, resolve, if_neg hgo]
    exact ⟨fun _ => rfl, fun _ => rfl⟩
  · rw [hslice, resolve, if_neg hgo]
    exact ⟨fun hempty => absurd hempty (htype (by simp [Schema.array])), by simp⟩
  · rw [hmap, resolve, if_neg hgo]
    exact ⟨fun hempty => absurd hempty (htype (by simp [Schema.mapOf])), by simp⟩

end Resolver

/-- **A text that spells no type is unsupported as a whole iff it does not break off inside another
type.**  If it does, what it opens is kept around the unsupported text, and the schema is empty iff it
opens nothing but pointers. -/
theorem ill_formed_text_is_unsupported_iff (text : String)
    (h : ∀ e : TypeExpr, ¬ e.Spells (trim text).toList) :
    (∀ e, BreaksOff (trim text) e (trim text).toList → read text = e) ∧
    (read text = .unsupported (trim text) ↔
      ∀ e, BreaksOff (trim text) e (trim text).toList → e = .unsupported (trim text)) ∧
    ∀ r : Resolver, r.resolveText text = {} ↔
      ∀ e, BreaksOff (trim text) e (trim text).toList → e.deref = .unsupported (trim text) := by
  have hread : ∀ e, BreaksOff (trim text) e (trim text).toList → read text = e :=
    fun e hbroken => read_of_breaksOff hbroken
  have hcases : BreaksOff (trim text) (read text) (trim text).toList ∨
      read text = .unsupported (trim text) :=
    (read_cases text).resolve_left (h (read text))
  refine ⟨hread, ⟨fun hwhole e hbroken => ?_, fun hall => ?_⟩,
    fun r => ⟨fun hempty e hbroken => ?_, fun hall => ?_⟩⟩
  · rw [← hread e hbroken]
    exact hwhole
  · rcases hcases with hbroken | hwhole
    · exact hall (read text) hbroken
    · exact hwhole
  · rw [Resolver.resolveText, hread e hbroken] at hempty
    exact (r.resolve_of_breaksOff_eq_empty_iff hbroken).mp hempty
  · rw [Resolver.resolveText]
    rcases hcases with hbroken | hwhole
    · exact (r.resolve_of_breaksOff_eq_empty_iff hbroken).mpr (hall (read text) hbroken)
    · rw [hwhole, Resolver.resolve, r.isExhausted_zero]
      rfl

/-- A slice of pointers without a name keeps the slice and the pointer. -/
theorem unnamed_element_keeps_slice :
    let e : TypeExpr := .slice (.pointer (.unsupported "[4]*(User)"))
    (∀ d : TypeExpr, ¬ d.Spells (trim "[4]*(User)").toList) ∧
    BreaksOff (trim "[4]*(User)") e (trim "[4]*(User)").toList ∧
    read "[4]*(User)" = e ∧ read "[4]*(User)" ≠ .unsupported (trim "[4]*(User)") ∧
    Resolver.resolveText {} "[4]*(User)" ≠ {} := by
  intro e
  have htrim : trim "[4]*(User)" = "[4]*(User)" := by decide
  have hstuck : Stuck "(User)".toList := .start fun c rest hcons => by
    obtain rfl : '(' = c := (List.cons.inj hcons).1
    decide +kernel
  have hbroken : BreaksOff (trim "[4]*(User)") e (trim "[4]*(User)").toList := by
    rw [htrim]
    have hlength : ∀ c ∈ ['4'], isLengthChar c = true := List.all_eq_true.mp (by decide)
    exact .slice hlength (.pointer (.stuck hstuck))
  have hill : ∀ d : TypeExpr, ¬ d.Spells (trim "[4]*(User)").toList := by
    intro d hspells
    have hd : d = e := (read_of_spells hspells).symm.trans (read_of_breaksOff hbroken)
    exact hbroken.not_isSupported (hd ▸ hspells.isSupported)
  have hne : e ≠ .unsupported (trim "[4]*(User)") := nofun
  have hderef : e.deref ≠ .unsupported (trim "[4]*(User)") := nofun
  obtain ⟨hread, hwhole, hempty⟩ := ill_formed_text_is_unsupported_iff "[4]*(User)" hill
  exact ⟨hill, hbroken, hread e hbroken, fun h => hne (hwhole.mp h e hbroken),
    fun h => hderef ((hempty {}).mp h e hbroken)⟩

/-- A map without a value type spells no type. Still the map is kept, and it has a schema of its
own. -/
theorem map_without_value_is_kept :
    (∀ e : TypeExpr, ¬ e.Spells (trim "map[string]").toList) ∧
    read "map[string]" = .map (.ident "string") (.unsupported "map[string]") ∧
    read "map[string]" ≠ .unsupported (trim "map[string]") ∧
    Resolver.resolveText {} "map[string]" = .mapOf {} ∧
    Resolver.resolveText {} "map[string]" ≠ {} := by
  have hread : read "map[string]" = .map (.ident "string") (.unsupported "map[string]") := rfl
  have hschema : Resolver.resolveText {} "map[string]" = .mapOf {} := rfl
  refine ⟨fun e hspells => ?_, hread, fun h => ?_, hschema, fun h => ?_⟩
  · have hsupported := hspells.isSupported
    rw [← read_of_spells hspells, hread] at hsupported
    cases hsupported with
    | map _ hvalue => nomatch hvalue
  · rw [hread] at h
    cases h
  · rw [hschema] at h
    exact absurd (congrArg (fun s : Schema => s.type) h) (by decide)

end AnnotatedApi
