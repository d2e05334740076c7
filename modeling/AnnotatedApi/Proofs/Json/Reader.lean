import AnnotatedApi.Json.Reader
import AnnotatedApi.Proofs.Decimal
import AnnotatedApi.Proofs.Json.Tree
import Mathlib.Data.String.Basic

/-!
The trees of JSON texts.

All numbers that are read from a text are whole numbers of 64 bits or finite doubles
(`proper_of_read?`), and putting the fields of objects into order leaves no key twice
(`distinctKeys_sorted`) and every number as it was (`proper_sorted`).
-/

namespace AnnotatedApi.Json

open Decimal (Binary64 digitRun)

/-! ### Numbers -/

/-- The powers of ten that doubles are scaled by are at least one. -/
theorem ratio_ofNat_pow {k : Nat} (hk : k ≤ maxPower) :
    ∃ c d, (Binary64.ofNat (Nat.pow 10 k)).ratio = some (c, d) ∧ 0 < d ∧ d ≤ c := by
  have hall : ((List.range (maxPower + 1)).all fun k =>
      (Binary64.ofNat (Nat.pow 10 k)).ratio.any fun r => 0 < r.2 && r.2 ≤ r.1) = true := by
    decide +kernel
  have hpower := List.all_eq_true.mp hall k (List.mem_range.mpr (by omega))
  obtain ⟨⟨c, d⟩, hratio, hcd⟩ := (Option.any_eq_true _ _).mp hpower
  exact ⟨c, d, hratio, by simpa using hcd⟩

/-- Scaling a double of moderate size gives a finite one. -/
theorem isFinite_scaleBy {x y : Binary64} {e : Int} {fuel k : Nat} (hk : k + fuel ≤ 1022)
    (hx : x.Below k) (h : scaleBy x e fuel = some y) : y.isFinite = true := by
  induction fuel generalizing x e k with
  | zero =>
    cases h
    rfl
  | succ fuel ih =>
    rw [scaleBy] at h
    split at h
    · next hsmall =>
      obtain ⟨c, d, hratio, hd, hone⟩ := ratio_ofNat_pow hsmall
      split at h
      · dsimp only at h
        split at h
        · next hfinite =>
          cases h
          exact hfinite
        · cases h
      · cases h
        exact (Binary64.overMagnitude_below (by omega) hx hratio hd hone).isFinite
    · obtain ⟨c, d, hratio, hd, hone⟩ := ratio_ofNat_pow (Nat.le_refl maxPower)
      split at h
      · cases h
        exact hx.isFinite
      · split at h
        · cases h
        · exact ih (by omega) (Binary64.overMagnitude_below (by omega) hx hratio hd hone) h

theorem proper_of_double? {negative : Bool} {sig : Nat} {e : Int} {j : Json} (hsig : sig < 2 ^ 64)
    (h : double? negative sig e = some j) : j.Proper := by
  obtain ⟨x, hx, rfl⟩ := Option.map_eq_some_iff.mp h
  have hfinite : x.isFinite = true := isFinite_scaleBy (by decide) (Binary64.ofNat_below hsig) hx
  refine everywhere_float.mpr ⟨?_, trivial⟩
  cases negative with
  | false => exact hfinite
  | true => exact (Binary64.isFinite_negate x).trans hfinite

theorem absorb_lt {sig count : Nat} {cs : List Char} (hsig : sig < 2 ^ 64) :
    (absorb sig count cs).1 < 2 ^ 64 := by
  induction cs generalizing sig count with
  | nil => exact hsig
  | cons c rest ih =>
    rw [absorb]
    split
    · dsimp only
      split
      · next hnext => exact ih hnext
      · exact hsig
    · exact hsig

theorem proper_of_double?_map {negative : Bool} {sig : Nat} {e : Int} {cs rest : List Char} {j : Json}
    (hsig : sig < 2 ^ 64) (h : (double? negative sig e).map (·, cs) = some (j, rest)) : j.Proper := by
  obtain ⟨k, hk, heq⟩ := Option.map_eq_some_iff.mp h
  obtain ⟨rfl, -⟩ := Prod.mk.inj heq
  exact proper_of_double? hsig hk

theorem proper_of_readPower? {negative : Bool} {sig : Nat} {e : Int} {cs rest : List Char} {j : Json}
    (hsig : sig < 2 ^ 64) (h : readPower? negative sig e cs = some (j, rest)) : j.Proper := by
  simp only [readPower?] at h
  -- With either sign of the exponent, or without one.
  split at h
  all_goals
    split at h
    · cases h
    · split at h
      · split at h
        · cases h
          exact everywhere_float.mpr ⟨rfl, trivial⟩
        · cases h
      · exact proper_of_double?_map hsig h

theorem proper_of_readScaled? {negative : Bool} {sig : Nat} {e : Int} {cs rest : List Char}
    {j : Json} (hsig : sig < 2 ^ 64) (h : readScaled? negative sig e cs = some (j, rest)) :
    j.Proper := by
  unfold readScaled? at h
  split at h
  · exact proper_of_readPower? hsig h
  · exact proper_of_readPower? hsig h
  · exact proper_of_double?_map hsig h

theorem proper_of_readTail? {negative : Bool} {sig dropped : Nat} {cs rest : List Char} {j : Json}
    (hsig : sig < 2 ^ 64) (h : readTail? negative sig dropped cs = some (j, rest)) : j.Proper := by
  unfold readTail? at h
  split at h
  · split at h
    · cases h
    · exact proper_of_readScaled? (absorb_lt hsig) h
  · exact proper_of_readPower? hsig h
  · exact proper_of_readPower? hsig h
  · split at h
    · exact proper_of_double?_map hsig h
    · split at h
      · cases h
        exact everywhere_int.mpr ⟨trivial, by simp only [WordTop]; omega⟩
      · split at h
        · next hword =>
          cases h
          simp only [Nat.pow_eq, Bool.and_eq_true, decide_eq_true_eq] at hword
          exact everywhere_int.mpr ⟨trivial, by simp only [WordTop]; omega⟩
        · cases h
          refine everywhere_float.mpr ⟨?_, trivial⟩
          exact (Binary64.isFinite_negate _).trans (Binary64.ofNat_below hsig).isFinite

theorem proper_of_readNumber? {cs rest : List Char} {j : Json}
    (h : readNumber? cs = some (j, rest)) : j.Proper := by
  simp only [readNumber?] at h
  split at h
  · split at h
    · exact proper_of_readTail? (by decide) h
    · cases h
  · split at h
    · exact proper_of_readTail? (absorb_lt (by decide)) h
    · cases h
  · cases h

/-! ### Texts -/

/-- All numbers of what the three readers give are proper, whatever the fuel. -/
theorem proper_of_readers (fuel : Nat) :
    (∀ depth cs j rest, readValue? fuel depth cs = some (j, rest) → j.Proper) ∧
    (∀ depth acc cs items rest, (∀ j ∈ acc, j.Proper) →
      readItems? fuel depth acc cs = some (items, rest) → ∀ j ∈ items, j.Proper) ∧
    (∀ depth acc cs fields rest, (∀ e ∈ acc, Proper e.2) →
      readFields? fuel depth acc cs = some (fields, rest) → ∀ e ∈ fields, Proper e.2) := by
  induction fuel with
  | zero =>
    refine ⟨?_, ?_, ?_⟩
    · intro depth cs j rest h
      cases h
    · intro depth acc cs items rest _ h
      cases h
    · intro depth acc cs fields rest _ h
      cases h
  | succ fuel ih =>
    obtain ⟨ihValue, ihItems, ihFields⟩ := ih
    refine ⟨?_, ?_, ?_⟩
    · intro depth cs j rest h
      rw [readValue?] at h
      split at h
      · cases h
        exact everywhere_null.mpr ⟨trivial, trivial⟩
      · cases h
        exact everywhere_bool.mpr ⟨trivial, trivial⟩
      · cases h
        exact everywhere_bool.mpr ⟨trivial, trivial⟩
      · split at h
        · obtain ⟨⟨s, rest⟩, -, heq⟩ := Option.map_eq_some_iff.mp h
          cases heq
          exact everywhere_str.mpr ⟨trivial, trivial⟩
        · split at h
          · split at h
            · cases h
            · cases h
              exact everywhere_arr.mpr ⟨⟨trivial, trivial⟩, by simp⟩
            · obtain ⟨⟨items, rest⟩, hitems, heq⟩ := Option.map_eq_some_iff.mp h
              cases heq
              exact everywhere_arr.mpr ⟨⟨trivial, trivial⟩, ihItems _ _ _ _ _ (by simp) hitems⟩
          · split at h
            · split at h
              · cases h
              · cases h
                exact everywhere_obj.mpr ⟨⟨trivial, trivial⟩, by simp⟩
              · obtain ⟨⟨fields, rest⟩, hfields, heq⟩ := Option.map_eq_some_iff.mp h
                cases heq
                exact everywhere_obj.mpr ⟨⟨trivial, trivial⟩, ihFields _ _ _ _ _ (by simp) hfields⟩
            · exact proper_of_readNumber? h
      · cases h
    · intro depth acc cs items rest hacc h
      rw [readItems?] at h
      split at h
      · cases h
      · next item _ hitem =>
        have hcons : ∀ j ∈ item :: acc, j.Proper :=
          List.forall_mem_cons.mpr ⟨ihValue _ _ _ _ hitem, hacc⟩
        split at h
        · exact ihItems _ _ _ _ _ hcons h
        · cases h
          exact fun j hj => hcons j (List.mem_reverse.mp hj)
        · cases h
    · intro depth acc cs fields rest hacc h
      rw [readFields?] at h
      split at h
      · split at h
        · cases h
        · next key _ _ =>
          split at h
          · split at h
            · cases h
            · next value _ hvalue =>
              have hcons : ∀ e ∈ (key, value) :: acc, Proper e.2 :=
                List.forall_mem_cons.mpr ⟨ihValue _ _ _ _ hvalue, hacc⟩
              split at h
              · exact ihFields _ _ _ _ _ hcons h
              · cases h
                exact fun e he => hcons e (List.mem_reverse.mp he)
              · cases h
          · cases h
      · cases h

/-- **The numbers of a JSON text are proper.** -/
theorem proper_of_read? {s : String} {j : Json} (h : read? s = some j) : j.Proper := by
  simp only [read?] at h
  split at h
  · next k rest hread =>
    split at h
    · cases h
      exact (proper_of_readers _).1 _ _ _ _ hread
    · cases h
  · cases h

/-! ### Fields in order -/

/-- Insertion brings in the new field only. -/
theorem mem_insertSorted {key : String} {value : Json} {fields : List (String × Json)}
    {e : String × Json} (h : e ∈ insertSorted key value fields) : e = (key, value) ∨ e ∈ fields := by
  induction fields with
  | nil => exact .inl (List.mem_singleton.mp h)
  | cons first rest ih =>
    obtain ⟨k, v⟩ := first
    rw [insertSorted] at h
    split at h
    · exact List.mem_cons.mp h
    · split at h
      · exact (List.mem_cons.mp h).imp_right (List.mem_cons_of_mem _)
      · rcases List.mem_cons.mp h with rfl | hrest
        · exact .inr List.mem_cons_self
        · exact (ih hrest).imp_right (List.mem_cons_of_mem _)

/-- Insertion keeps fields in order of their keys. -/
theorem pairwise_insertSorted {key : String} {value : Json} {fields : List (String × Json)}
    (h : fields.Pairwise (·.1 < ·.1)) :
    (insertSorted key value fields).Pairwise (·.1 < ·.1) := by
  induction fields with
  | nil => exact List.pairwise_singleton _ _
  | cons first rest ih =>
    obtain ⟨k, v⟩ := first
    obtain ⟨hfirst, hrest⟩ := List.pairwise_cons.mp h
    rw [insertSorted]
    split
    · next hlt =>
      refine List.pairwise_cons.mpr ⟨List.forall_mem_cons.mpr ⟨hlt, fun e he => ?_⟩, h⟩
      exact lt_trans hlt (hfirst e he)
    · next hnlt =>
      split
      · next heq =>
        obtain rfl := beq_iff_eq.mp heq
        exact List.pairwise_cons.mpr ⟨hfirst, hrest⟩
      · next hne =>
        have hgt : k < key := lt_of_le_of_ne (not_lt.mp hnlt) fun h => hne (beq_iff_eq.mpr h.symm)
        refine List.pairwise_cons.mpr ⟨fun e he => ?_, ih hrest⟩
        rcases mem_insertSorted he with rfl | hold
        · exact hgt
        · exact hfirst e hold

theorem sortedItems_eq_map (items : List Json) : sortedItems items = items.map sorted := by
  induction items with
  | nil => rfl
  | cons j rest ih => rw [sortedItems, ih, List.map_cons]

/-- Adding fields keeps the order, and what holds of all values. -/
theorem sortedFields_keeps {P : Json → Prop} {fields done : List (String × Json)}
    (hfields : ∀ e ∈ fields, P (sorted e.2)) (hdone : ∀ e ∈ done, P e.2)
    (horder : done.Pairwise (·.1 < ·.1)) :
    (sortedFields done fields).Pairwise (·.1 < ·.1) ∧ ∀ e ∈ sortedFields done fields, P e.2 := by
  induction fields generalizing done with
  | nil => exact ⟨horder, hdone⟩
  | cons first rest ih =>
    obtain ⟨key, value⟩ := first
    rw [List.forall_mem_cons] at hfields
    rw [sortedFields]
    refine ih hfields.2 (fun e he => ?_) (pairwise_insertSorted horder)
    rcases mem_insertSorted he with rfl | hold
    · exact hfields.1
    · exact hdone e hold

/-- **No object of a sorted tree has a key twice.** -/
theorem distinctKeys_sorted (j : Json) : j.sorted.DistinctKeys := by
  induction j using induction_on_members with
  | arr items ih =>
    rw [sorted, sortedItems_eq_map]
    exact everywhere_arr.mpr ⟨trivial, List.forall_mem_map.mpr ih⟩
  | obj fields ih =>
    obtain ⟨horder, hvalues⟩ := sortedFields_keeps ih (by simp) .nil
    refine everywhere_obj.mpr ⟨?_, hvalues⟩
    exact List.Pairwise.map _ (fun _ _ hlt => ne_of_lt hlt) horder
  | null => exact everywhere_null.mpr trivial
  | bool b => exact everywhere_bool.mpr trivial
  | int n => exact everywhere_int.mpr trivial
  | float x => exact everywhere_float.mpr trivial
  | str s => exact everywhere_str.mpr trivial

/-- Sorting leaves the numbers of a tree as they are. -/
theorem proper_sorted {j : Json} (h : j.Proper) : j.sorted.Proper := by
  induction j using induction_on_members with
  | arr items ih =>
    rw [Proper, everywhere_arr] at h
    rw [sorted, sortedItems_eq_map]
    exact everywhere_arr.mpr ⟨⟨trivial, trivial⟩,
      List.forall_mem_map.mpr fun j hj => ih j hj (h.2 j hj)⟩
  | obj fields ih =>
    rw [Proper, everywhere_obj] at h
    obtain ⟨-, hvalues⟩ :=
      sortedFields_keeps (fun e he => ih e he (h.2 e he)) (by simp) .nil
    exact everywhere_obj.mpr ⟨⟨trivial, trivial⟩, hvalues⟩
  | _ => exact h

end AnnotatedApi.Json
