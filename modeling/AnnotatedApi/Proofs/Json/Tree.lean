import AnnotatedApi.Json.Writer
import Mathlib.Algebra.Ring.Int.Defs

/-!
What holds everywhere in a JSON tree.

`Json.Contains` says which trees stand in a tree, and `Json.Everywhere P` that all of them satisfy
`P`.  Three such properties matter: the doubles of a tree are finite (`Finite`), its numbers are those
that JSON texts have (`Proper`), and no object repeats a key (`DistinctKeys`).

The writer has no text for a double that is not finite and writes `null` for it, so what its text
stands for is the tree with these doubles replaced (`written`).  Both trees have the same text
(`pretty_written`), and a tree with finite doubles stays as it is (`written_of_finite`).
-/

namespace AnnotatedApi.Json

/-! ### Trees inside trees -/

/-- The second tree stands in the first one, at any depth. -/
inductive Contains : Json → Json → Prop
  | self (j : Json) : Contains j j
  | item {items : List Json} {j k : Json} : j ∈ items → Contains j k → Contains (.arr items) k
  | field {fields : List (String × Json)} {key : String} {j k : Json} :
      (key, j) ∈ fields → Contains j k → Contains (.obj fields) k

/-- `P` holds of a tree and of all trees inside it. -/
def Everywhere (P : Json → Prop) (j : Json) : Prop :=
  ∀ k, j.Contains k → P k

variable {P Q : Json → Prop}

theorem Everywhere.self {j : Json} (h : Everywhere P j) : P j :=
  h j (.self j)

theorem Everywhere.imp {j : Json} (hPQ : ∀ k, P k → Q k) (h : Everywhere P j) : Everywhere Q j :=
  fun k hk => hPQ k (h k hk)

@[simp] theorem everywhere_null : Everywhere P .null ↔ P .null :=
  ⟨Everywhere.self, by rintro h _ ⟨⟩; exact h⟩

@[simp] theorem everywhere_bool {b : Bool} : Everywhere P (.bool b) ↔ P (.bool b) :=
  ⟨Everywhere.self, by rintro h _ ⟨⟩; exact h⟩

@[simp] theorem everywhere_int {n : Int} : Everywhere P (.int n) ↔ P (.int n) :=
  ⟨Everywhere.self, by rintro h _ ⟨⟩; exact h⟩

@[simp] theorem everywhere_float {x : Decimal.Binary64} :
    Everywhere P (.float x) ↔ P (.float x) :=
  ⟨Everywhere.self, by rintro h _ ⟨⟩; exact h⟩

@[simp] theorem everywhere_str {s : String} : Everywhere P (.str s) ↔ P (.str s) :=
  ⟨Everywhere.self, by rintro h _ ⟨⟩; exact h⟩

@[simp] theorem everywhere_arr {items : List Json} :
    Everywhere P (.arr items) ↔ P (.arr items) ∧ ∀ j ∈ items, Everywhere P j := by
  constructor
  · intro h
    exact ⟨h.self, fun j hj k hk => h k (.item hj hk)⟩
  · rintro ⟨htop, hitems⟩ k hk
    cases hk with
    | self => exact htop
    | item hj hk => exact hitems _ hj k hk

@[simp] theorem everywhere_obj {fields : List (String × Json)} :
    Everywhere P (.obj fields) ↔ P (.obj fields) ∧ ∀ e ∈ fields, Everywhere P e.2 := by
  constructor
  · intro h
    exact ⟨h.self, fun e he k hk => h k (.field he hk)⟩
  · rintro ⟨htop, hfields⟩ k hk
    cases hk with
    | self => exact htop
    | field hj hk => exact hfields _ hj k hk

/-- What passes from the items and fields of a tree to the tree holds of every tree. -/
@[elab_as_elim]
theorem induction_on_members {motive : Json → Prop} (null : motive .null)
    (bool : ∀ b, motive (.bool b)) (int : ∀ n, motive (.int n)) (float : ∀ x, motive (.float x))
    (str : ∀ s, motive (.str s))
    (arr : ∀ items, (∀ j ∈ items, motive j) → motive (.arr items))
    (obj : ∀ fields, (∀ e ∈ fields, motive e.2) → motive (.obj fields)) (j : Json) : motive j :=
  match j with
  | .null => null
  | .bool b => bool b
  | .int n => int n
  | .float x => float x
  | .str s => str s
  | .arr items => arr items fun i hi =>
    have : sizeOf i < 1 + sizeOf items := by
      have := List.sizeOf_lt_of_mem hi
      omega
    induction_on_members null bool int float str arr obj i
  | .obj fields => obj fields fun e he =>
    have : sizeOf e.2 < 1 + sizeOf fields := by
      have := List.sizeOf_lt_of_mem he
      have : sizeOf e = 1 + sizeOf e.1 + sizeOf e.2 := by cases e; rfl
      omega
    induction_on_members null bool int float str arr obj e.2
termination_by sizeOf j

/-! ### Numbers and keys -/

/-- A double at the top is finite. -/
def FiniteTop : Json → Prop
  | .float x => x.isFinite = true
  | _ => True

/-- All doubles in the tree are finite. -/
def Finite (j : Json) : Prop := Everywhere FiniteTop j

/-- A whole number at the top has 64 bits, with or without a sign. -/
def WordTop : Json → Prop
  | .int n => -(2 ^ 63) ≤ n ∧ n < 2 ^ 64
  | _ => True

/-- A number at the top is one that JSON texts have: a whole number of 64 bits or a finite double. -/
def ProperTop (j : Json) : Prop := j.FiniteTop ∧ j.WordTop

/-- All numbers in the tree are those that JSON texts have. -/
def Proper (j : Json) : Prop := Everywhere ProperTop j

/-- An object at the top has no two fields with the same key. -/
def DistinctTop : Json → Prop
  | .obj fields => (Assoc.keys fields).Nodup
  | _ => True

/-- No object in the tree has two fields with the same key. -/
def DistinctKeys (j : Json) : Prop := Everywhere DistinctTop j

theorem Proper.finite {j : Json} (h : j.Proper) : j.Finite :=
  h.imp fun _ hk => hk.1

/-! ### What the text of a tree stands for -/

mutual

/-- The tree with `null` for every double that is not finite. -/
def written : Json → Json
  | .float x => if x.isFinite then .float x else .null
  | .arr items => .arr (writtenItems items)
  | .obj fields => .obj (writtenFields fields)
  | j => j

/-- Replaces the doubles in every item. -/
def writtenItems : List Json → List Json
  | [] => []
  | j :: rest => written j :: writtenItems rest

/-- Replaces the doubles in every field. -/
def writtenFields : List (String × Json) → List (String × Json)
  | [] => []
  | (k, v) :: rest => (k, written v) :: writtenFields rest

end

theorem writtenItems_eq_map (items : List Json) : writtenItems items = items.map written := by
  induction items with
  | nil => rfl
  | cons j rest ih => rw [writtenItems, ih, List.map_cons]

theorem writtenFields_eq_map (fields : List (String × Json)) :
    writtenFields fields = fields.map fun e => (e.1, written e.2) := by
  induction fields with
  | nil => rfl
  | cons e rest ih => rw [writtenFields, ih, List.map_cons]

/-- Nothing is lost of a tree whose doubles are finite. -/
theorem written_of_finite {j : Json} (h : j.Finite) : j.written = j := by
  induction j using induction_on_members with
  | float x =>
    have hx : x.isFinite = true := h.self
    rw [written, if_pos hx]
  | arr items ih =>
    rw [Finite, everywhere_arr] at h
    rw [written, writtenItems_eq_map]
    congr 1
    exact (List.map_congr_left fun j hj => ih j hj (h.2 j hj)).trans (List.map_id' items)
  | obj fields ih =>
    rw [Finite, everywhere_obj] at h
    rw [written, writtenFields_eq_map]
    congr 1
    have hsame : ∀ e ∈ fields, (e.1, e.2.written) = e := fun e he => by rw [ih e he (h.2 e he)]
    exact (List.map_congr_left hsame).trans (List.map_id' fields)
  | _ => rfl

/-- What is written has finite doubles only. -/
theorem proper_written {j : Json} (h : Everywhere WordTop j) : j.written.Proper := by
  induction j using induction_on_members with
  | null => exact everywhere_null.mpr ⟨trivial, trivial⟩
  | bool b => exact everywhere_bool.mpr ⟨trivial, trivial⟩
  | int n => exact everywhere_int.mpr ⟨trivial, h.self⟩
  | str s => exact everywhere_str.mpr ⟨trivial, trivial⟩
  | float x =>
    rw [written]
    split
    · next hx => exact everywhere_float.mpr ⟨hx, trivial⟩
    · exact everywhere_null.mpr ⟨trivial, trivial⟩
  | arr items ih =>
    rw [everywhere_arr] at h
    rw [written, writtenItems_eq_map, Proper, everywhere_arr]
    refine ⟨⟨trivial, trivial⟩, List.forall_mem_map.mpr fun j hj => ih j hj (h.2 j hj)⟩
  | obj fields ih =>
    rw [everywhere_obj] at h
    rw [written, writtenFields_eq_map, Proper, everywhere_obj]
    refine ⟨⟨trivial, trivial⟩, List.forall_mem_map.mpr fun e he => ih e he (h.2 e he)⟩

/-- A double that is not finite has the text of `null`. -/
theorem scalarText_float_of_not_finite {x : Decimal.Binary64} (h : x.isFinite ≠ true) :
    scalarText (.float x) = scalarText .null := by
  cases x with
  | finite s m e => exact absurd rfl h
  | infinite s => cases s <;> rfl
  | nan => rfl

mutual

theorem prettyAt_written (depth : Nat) : ∀ j : Json, prettyAt depth j.written = prettyAt depth j
  | .null | .bool _ | .int _ | .str _ => rfl
  | .float x => by
    by_cases hx : x.isFinite = true
    · rw [written, if_pos hx]
    · rw [written, if_neg hx]
      exact (scalarText_float_of_not_finite hx).symm
  | .arr [] | .obj [] => rfl
  | .arr (j :: rest) => by
    rw [written, writtenItems, prettyAt, prettyAt, ← writtenItems, prettyItems_written]
    all_goals simp
  | .obj (e :: rest) => by
    rw [written, writtenFields, prettyAt, prettyAt, ← writtenFields, prettyFields_written]
    all_goals simp

theorem prettyItems_written (depth : Nat) :
    ∀ items, prettyItems depth (writtenItems items) = prettyItems depth items
  | [] => rfl
  | [j] => by
    rw [writtenItems, writtenItems, prettyItems, prettyItems, prettyAt_written]
  | j :: k :: rest => by
    rw [writtenItems, prettyItems, prettyItems, prettyAt_written, prettyItems_written]
    all_goals simp [writtenItems]

theorem prettyFields_written (depth : Nat) :
    ∀ fields, prettyFields depth (writtenFields fields) = prettyFields depth fields
  | [] => rfl
  | [(k, v)] => by
    rw [writtenFields, writtenFields, prettyFields, prettyFields, prettyAt_written]
  | (k, v) :: e :: rest => by
    rw [writtenFields, prettyFields, prettyFields, prettyAt_written, prettyFields_written]
    all_goals simp [writtenFields]

end

/-- What is written has the text of the tree. -/
theorem pretty_written (j : Json) : j.written.pretty = j.pretty :=
  prettyAt_written 0 j

end AnnotatedApi.Json
