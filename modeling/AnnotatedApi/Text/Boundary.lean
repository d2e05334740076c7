/-!
Sets of code points given by their boundaries.

A sorted list `b₀, b₁, b₂, …` stands for the set `[b₀, b₁) ∪ [b₂, b₃) ∪ …`, so a code point is a
member when an odd number of boundaries lie at or below it. The character classes of this library
keep their tables in this form.
-/

namespace AnnotatedApi.Text

/-- Whether an odd number of the sorted boundaries are at most `n`. -/
def withinBoundaries (n : Nat) : List Nat → Bool
  | [] => false
  | b :: rest => if n < b then false else !withinBoundaries n rest

@[simp] theorem withinBoundaries_nil (n : Nat) : withinBoundaries n [] = false := rfl

end AnnotatedApi.Text
