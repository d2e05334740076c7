import AnnotatedApi.Proofs.GoSource.Grammar

/-!
The trees that are read are laid out.

The tokens of a text and the comments in front of them are in order (`flow_tokensFrom`), the grammar
keeps it, and the comments are placed where they are in the text (`leavesOf_placeComments`).  Main
statement: `readTree_isLaidOut`.
-/

namespace AnnotatedApi.GoSource

/-! ### The tokens of a text -/

/-- The leaves are in order and start on the row or below. -/
structure Ordered (row : Nat) (ls : List Leaf) : Prop where
  rows : ∀ l ∈ ls, row ≤ l.row ∧ l.row ≤ l.endRow
  order : ls.Pairwise fun l m => l.nextRow ≤ m.row

theorem Ordered.cons {row : Nat} {l : Leaf} {ls : List Leaf} (hrow : row ≤ l.row)
    (hspan : l.row ≤ l.endRow) (h : Ordered l.nextRow ls) : Ordered row (l :: ls) := by
  have hnext : l.endRow ≤ l.nextRow := by
    rw [Leaf.nextRow]
    split <;> omega
  refine ⟨fun m hm => ?_, List.pairwise_cons.mpr ⟨fun m hm => (h.rows m hm).1, h.order⟩⟩
  obtain rfl | hm := List.mem_cons.mp hm
  · exact ⟨hrow, hspan⟩
  · have := h.rows m hm
    omega

theorem ordered_fileEnd (start row : Nat) : Ordered row [.token (fileEnd start row [])] :=
  .cons (Nat.le_refl row) (Nat.le_refl row) ⟨nofun, List.Pairwise.nil⟩

theorem measure_ne_lineBreak (cs : List Char) : (measure cs).1 ≠ .lineBreak := by
  unfold measure
  cases cs with
  | nil => simp
  | cons c rest =>
    dsimp only
    split_ifs <;> simp

/-- Leaves that are in order behind the comments passed so far. -/
def OrderedBehind (passed : List Comment) (row : Nat) (ls : List Leaf) : Prop :=
  ∃ more, ls = passed.reverse.map .comment ++ more ∧ Ordered row more

theorem OrderedBehind.token {passed : List Comment} {t : Token} {ts : List Token}
    (hcomments : t.comments = passed.reverse) (hspan : t.row ≤ t.endRow)
    (h : OrderedBehind [] (Leaf.token t).nextRow (flow ts)) :
    OrderedBehind passed t.row (flow (t :: ts)) := by
  obtain ⟨more, hmore, hordered⟩ := h
  refine ⟨.token { t with comments := [] } :: more, ?_, .cons (Nat.le_refl _) hspan hordered⟩
  rw [flow, List.flatMap_cons, ← flow, hmore, Token.flow, hcomments, List.append_assoc]
  rfl

theorem OrderedBehind.comment {passed : List Comment} {c : Comment} {ls : List Leaf}
    (hspan : c.row ≤ c.endRow) (h : OrderedBehind (c :: passed) c.endRow ls) :
    OrderedBehind passed c.row ls := by
  obtain ⟨more, rfl, hordered⟩ := h
  refine ⟨.comment c :: more, ?_, .cons (Nat.le_refl _) hspan hordered⟩
  rw [List.reverse_cons, List.map_append, List.append_assoc]
  rfl

/-- What is left of a text is in order. -/
theorem flow_tokensFrom (fuel start row : Nat) (passed : List Comment) (cs : List Char) :
    OrderedBehind passed row (flow (tokensFrom fuel start row passed cs)) := by
  induction fuel generalizing start row passed cs with
  | zero => exact ⟨_, List.append_nil _, ordered_fileEnd start row⟩
  | succ fuel ih =>
    cases cs with
    | nil => exact ⟨_, List.append_nil _, ordered_fileEnd start row⟩
    | cons c rest =>
      rw [tokensFrom]
      split
      · -- The text goes on in the row below a line break.
        exact .token rfl (Nat.le_refl row) (ih (start + 1) (row + 1) [] rest)
      · split
        · exact ih (start + 1) row passed rest
        · dsimp only
          split
          · exact .comment (c := ⟨_, row, _⟩) (Nat.le_add_right row _) (ih _ _ _ _)
          · refine .token rfl (Nat.le_add_right row _) ?_
            have hkind : (measure (c :: rest)).1 ≠ .lineBreak := measure_ne_lineBreak _
            rw [Leaf.nextRow, if_neg (by simpa [Leaf.isLineBreak, Token.isLineBreak] using hkind)]
            exact ih _ _ _ _

/-! ### The places of the comments -/

/-- A leaf without the comments that a token has in front of it. -/
def Leaf.bare : Leaf → Leaf
  | .comment c => .comment c
  | .token t => .token { t with comments := [] }

theorem leavesOf_map_comment (front : List Comment) :
    leavesOf (front.map .comment) = front.map .comment := by
  induction front with
  | nil => rfl
  | cons c rest ih => exact congrArg (Leaf.comment c :: ·) ih

theorem tokensOf_map_comment (front : List Comment) :
    Tree.tokensOf (front.map .comment) = [] := by
  induction front with
  | nil => rfl
  | cons c rest ih => exact ih

theorem areFull_map_comment (front : List Comment) : areFull (front.map .comment) = true := by
  induction front with
  | nil => rfl
  | cons c rest ih => exact ih

mutual

/-- What is in front of a tree and the tree with its comments make up the flow. -/
theorem Tree.leaves_liftComments : ∀ t : Tree,
    t.liftComments.1.map .comment ++ t.liftComments.2.leaves.map Leaf.bare =
      t.leaves.flatMap Leaf.flow
  | .comment _ => rfl
  | .token t => by simp [Tree.liftComments, Tree.leaves, Leaf.flow, Token.flow, Leaf.bare]
  | .node _ [] => rfl
  | .node _ (first :: rest) => by
    rw [Tree.liftComments, Tree.leaves, Tree.leaves, leavesOf, leavesOf, List.map_append,
      List.flatMap_append, ← List.append_assoc, first.leaves_liftComments,
      leavesOf_placeComments rest, flowOf]

theorem leavesOf_placeComments : ∀ trees : List Tree,
    (leavesOf (Tree.placeComments trees)).map Leaf.bare = flowOf trees
  | [] => rfl
  | t :: rest => by
    have hcons : flowOf (t :: rest) = t.leaves.flatMap Leaf.flow ++ flowOf rest :=
      List.flatMap_append
    rw [Tree.placeComments, leavesOf_append, leavesOf_map_comment, leavesOf, List.map_append,
      List.map_append, leavesOf_placeComments rest, hcons, ← t.leaves_liftComments,
      List.append_assoc, List.map_map]
    rfl

end

mutual

/-- The tokens stay what they are, and so does whether constructs have any. -/
theorem Tree.full_liftComments : ∀ t : Tree,
    t.liftComments.2.tokens = t.tokens ∧ t.liftComments.2.isFull = t.isFull
  | .comment _ => ⟨rfl, rfl⟩
  | .token _ => ⟨rfl, rfl⟩
  | .node _ [] => ⟨rfl, rfl⟩
  | .node _ (first :: rest) => by
    obtain ⟨htokens, hfull⟩ := first.full_liftComments
    obtain ⟨hmore, hrest⟩ := full_placeComments rest
    rw [Tree.liftComments]
    simp only [Tree.tokens, Tree.tokensOf, Tree.isFull, areFull, htokens, hfull, hmore, hrest]
    trivial

theorem full_placeComments : ∀ trees : List Tree,
    Tree.tokensOf (Tree.placeComments trees) = Tree.tokensOf trees ∧
      areFull (Tree.placeComments trees) = areFull trees
  | [] => ⟨rfl, rfl⟩
  | t :: rest => by
    obtain ⟨htokens, hfull⟩ := t.full_liftComments
    obtain ⟨hmore, hrest⟩ := full_placeComments rest
    rw [Tree.placeComments, tokensOf_append, tokensOf_map_comment, areFull_append,
      areFull_map_comment, Tree.tokensOf, Tree.tokensOf, areFull, areFull, htokens, hfull, hmore,
      hrest]
    exact ⟨rfl, rfl⟩

end

/-! ### The tree of a file -/

theorem Leaf.nextRow_bare (l : Leaf) : l.bare.nextRow = l.nextRow := by
  cases l <;> rfl

theorem Leaf.row_bare (l : Leaf) : l.bare.row = l.row := by
  cases l <;> rfl

theorem Leaf.endRow_bare (l : Leaf) : l.bare.endRow = l.endRow := by
  cases l <;> rfl

/-- What a file consists of is in the order of its text. -/
theorem leaves_readTree (ts : List Token) :
    ((readTree ts).leaves.map Leaf.bare).Sublist (flow ts) ∧
      areFull (readTree ts).members = true := by
  have hitems : Rule.Keeps (Grammar.fileItems (readPhrase (8 * ts.length + 8))) := inferInstance
  rw [readTree, Tree.leaves, Tree.members, leavesOf_placeComments, (full_placeComments _).2]
  split
  · next trees rest hread =>
    refine ⟨?_, ?_⟩
    · rw [flowOf_append, flowOf_map_token]
      exact ((flow_joinLines [] rest).append_left _).trans (hitems.flow hread)
    · rw [areFull_append, areFull_map_token, hitems.full hread]
      rfl
  · rw [flowOf_map_token, areFull_map_token]
    exact ⟨List.Sublist.refl _, rfl⟩

/-- **The tree that is read of a text is laid out.** -/
theorem readTree_isLaidOut (cs : List Char) : (readTree (tokenize cs)).IsLaidOut := by
  rw [tokenize]
  obtain ⟨hleaves, hfull⟩ := leaves_readTree (tokensFrom cs.length 0 0 [] cs)
  obtain ⟨more, hmore, hordered⟩ := flow_tokensFrom cs.length 0 0 [] cs
  rw [hmore] at hleaves
  refine ⟨hfull, fun l hl => ?_, ?_⟩
  · have hrows := hordered.rows _ (hleaves.subset (List.mem_map_of_mem hl))
    rw [Leaf.row_bare, Leaf.endRow_bare] at hrows
    exact hrows.2
  · have horder := hordered.order.sublist hleaves
    rw [List.pairwise_map] at horder
    simpa only [Leaf.nextRow_bare, Leaf.row_bare] using horder

end AnnotatedApi.GoSource
