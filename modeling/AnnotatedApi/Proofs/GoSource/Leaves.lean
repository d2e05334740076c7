import AnnotatedApi.GoSource.Layout

/-!
The leaves of a syntax tree: its tokens and its comments, in the order of the text.

Tokens and comments are both kept in the leaves (`Tree.filterMap_token_leaves` and
`Tree.map_node_comments`), so what the leaves tell about rows holds of them.  A tree is laid out
when the rows of its leaves are in order (`Tree.IsLaidOut`).  Main statement: in such a tree a token
ends on the row of a trailing comment (`Tree.IsLaidOut.exists_token_of_trailing`).
-/

namespace AnnotatedApi

open GoSource

/-- The comment without the word on what is in front of it. -/
def PlacedComment.node (c : PlacedComment) : Comment :=
  { text := c.raw, row := c.startRow, endRow := c.endRow }

namespace GoSource

/-- A comment or a token. -/
inductive Leaf where
  | comment (c : Comment)
  | token (t : Token)
deriving DecidableEq

namespace Leaf

def comment? : Leaf → Option Comment
  | .comment c => some c
  | .token _ => none

def token? : Leaf → Option Token
  | .comment _ => none
  | .token t => some t

/-- The row that the leaf starts on. -/
def row : Leaf → Nat
  | .comment c => c.row
  | .token t => t.row

/-- The row that the leaf ends on. -/
def endRow : Leaf → Nat
  | .comment c => c.endRow
  | .token t => t.endRow

def isLineBreak : Leaf → Bool
  | .comment _ => false
  | .token t => t.isLineBreak

/-- The row on which the text goes on behind the leaf. -/
def nextRow (l : Leaf) : Nat :=
  if l.isLineBreak then l.endRow + 1 else l.endRow

/-- Whether the leaf, a line break apart, has a part on the row. -/
def occupies (row : Nat) (l : Leaf) : Bool :=
  !l.isLineBreak && l.row ≤ row && row ≤ l.endRow

theorem occupies_iff {row : Nat} {l : Leaf} :
    l.occupies row = true ↔ l.isLineBreak = false ∧ l.row ≤ row ∧ row ≤ l.endRow := by
  simp [occupies, and_assoc]

end Leaf

mutual

/-- The leaves of a tree. -/
def Tree.leaves : Tree → List Leaf
  | .comment c => [.comment c]
  | .token t => [.token t]
  | .node _ members => leavesOf members

/-- The leaves of trees. -/
def leavesOf : List Tree → List Leaf
  | [] => []
  | t :: rest => t.leaves ++ leavesOf rest

end

/-- The comments of a tree, in the order of the text. -/
def Tree.commentNodes (t : Tree) : List Comment :=
  t.leaves.filterMap Leaf.comment?

mutual

theorem Tree.filterMap_token_leaves : ∀ t : Tree, t.leaves.filterMap Leaf.token? = t.tokens
  | .comment _ => rfl
  | .token _ => rfl
  | .node _ members => by
    rw [Tree.leaves, Tree.tokens, filterMap_token_leavesOf members]

theorem filterMap_token_leavesOf : ∀ members : List Tree,
    (leavesOf members).filterMap Leaf.token? = Tree.tokensOf members
  | [] => rfl
  | t :: rest => by
    rw [leavesOf, Tree.tokensOf, List.filterMap_append, Tree.filterMap_token_leaves t,
      filterMap_token_leavesOf rest]

end

mutual

/-- The comments that are collected are those of the tree. -/
theorem Tree.map_node_comments : ∀ t : Tree, t.isComment = false →
    t.comments.map PlacedComment.node = t.commentNodes
  | .comment _, h => nomatch h
  | .token _, _ => rfl
  | .node _ members, _ => by
    rw [Tree.comments, Tree.commentNodes, Tree.leaves, map_node_commentsAmong none members]

theorem map_node_commentsAmong : ∀ (above : Option Nat) (members : List Tree),
    (commentsAmong above members).map PlacedComment.node =
      (leavesOf members).filterMap Leaf.comment?
  | _, [] => rfl
  | above, t :: rest => by
    rw [leavesOf, List.filterMap_append]
    cases t with
    | comment c =>
      rw [commentsAmong, List.map_cons, map_node_commentsAmong none rest]
      rfl
    | token t =>
      rw [commentsAmong, List.map_append, Tree.map_node_comments (.token t) rfl,
        map_node_commentsAmong _ rest, Tree.commentNodes]
      exact fun c => nofun
    | node k members =>
      rw [commentsAmong, List.map_append, Tree.map_node_comments (.node k members) rfl,
        map_node_commentsAmong _ rest, Tree.commentNodes]
      exact fun c => nofun

end

/-! ### Layout -/

mutual

/-- Whether every construct in the tree has a token. -/
def Tree.isFull : Tree → Bool
  | .node _ members => !(Tree.tokensOf members).isEmpty && areFull members
  | _ => true

def areFull : List Tree → Bool
  | [] => true
  | t :: rest => t.isFull && areFull rest

end

/-- The leaves of the tree are in order, each on rows of its own or on those that its neighbours
share with it, and no construct inside is without a place. -/
structure Tree.IsLaidOut (t : Tree) : Prop where
  full : areFull t.members = true
  rows : ∀ l ∈ t.leaves, l.row ≤ l.endRow
  order : t.leaves.Pairwise fun l m => l.nextRow ≤ m.row

theorem Tree.mem_leaves_of_mem_tokens {t : Tree} {k : Token} (h : k ∈ t.tokens) :
    Leaf.token k ∈ t.leaves := by
  rw [← Tree.filterMap_token_leaves, List.mem_filterMap] at h
  obtain ⟨l, hl, htoken⟩ := h
  cases l with
  | comment c => exact nomatch htoken
  | token k =>
    rw [← Option.some.inj htoken]
    exact hl

/-- The row that a tree ends on is that of a token. -/
theorem Tree.exists_token_endRow {t : Tree} (hfull : t.isFull = true)
    (hcomment : t.isComment = false) : ∃ k, Leaf.token k ∈ t.leaves ∧ k.endRow = t.endRow := by
  have htokens : t.tokens ≠ [] := by
    cases t with
    | comment c => exact nomatch hcomment
    | token k => simp [Tree.tokens]
    | node k members =>
      rw [Tree.isFull, Bool.and_eq_true] at hfull
      simpa [Tree.tokens] using hfull.1
  refine ⟨t.tokens.getLast htokens, mem_leaves_of_mem_tokens (List.getLast_mem htokens), ?_⟩
  rw [Tree.endRow, List.getLast?_eq_some_getLast htokens]
  rfl

/-- The comments of members other than a comment come from the first member or from the others. -/
theorem mem_commentsAmong_cons {above : Option Nat} {t : Tree} {rest : List Tree}
    {c : PlacedComment} (hcomment : t.isComment = false)
    (hmem : c ∈ commentsAmong above (t :: rest)) :
    c ∈ t.comments ∨ c ∈ commentsAmong (if t.isElement then some t.endRow else above) rest := by
  cases t with
  | comment c => exact nomatch hcomment
  | token k => simpa [commentsAmong] using hmem
  | node k members => simpa [commentsAmong] using hmem

mutual

/-- In front of a trailing comment there is a token that ends on its row. -/
theorem Tree.token_before_trailing : ∀ {t : Tree} {c : PlacedComment}, t.isFull = true →
    c ∈ t.comments → c.trailing = true →
    ∃ k, [Leaf.token k, .comment c.node].Sublist t.leaves ∧ k.endRow = c.startRow
  | .node _ members, c, hfull, hmem, htrailing => by
    rw [Tree.isFull, Bool.and_eq_true] at hfull
    rw [Tree.comments] at hmem
    exact token_before_trailing_among none [] nofun hfull.2 hmem htrailing
  | .comment _, _, _, hmem, _ => by simp [Tree.comments] at hmem
  | .token _, _, _, hmem, _ => by simp [Tree.comments] at hmem

/-- The same behind leaves that have a token which ends on the row `above`. -/
theorem token_before_trailing_among : ∀ (above : Option Nat) {members : List Tree}
    {c : PlacedComment} (seen : List Leaf),
    (∀ row, above = some row → ∃ k, Leaf.token k ∈ seen ∧ k.endRow = row) →
    areFull members = true → c ∈ commentsAmong above members → c.trailing = true →
    ∃ k, [Leaf.token k, .comment c.node].Sublist (seen ++ leavesOf members) ∧
      k.endRow = c.startRow
  | _, [], c, seen, _, _, hmem, _ => by simp [commentsAmong] at hmem
  | above, t :: rest, c, seen, habove, hfull, hmem, htrailing => by
    rw [areFull, Bool.and_eq_true] at hfull
    obtain ⟨hfull, hrest⟩ := hfull
    rw [leavesOf]
    by_cases hcomment : t.isComment = true
    · obtain ⟨node, rfl⟩ : ∃ node, t = .comment node := by
        cases t with
        | comment node => exact ⟨node, rfl⟩
        | token k => exact nomatch hcomment
        | node k members => exact nomatch hcomment
      rw [commentsAmong, List.mem_cons] at hmem
      rw [Tree.leaves, ← List.append_assoc]
      obtain rfl | hmem := hmem
      · obtain ⟨k, hk, hrow⟩ := habove node.row (by simpa using htrailing)
        refine ⟨k, ?_, hrow⟩
        exact ((List.singleton_sublist.mpr hk).append (List.Sublist.refl [.comment node])).trans
          (List.sublist_append_left _ _)
      · exact token_before_trailing_among none _ nofun hrest hmem htrailing
    · rw [Bool.not_eq_true] at hcomment
      obtain hmem | hmem := mem_commentsAmong_cons hcomment hmem
      · obtain ⟨k, hk, hrow⟩ := Tree.token_before_trailing hfull hmem htrailing
        exact ⟨k, (hk.trans (List.sublist_append_left _ _)).trans
          (List.sublist_append_right _ _), hrow⟩
      · rw [← List.append_assoc]
        refine token_before_trailing_among _ _ (fun row hrow => ?_) hrest hmem htrailing
        split at hrow
        · obtain ⟨k, hk, hend⟩ := Tree.exists_token_endRow hfull hcomment
          exact ⟨k, List.mem_append_right _ hk, hend.trans (Option.some.inj hrow)⟩
        · obtain ⟨k, hk, hend⟩ := habove row hrow
          exact ⟨k, List.mem_append_left _ hk, hend⟩

end

/-- A token that is no line break ends on the row of a trailing comment. -/
theorem Tree.IsLaidOut.exists_token_of_trailing {t : Tree} (ht : t.IsLaidOut) {c : PlacedComment}
    (hmem : c ∈ t.comments) (htrailing : c.trailing = true) :
    ∃ k, Leaf.token k ∈ t.leaves ∧ (Leaf.token k).occupies c.startRow = true := by
  obtain ⟨k, hsub, hrow⟩ : ∃ k, [Leaf.token k, .comment c.node].Sublist t.leaves ∧
      k.endRow = c.startRow := by
    cases t with
    | comment c => simp [comments] at hmem
    | token k => simp [comments] at hmem
    | node k members =>
      rw [comments] at hmem
      exact token_before_trailing_among none [] nofun ht.full hmem htrailing
  have hk : Leaf.token k ∈ t.leaves := hsub.subset List.mem_cons_self
  refine ⟨k, hk, Leaf.occupies_iff.mpr ⟨?_, hrow ▸ ht.rows _ hk, Nat.le_of_eq hrow.symm⟩⟩
  have hnext : (Leaf.token k).nextRow ≤ c.startRow := by
    have horder := ht.order.sublist hsub
    exact List.rel_of_pairwise_cons horder (List.mem_singleton_self _)
  -- Behind a line break the text goes on in the next row.
  refine Bool.not_eq_true _ ▸ fun hbreak => ?_
  rw [Leaf.nextRow, if_pos hbreak, Leaf.endRow, hrow] at hnext
  omega

end GoSource

end AnnotatedApi
