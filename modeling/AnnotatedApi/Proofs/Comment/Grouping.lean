import AnnotatedApi.Proofs.GoSource.Leaves
import Mathlib.Data.List.SplitBy

/-!
The comment groups of a file are the maximal runs of comments that join.

Two comments join when the second starts on the row below the first and neither trails code.  The
groups are taken one comment at a time, each judged by the group so far, but that comes to judging it
by the comment before (`groupAfter_ofRun`), so the groups are those of the runs that `List.splitBy`
cuts the comments into (`groupComments_eq_map_ofRun`).  The comments themselves are all those of the
tree (`Tree.map_node_comments`).  Main statement: `Tree.commentGroups_maximal_runs`.
-/

namespace AnnotatedApi

/-- Whether the second of two comments goes on with the group of the first. -/
def PlacedComment.joins (c d : PlacedComment) : Bool :=
  !d.trailing && !c.trailing && c.endRow + 1 == d.startRow

theorem PlacedComment.joins_iff {c d : PlacedComment} :
    c.joins d = true ↔ d.trailing = false ∧ c.trailing = false ∧ c.endRow + 1 = d.startRow := by
  simp [joins, and_assoc]

/-- The group of a run of comments. -/
def PlacedGroup.ofRun (run : List PlacedComment) : PlacedGroup :=
  { group :=
      { lines := run.flatMap fun c => commentLines c.raw
        startRow := (run.head?.map (·.startRow)).getD 0
        endRow := (run.getLast?.map (·.endRow)).getD 0 }
    trailing := (run.getLast?.map (·.trailing)).getD false }

namespace PlacedGroup

theorem single_eq_ofRun (c : PlacedComment) : single c = ofRun [c] := by
  simp [single, ofRun]

theorem accepts_ofRun {run : List PlacedComment} {c : PlacedComment} (hrun : run ≠ []) :
    (ofRun run).accepts c = (run.getLast hrun).joins c := by
  simp [accepts, ofRun, PlacedComment.joins, List.getLast?_eq_some_getLast hrun]

theorem extend_ofRun {run : List PlacedComment} {c : PlacedComment} (hrun : run ≠ [])
    (haccept : (ofRun run).accepts c = true) : (ofRun run).extend c = ofRun (run ++ [c]) := by
  rw [accepts_ofRun hrun, PlacedComment.joins_iff] at haccept
  obtain ⟨hc, hlast, -⟩ := haccept
  simp [extend, CommentGroup.push, ofRun, List.getLast?_eq_some_getLast hrun, hc, hlast,
    List.head?_append_of_ne_nil _ hrun]

end PlacedGroup

open PlacedGroup

/-- A comment that the group accepts joins the last comment of the group. -/
theorem groupAfter_ofRun {run : List PlacedComment} (hrun : run ≠ [])
    (hchain : run.IsChain (PlacedComment.joins · ·)) (cs : List PlacedComment) :
    groupAfter (ofRun run) cs = ((run ++ cs).splitBy PlacedComment.joins).map ofRun := by
  induction cs generalizing run with
  | nil => rw [List.append_nil, List.splitBy_of_isChain hrun hchain, groupAfter, List.map_singleton]
  | cons c rest ih =>
    have hlast : ∀ x ∈ run.getLast?, x = run.getLast hrun := fun x hx => by
      rw [List.getLast?_eq_some_getLast hrun] at hx
      exact (Option.some.inj hx).symm
    rw [groupAfter]
    by_cases haccept : (ofRun run).accepts c = true
    · rw [if_pos haccept, extend_ofRun hrun haccept, ih (by simp), List.append_assoc,
        List.singleton_append]
      rw [accepts_ofRun hrun] at haccept
      refine List.isChain_append.mpr ⟨hchain, List.isChain_singleton c, fun x hx y hy => ?_⟩
      rw [hlast x hx, ← Option.some.inj hy]
      exact haccept
    · rw [if_neg haccept, single_eq_ofRun, ih (by simp) (List.isChain_singleton c),
        List.singleton_append, List.splitBy_append_cons, List.splitBy_of_isChain hrun hchain,
        List.map_append, List.map_singleton, List.singleton_append]
      intro x hx
      rwa [hlast x hx, ← Bool.not_eq_true, ← accepts_ofRun hrun]

theorem groupComments_eq_map_ofRun (cs : List PlacedComment) :
    groupComments cs = (cs.splitBy PlacedComment.joins).map ofRun := by
  cases cs with
  | nil => rfl
  | cons c rest =>
    rw [groupComments, single_eq_ofRun,
      groupAfter_ofRun (by simp) (List.isChain_singleton c), List.singleton_append]

/-! ### What a group has of its run -/

/-- A trailing comment joins neither the one before it nor the one behind. -/
theorem eq_singleton_of_trailing {run : List PlacedComment} {c : PlacedComment}
    (hchain : run.IsChain (PlacedComment.joins · ·)) (hmem : c ∈ run) (hc : c.trailing = true) :
    run = [c] := by
  obtain ⟨front, back, rfl⟩ := List.append_of_mem hmem
  obtain ⟨-, hback, hfront⟩ := List.isChain_append.mp hchain
  have hnil : front = [] := by
    by_contra hne
    have hjoins := hfront _ (List.getLast?_eq_some_getLast hne) c rfl
    rw [PlacedComment.joins_iff, hc] at hjoins
    exact absurd hjoins.1 (by simp)
  cases back with
  | nil => rw [hnil, List.nil_append]
  | cons d rest =>
    have hjoins := (List.isChain_cons_cons.mp hback).1
    rw [PlacedComment.joins_iff, hc] at hjoins
    exact absurd hjoins.2.1 (by simp)

/-- The group has the lines of the comments and the rows from the first to the last, and it is
trailing when they are. -/
structure PlacedGroup.Gathers (g : PlacedGroup) (run : List PlacedComment) : Prop where
  lines : g.group.lines = run.flatMap fun c => commentLines c.raw
  startRow : run.head?.map (·.startRow) = some g.group.startRow
  endRow : run.getLast?.map (·.endRow) = some g.group.endRow
  trailing : ∀ c ∈ run, c.trailing = g.trailing

theorem gathers_ofRun {run : List PlacedComment} (hrun : run ≠ [])
    (hchain : run.IsChain (PlacedComment.joins · ·)) : (ofRun run).Gathers run where
  lines := rfl
  startRow := by simp [ofRun, List.head?_eq_some_head hrun]
  endRow := by simp [ofRun, List.getLast?_eq_some_getLast hrun]
  trailing := fun c hc => by
    have hlast : (ofRun run).trailing = (run.getLast hrun).trailing := by
      simp [ofRun, List.getLast?_eq_some_getLast hrun]
    rw [hlast]
    by_cases htrailing : c.trailing = true
    · have hone := eq_singleton_of_trailing hchain hc htrailing
      simp [hone]
    · by_contra hne
      -- The last one would be trailing, hence alone, hence the comment itself.
      have hone := eq_singleton_of_trailing hchain (List.getLast_mem hrun) (by
        simpa [htrailing] using Ne.symm hne)
      rw [hone, List.mem_singleton] at hc
      exact hne (congrArg PlacedComment.trailing hc)

/-- The rows of the first comment come before those of the second; they may share one. -/
def PlacedComment.Precedes (c d : PlacedComment) : Prop :=
  c.startRow ≤ d.startRow ∧ c.endRow ≤ d.startRow

instance : Trans PlacedComment.Precedes PlacedComment.Precedes PlacedComment.Precedes where
  trans hcd hde := ⟨hcd.1.trans hde.1, hcd.2.trans hde.1⟩

/-- Groups of comments in order are in order. -/
theorem pairwise_groupComments {cs : List PlacedComment}
    (horder : cs.IsChain PlacedComment.Precedes) :
    (groupComments cs).Pairwise fun g h =>
      g.group.startRow ≤ h.group.startRow ∧ g.group.endRow ≤ h.group.startRow := by
  rw [groupComments_eq_map_ofRun, List.pairwise_map]
  have hpairs := horder.pairwise
  rw [← List.flatten_splitBy PlacedComment.joins cs, List.pairwise_flatten] at hpairs
  refine hpairs.2.imp_of_mem fun {run next} hrun hnext hbefore => ?_
  have hrun := List.ne_nil_of_mem_splitBy hrun
  have hnext := List.ne_nil_of_mem_splitBy hnext
  have hfirst := hbefore _ (List.head_mem hrun) _ (List.head_mem hnext)
  have hlast := hbefore _ (List.getLast_mem hrun) _ (List.head_mem hnext)
  simp only [ofRun, List.head?_eq_some_head hrun, List.head?_eq_some_head hnext,
    List.getLast?_eq_some_getLast hrun, Option.map_some, Option.getD_some]
  exact ⟨hfirst.1, hlast.2⟩

/-! ### The groups of a tree -/

namespace GoSource

/-- **The comment groups of a file are the maximal runs of its comments.** -/
theorem Tree.commentGroups_maximal_runs (k : Construct) (members : List Tree)
    (horder : (Tree.node k members).commentNodes.IsChain fun c d =>
      c.row ≤ d.row ∧ c.endRow ≤ d.row) :
    let t := Tree.node k members
    t.comments.map PlacedComment.node = t.commentNodes ∧
    (∃ runs : List (List PlacedComment), runs.flatten = t.comments ∧
      List.Forall₂ PlacedGroup.Gathers t.commentGroups runs ∧
      (∀ run ∈ runs, run.IsChain (PlacedComment.joins · ·)) ∧
      (runs.IsChain fun run next =>
        ∃ hrun hnext, (run.getLast hrun).joins (next.head hnext) = false) ∧
      ∀ run ∈ runs, ∀ c ∈ run, c.trailing = true → run = [c]) ∧
    t.commentGroups.flatMap (·.group.lines) =
      t.commentNodes.flatMap (fun c => commentLines c.text) ∧
    t.commentGroups.Pairwise fun g h =>
      g.group.startRow ≤ h.group.startRow ∧ g.group.endRow ≤ h.group.startRow := by
  intro t
  have hnodes : t.comments.map PlacedComment.node = t.commentNodes := t.map_node_comments rfl
  have hchain : ∀ run ∈ t.comments.splitBy PlacedComment.joins,
      run.IsChain (PlacedComment.joins · ·) := fun run => List.isChain_of_mem_splitBy
  refine ⟨hnodes, ⟨_, List.flatten_splitBy PlacedComment.joins t.comments, ?_, hchain,
    List.isChain_getLast_head_splitBy _ _, ?_⟩, ?_, ?_⟩
  · rw [Tree.commentGroups, groupComments_eq_map_ofRun, List.forall₂_map_left_iff,
      List.forall₂_same]
    exact fun run hrun => gathers_ofRun (List.ne_nil_of_mem_splitBy hrun) (hchain run hrun)
  · exact fun run hrun c hc => eq_singleton_of_trailing (hchain run hrun) hc
  · rw [← hnodes, List.flatMap_map, Tree.commentGroups, groupComments_eq_map_ofRun,
      List.flatMap_map]
    conv_rhs =>
      rw [← List.flatten_splitBy PlacedComment.joins t.comments, ← List.flatMap_id,
        List.flatMap_assoc]
    rfl
  · refine pairwise_groupComments ?_
    rw [← hnodes, List.isChain_map] at horder
    exact horder

/-- Line and block comments on adjacent rows make one group; the comment behind code is alone. -/
theorem Tree.commentGroups_of_trailing_comment :
    let code : Token := { kind := .word, text := "x", start := 30, stop := 31, row := 4, endRow := 4 }
    let t := Tree.node .sourceFile
      [.comment { text := "// first", row := 0, endRow := 0 },
        .comment { text := "/* second\n * third */", row := 1, endRow := 2 },
        .comment { text := "// fourth", row := 3, endRow := 3 }, .token code,
        .comment { text := "// behind", row := 4, endRow := 4 },
        .comment { text := "// last", row := 5, endRow := 5 }]
    (t.commentNodes.IsChain fun c d => c.row ≤ d.row ∧ c.endRow ≤ d.row) ∧
    t.commentGroups.map (fun g => (g.group.startRow, g.group.endRow, g.trailing)) =
      [(0, 3, false), (4, 4, true), (5, 5, false)] ∧
    t.commentGroups.flatMap (·.group.lines) =
      ["first", "second", "third", "fourth", "behind", "last"] := by
  intro code t
  have horder : t.commentNodes.IsChain fun c d => c.row ≤ d.row ∧ c.endRow ≤ d.row := by decide
  obtain ⟨-, -, hlines, -⟩ := commentGroups_maximal_runs .sourceFile t.members horder
  exact ⟨horder, by decide, hlines.trans (by decide)⟩

end GoSource

end AnnotatedApi
