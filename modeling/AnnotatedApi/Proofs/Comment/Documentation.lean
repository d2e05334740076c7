import AnnotatedApi.Proofs.Comment.Grouping
import AnnotatedApi.Proofs.Text

/-!
The documentation of a row.

Line comments on the rows above are a run of comments that join (`isChain_lineComments`), and nothing
in front of them matters when the row above has no comment (`docAbove?_eq_of_clear`).  What stands
behind them may: the first comment on the row itself joins them unless it trails code.  If it does
not join, the run is a group and the documentation (`docAbove?_lineComments`), and otherwise no group
ends right above the row (`docAbove?_lineComments_of_joins`).  Main statement:
`docAbove?_groupComments`.
-/

namespace AnnotatedApi

open Text PlacedGroup

/-! ### Groups of comments in order -/

/-- The comments are in order, each on rows of its own or on those that its neighbours share. -/
structure InOrder (cs : List PlacedComment) : Prop where
  rows : ∀ c ∈ cs, c.startRow ≤ c.endRow
  order : cs.Pairwise fun c d => c.endRow ≤ d.startRow

theorem InOrder.startRows {cs : List PlacedComment} (h : InOrder cs) :
    cs.Pairwise fun c d => c.startRow ≤ d.startRow :=
  h.order.imp_of_mem fun hc _ hle => (h.rows _ hc).trans hle

/-- A row cuts comments in order in two. -/
theorem filter_append_filter_startRow {cs : List PlacedComment}
    (h : cs.Pairwise fun c d => c.startRow ≤ d.startRow) (row : Nat) :
    cs.filter (·.startRow < row) ++ cs.filter (row ≤ ·.startRow) = cs := by
  induction cs with
  | nil => rfl
  | cons c rest ih =>
    obtain ⟨hc, hrest⟩ := List.pairwise_cons.mp h
    by_cases hrow : c.startRow < row
    · rw [List.filter_cons_of_pos (by simpa using hrow),
        List.filter_cons_of_neg (by simpa using hrow), List.cons_append, ih hrest]
    · -- Everything behind starts behind the row as well.
      have hall : ∀ d ∈ c :: rest, row ≤ d.startRow := by
        intro d hd
        obtain rfl | hd := List.mem_cons.mp hd
        · omega
        · have := hc d hd
          omega
      rw [List.filter_eq_nil_iff.mpr (fun d hd => by simpa using hall d hd),
        List.filter_eq_self.mpr (fun d hd => by simpa using hall d hd), List.nil_append]

/-- The first comment that starts on a row is the first of those that start there or below. -/
theorem find?_startRow {cs : List PlacedComment}
    (h : cs.Pairwise fun c d => c.startRow ≤ d.startRow) (row : Nat) :
    cs.find? (·.startRow == row) =
      (cs.filter (row ≤ ·.startRow)).head?.filter (·.startRow == row) := by
  have hback := h.filter (row ≤ ·.startRow)
  conv_lhs => rw [← filter_append_filter_startRow h row]
  rw [List.find?_append, List.find?_eq_none.mpr, Option.none_or]
  · cases hcons : cs.filter (row ≤ ·.startRow) with
    | nil => rfl
    | cons c rest =>
      rw [hcons, List.pairwise_cons] at hback
      by_cases hrow : c.startRow = row
      · rw [List.find?_cons_of_pos (by simpa using hrow), List.head?_cons,
          Option.filter_some_pos (by simpa using hrow)]
      · have hne : (c.startRow == row) = false := by simpa using hrow
        have hc : c ∈ cs.filter (row ≤ ·.startRow) := by simp [hcons]
        have hle : row ≤ c.startRow := by simpa using (List.mem_filter.mp hc).2
        have hrest : rest.find? (·.startRow == row) = none := by
          rw [List.find?_eq_none]
          intro d hd
          have := hback.1 d hd
          simp only [beq_iff_eq]
          omega
        rw [List.find?_cons, hne, hrest, List.head?_cons,
          Option.filter_some_neg (by simpa using hrow)]
  · intro c hc
    have hlt : c.startRow < row := by simpa using (List.mem_filter.mp hc).2
    simp only [beq_iff_eq]
    omega

/-- Where two comments do not join, the groups of what comes before and behind are apart. -/
theorem groupComments_append {front back : List PlacedComment}
    (h : ∀ c ∈ front.getLast?, ∀ d ∈ back.head?, c.joins d = false) :
    groupComments (front ++ back) = groupComments front ++ groupComments back := by
  rw [groupComments_eq_map_ofRun, List.splitBy_append h, List.map_append,
    ← groupComments_eq_map_ofRun, ← groupComments_eq_map_ofRun]

/-- Comments that join make up the first group, together with those behind that join it. -/
theorem groupComments_append_of_isChain {run : List PlacedComment} (hrun : run ≠ [])
    (hchain : run.IsChain (PlacedComment.joins · ·)) (cs : List PlacedComment) :
    groupComments (run ++ cs) = groupAfter (ofRun run) cs := by
  rw [groupComments_eq_map_ofRun, groupAfter_ofRun hrun hchain]

/-- A group ends where one of its comments ends. -/
theorem endRow_of_mem_groupAfter {cs : List PlacedComment} {current g : PlacedGroup}
    (h : g ∈ groupAfter current cs) :
    g.group.endRow = current.group.endRow ∨ ∃ c ∈ cs, g.group.endRow = c.endRow := by
  induction cs generalizing current with
  | nil =>
    rw [groupAfter, List.mem_singleton] at h
    exact .inl (by rw [h])
  | cons c rest ih =>
    rw [groupAfter] at h
    split at h
    · obtain hend | ⟨d, hd, hend⟩ := ih h
      · exact .inr ⟨c, List.mem_cons_self, hend⟩
      · exact .inr ⟨d, List.mem_cons_of_mem c hd, hend⟩
    · obtain rfl | h := List.mem_cons.mp h
      · exact .inl rfl
      · obtain hend | ⟨d, hd, hend⟩ := ih h
        · exact .inr ⟨c, List.mem_cons_self, hend⟩
        · exact .inr ⟨d, List.mem_cons_of_mem c hd, hend⟩

theorem endRow_of_mem_groupComments {cs : List PlacedComment} {g : PlacedGroup}
    (h : g ∈ groupComments cs) : ∃ c ∈ cs, g.group.endRow = c.endRow := by
  cases cs with
  | nil => exact absurd h List.not_mem_nil
  | cons c rest =>
    obtain hend | ⟨d, hd, hend⟩ := endRow_of_mem_groupAfter h
    · exact ⟨c, List.mem_cons_self, hend⟩
    · exact ⟨d, List.mem_cons_of_mem c hd, hend⟩

/-- Groups that do not end right above the row hold no documentation for it. -/
theorem docAbove?_append_of_forall_ne {front back : List PlacedGroup} {row : Nat}
    (h : ∀ g ∈ front, g.group.endRow + 1 ≠ row) :
    docAbove? (front ++ back) row = docAbove? back row := by
  cases row with
  | zero => rfl
  | succ above =>
    rw [docAbove?, docAbove?, List.find?_append, List.find?_eq_none.mpr, Option.none_or]
    intro g hg
    have := h g hg
    simp only [Bool.and_eq_true, beq_iff_eq, not_and]
    omega

theorem docAbove?_of_forall_ne {groups : List PlacedGroup} {row : Nat}
    (h : ∀ g ∈ groups, g.group.endRow + 1 ≠ row) : docAbove? groups row = none := by
  rw [← List.append_nil groups, docAbove?_append_of_forall_ne h]
  cases row <;> rfl

theorem docAbove?_cons {g : PlacedGroup} {row : Nat} (htrailing : g.trailing = false)
    (hrow : g.group.endRow + 1 = row) (groups : List PlacedGroup) :
    docAbove? (g :: groups) row = some g.group := by
  subst hrow
  simp [docAbove?, htrailing]

/-! ### Rows of line comments -/

/-- Line comments with the given texts, on one row after another. -/
def lineComments (row : Nat) : List String → List PlacedComment
  | [] => []
  | text :: rest =>
    { raw := "//" ++ text, startRow := row, endRow := row, trailing := false } ::
      lineComments (row + 1) rest

theorem isChain_lineComments (row : Nat) (texts : List String) :
    (lineComments row texts).IsChain (PlacedComment.joins · ·) := by
  induction texts generalizing row with
  | nil => exact List.isChain_nil
  | cons text rest ih =>
    cases rest with
    | nil => exact List.isChain_singleton _
    | cons next rest =>
      exact List.isChain_cons_cons.mpr ⟨PlacedComment.joins_iff.mpr ⟨rfl, rfl, rfl⟩, ih (row + 1)⟩

/-- The last of the comments stands right above the row behind them. -/
theorem exists_getLast?_lineComments (row : Nat) {texts : List String} (hne : texts ≠ []) :
    ∃ last, (lineComments row texts).getLast? = some last ∧ last.trailing = false ∧
      last.endRow + 1 = row + texts.length := by
  induction texts generalizing row with
  | nil => exact absurd rfl hne
  | cons text rest ih =>
    cases rest with
    | nil => exact ⟨_, rfl, rfl, rfl⟩
    | cons next rest =>
      obtain ⟨last, hlast, htrailing, hrow⟩ := ih (row + 1) (by simp)
      refine ⟨last, hlast, htrailing, ?_⟩
      rw [hrow, List.length_cons, List.length_cons, List.length_cons]
      omega

/-- Comments in order whose rows from `row` on hold a line comment each. -/
theorem filter_from_row {cs : List PlacedComment}
    (h : cs.Pairwise fun c d => c.startRow ≤ d.startRow) {row : Nat} {texts : List String}
    (hrows : ∀ i (hi : i < texts.length),
      cs.filter (·.startRow == row + i) = lineComments (row + i) [texts[i]]) :
    cs.filter (row ≤ ·.startRow) =
      lineComments row texts ++ cs.filter (row + texts.length ≤ ·.startRow) := by
  induction texts generalizing row with
  | nil => rfl
  | cons text rest ih =>
    have hfirst : cs.filter (·.startRow == row) = lineComments row [text] :=
      hrows 0 (Nat.zero_lt_succ _)
    have hrest : cs.filter (row + 1 ≤ ·.startRow) = lineComments (row + 1) rest ++
        cs.filter (row + 1 + rest.length ≤ ·.startRow) := ih fun i hi => by
      rw [Nat.add_right_comm, Nat.add_assoc]
      exact hrows (i + 1) (Nat.succ_lt_succ hi)
    rw [← filter_append_filter_startRow (h.filter (row ≤ ·.startRow)) (row + 1),
      List.filter_filter, List.filter_filter]
    have hone : cs.filter (fun c => decide (c.startRow < row + 1) && decide (row ≤ c.startRow)) =
        cs.filter (·.startRow == row) := by
      refine List.filter_congr fun c _ => ?_
      rw [Bool.eq_iff_iff]
      simp only [Bool.and_eq_true, decide_eq_true_eq, beq_iff_eq]
      omega
    have hmore : cs.filter (fun c => decide (row + 1 ≤ c.startRow) && decide (row ≤ c.startRow)) =
        cs.filter (row + 1 ≤ ·.startRow) := by
      refine List.filter_congr fun c _ => ?_
      rw [Bool.eq_iff_iff]
      simp only [Bool.and_eq_true, decide_eq_true_eq]
      omega
    rw [hone, hfirst, hmore, hrest, List.length_cons, Nat.add_comm rest.length 1, ← Nat.add_assoc]
    rfl

/-- Without a comment on the row above, nothing in front of the line comments matters. -/
theorem docAbove?_eq_of_clear {cs back : List PlacedComment} (h : InOrder cs) {row below : Nat}
    (hback : cs.filter (row ≤ ·.startRow) = back) (hbelow : row ≤ below)
    (habove : ∀ c ∈ cs, c.startRow < row → c.endRow + 1 < row) :
    docAbove? (groupComments cs) below = docAbove? (groupComments back) below := by
  have hfront : ∀ c ∈ cs.filter (·.startRow < row), c.endRow + 1 < row := fun c hc =>
    habove c (List.mem_filter.mp hc).1 (by simpa using (List.mem_filter.mp hc).2)
  rw [← filter_append_filter_startRow h.startRows row, groupComments_append,
    docAbove?_append_of_forall_ne, hback]
  · intro g hg
    obtain ⟨c, hc, hrow⟩ := endRow_of_mem_groupComments hg
    have := hfront c hc
    omega
  · intro c hc d hd
    have hlast := hfront c (List.mem_of_getLast? hc)
    have hrow : row ≤ d.startRow := by simpa using (List.mem_filter.mp (List.mem_of_head? hd)).2
    rw [← Bool.not_eq_true, PlacedComment.joins_iff]
    omega

/-- Line comments are the documentation of the row below them if the next comment does not join. -/
theorem docAbove?_lineComments {row : Nat} {texts : List String} (hne : texts ≠ [])
    {back : List PlacedComment}
    (h : ∀ d ∈ back.head?, d.startRow = row + texts.length → d.trailing = true) :
    docAbove? (groupComments (lineComments row texts ++ back)) (row + texts.length) =
      some (ofRun (lineComments row texts)).group := by
  obtain ⟨last, hlast, htrailing, hrow⟩ := exists_getLast?_lineComments row hne
  have hrun : lineComments row texts ≠ [] := fun hnil => by simp [hnil] at hlast
  have hgathers := gathers_ofRun hrun (isChain_lineComments row texts)
  rw [groupComments_append, ← List.append_nil (lineComments row texts),
    groupComments_append_of_isChain hrun (isChain_lineComments row texts), groupAfter,
    List.append_nil, List.singleton_append]
  · refine docAbove?_cons ?_ ?_ _
    · rw [← hgathers.trailing last (List.mem_of_getLast? hlast), htrailing]
    · have hend := hgathers.endRow
      rw [hlast, Option.map_some, Option.some.injEq] at hend
      rw [← hend, hrow]
  · intro c hc d hd
    rw [← Bool.not_eq_true, PlacedComment.joins_iff]
    rintro ⟨hd', -, hjoin⟩
    rw [show c = last from Option.some.inj (hc.symm.trans hlast), hrow] at hjoin
    exact absurd (hd'.symm.trans (h d hd hjoin.symm)) (by simp)

/-- They are not if the next comment joins them: then their group ends on a later row. -/
theorem docAbove?_lineComments_of_joins {row : Nat} {texts : List String} (hne : texts ≠ [])
    {d : PlacedComment} {more : List PlacedComment} (hd : d.startRow = row + texts.length)
    (hd' : d.trailing = false) (hend : ∀ c ∈ d :: more, row + texts.length ≤ c.endRow) :
    docAbove? (groupComments (lineComments row texts ++ d :: more)) (row + texts.length) = none := by
  obtain ⟨last, hlast, htrailing, hrow⟩ := exists_getLast?_lineComments row hne
  have hchain : (lineComments row texts ++ [d]).IsChain (PlacedComment.joins · ·) := by
    refine List.isChain_append.mpr
      ⟨isChain_lineComments row texts, List.isChain_singleton d, fun c hc e he => ?_⟩
    rw [show c = last from Option.some.inj (hc.symm.trans hlast), ← Option.some.inj he]
    exact PlacedComment.joins_iff.mpr ⟨hd', htrailing, hrow.trans hd.symm⟩
  rw [← List.singleton_append, ← List.append_assoc,
    groupComments_append_of_isChain (by simp) hchain, docAbove?_of_forall_ne]
  intro g hg
  have hfirst := hend d List.mem_cons_self
  obtain hg | ⟨c, hc, hg⟩ := endRow_of_mem_groupAfter hg
  · rw [hg]
    simp only [ofRun, List.getLast?_concat, Option.map_some, Option.getD_some]
    omega
  · have := hend c (List.mem_cons_of_mem d hc)
    omega

/-- **Line comments above a row are its documentation if the first comment on the row, when there is
one, trails code.**  Otherwise the row has none. -/
theorem docAbove?_groupComments {cs : List PlacedComment} (h : InOrder cs) {row : Nat}
    {texts : List String}
    (hrows : ∀ i (hi : i < texts.length),
      cs.filter (·.startRow == row + i) = lineComments (row + i) [texts[i]])
    (habove : ∀ c ∈ cs, c.startRow < row → c.endRow + 1 < row) :
    docAbove? (groupComments cs) (row + texts.length) =
      if texts ≠ [] ∧ (cs.find? (·.startRow == row + texts.length)).all (·.trailing) = true then
        some (ofRun (lineComments row texts)).group
      else none := by
  have hend : ∀ c ∈ cs.filter (row + texts.length ≤ ·.startRow),
      row + texts.length ≤ c.endRow := fun c hc =>
    (show row + texts.length ≤ c.startRow by simpa using (List.mem_filter.mp hc).2).trans
      (h.rows c (List.mem_filter.mp hc).1)
  rw [docAbove?_eq_of_clear h (filter_from_row h.startRows hrows) (Nat.le_add_right _ _) habove,
    find?_startRow h.startRows]
  generalize cs.filter (row + texts.length ≤ ·.startRow) = back at hend ⊢
  by_cases hnil : texts = []
  · -- There are no line comments, and the groups behind end on later rows.
    subst hnil
    rw [if_neg (by simp), lineComments, List.nil_append, docAbove?_of_forall_ne]
    intro g hg
    obtain ⟨c, hc, hrow⟩ := endRow_of_mem_groupComments hg
    have := hend c hc
    omega
  by_cases hkept : (back.head?.filter (·.startRow == row + texts.length)).all (·.trailing) = true
  · rw [if_pos ⟨hnil, hkept⟩, docAbove?_lineComments hnil]
    intro d hd hrow
    rwa [Option.mem_def.mp hd, Option.filter_some_pos (by simpa using hrow)] at hkept
  · obtain ⟨d, hd, hd'⟩ : ∃ d, back.head?.filter (·.startRow == row + texts.length) = some d ∧
        d.trailing = false := by
      cases hfilter : back.head?.filter (·.startRow == row + texts.length) with
      | none =>
        rw [hfilter] at hkept
        exact absurd rfl hkept
      | some d => exact ⟨d, rfl, by simpa [hfilter] using hkept⟩
    rw [Option.filter_eq_some_iff] at hd
    obtain ⟨more, rfl⟩ := List.head?_eq_some_iff.mp hd.1
    rw [if_neg fun h => hkept h.2,
      docAbove?_lineComments_of_joins hnil (by simpa using hd.2) hd' hend]

/-- The documentation has the texts of the comments. -/
theorem lines_ofRun_lineComments (row : Nat) (texts : List String) :
    (ofRun (lineComments row texts)).group.lines = texts.map trim := by
  induction texts generalizing row with
  | nil => rfl
  | cons text rest ih =>
    have hline : commentLines ("//" ++ text) = [trim text] := by
      rw [commentLines, dropStart?_eq_some_iff.mpr rfl]
    have hrest := ih (row + 1)
    simp only [ofRun, lineComments, List.flatMap_cons, hline, List.map_cons,
      List.singleton_append] at hrest ⊢
    rw [hrest]

end AnnotatedApi
