import AnnotatedApi.GoSource.Reader
import AnnotatedApi.Proofs.Comment.Documentation
import AnnotatedApi.Proofs.GoSource.ReadTree

/-!
The documentation of functions.

A row that holds a line comment and nothing else has one comment, which does not trail code
(`Tree.IsLaidOut.filter_comments`), and the comments of a tree that is laid out are in order, so what
holds of the documentation of rows holds of functions.  All trees that are read are laid out
(`readTree_isLaidOut`).  Main statement: `Tree.IsLaidOut.function_doc`.
-/

namespace AnnotatedApi.GoSource

open Text PlacedGroup

variable {t : Tree}

/-! ### The rows of a tree -/

/-- Whether the row holds a line comment with the given text and nothing else. -/
def Tree.IsCommentLine (t : Tree) (row : Nat) (text : String) : Prop :=
  t.leaves.filter (·.occupies row) = [.comment { text := "//" ++ text, row, endRow := row }]

instance (row : Nat) (text : String) : Decidable (t.IsCommentLine row text) :=
  inferInstanceAs (Decidable (_ = _))

/-- A comment that is collected is a leaf. -/
theorem Tree.mem_leaves_of_mem_comments (hnode : t.isComment = false) {c : PlacedComment}
    (hc : c ∈ t.comments) : Leaf.comment c.node ∈ t.leaves := by
  have hmem := List.mem_map_of_mem (f := PlacedComment.node) hc
  rw [t.map_node_comments hnode, commentNodes, List.mem_filterMap] at hmem
  obtain ⟨l, hl, hcomment⟩ := hmem
  cases l with
  | comment node => rwa [← Option.some.inj hcomment]
  | token k => exact nomatch hcomment

/-- The comments of a tree that is laid out are in order. -/
theorem Tree.IsLaidOut.inOrder (ht : t.IsLaidOut) (hnode : t.isComment = false) :
    InOrder t.comments where
  rows := fun _ hc => ht.rows _ (mem_leaves_of_mem_comments hnode hc)
  order := by
    have horder : t.commentNodes.Pairwise fun c d => c.endRow ≤ d.row := by
      rw [commentNodes, List.pairwise_filterMap]
      refine ht.order.imp fun {l m} hle c hc d hd => ?_
      cases l with
      | token k => exact nomatch hc
      | comment c' =>
        cases m with
        | token k => exact nomatch hd
        | comment d' =>
          rw [← Option.some.inj hc, ← Option.some.inj hd]
          exact hle
    rw [← t.map_node_comments hnode, List.pairwise_map] at horder
    exact horder

/-- Among the comments that start on a comment line's row there is just its own. -/
theorem Tree.IsLaidOut.filter_commentNodes (ht : t.IsLaidOut) {row : Nat} {text : String}
    (hline : t.IsCommentLine row text) :
    t.commentNodes.filter (·.row == row) = [{ text := "//" ++ text, row, endRow := row }] := by
  have hfilter : t.commentNodes.filter (·.row == row) =
      ((t.leaves.filter (·.occupies row)).filterMap Leaf.comment?).filter (·.row == row) := by
    rw [commentNodes, List.filter_filterMap, List.filterMap_filter, List.filter_filterMap]
    refine List.filterMap_congr fun l hl => ?_
    cases l with
    | token k => simp [Leaf.comment?]
    | comment c =>
      by_cases hrow : c.row = row
      · have hoccupies : (Leaf.comment c).occupies row = true :=
          Leaf.occupies_iff.mpr ⟨rfl, Nat.le_of_eq hrow, hrow ▸ ht.rows _ hl⟩
        rw [if_pos hoccupies]
      · rw [Leaf.comment?, Option.filter_some_neg (by simpa using hrow)]
        split
        · rw [Option.filter_some_neg (by simpa using hrow)]
        · rfl
  rw [hfilter, hline]
  simp [Leaf.comment?]

/-- The comment of a comment line does not trail code. -/
theorem Tree.IsLaidOut.filter_comments (ht : t.IsLaidOut) (hnode : t.isComment = false)
    {row : Nat} {text : String} (hline : t.IsCommentLine row text) :
    t.comments.filter (·.startRow == row) = lineComments row [text] := by
  have hnodes : (t.comments.filter (·.startRow == row)).map PlacedComment.node =
      [{ text := "//" ++ text, row, endRow := row }] := by
    have hfilter := ht.filter_commentNodes hline
    rwa [← t.map_node_comments hnode, List.filter_map] at hfilter
  obtain ⟨c, hc, hplace⟩ := List.map_eq_singleton_iff.mp hnodes
  have hmem : c ∈ t.comments := (List.mem_filter.mp (hc ▸ List.mem_singleton_self c)).1
  obtain ⟨hraw, hrow, hend⟩ := Comment.mk.inj hplace
  have htrailing : c.trailing = false := by
    rw [Bool.eq_false_iff]
    intro htrailing
    -- The code in front of a trailing comment would have to be on the row.
    obtain ⟨k, hk, hoccupies⟩ := ht.exists_token_of_trailing hmem htrailing
    have hleaf := List.mem_filter.mpr ⟨hk, hrow ▸ hoccupies⟩
    rw [hline, List.mem_singleton] at hleaf
    cases hleaf
  have hplaced : c = ⟨c.raw, c.startRow, c.endRow, c.trailing⟩ := rfl
  rw [hc, hplaced, hraw, hrow, hend, htrailing]
  rfl

/-! ### Declarations -/

/-- The functions read before stay. -/
theorem mem_funcs_declare {file : Surroundings} {read : SourceFile} {f : FuncDecl}
    (h : f ∈ read.funcs) (d : Tree) : f ∈ (declare file read d).funcs := by
  unfold declare
  split
  · split <;> exact h
  · exact h
  · exact List.mem_append_left _ h
  · exact List.mem_append_left _ h
  · exact h

theorem mem_funcs_foldl_declare {file : Surroundings} {read : SourceFile} {f : FuncDecl}
    (h : f ∈ read.funcs) (members : List Tree) :
    f ∈ (members.foldl (declare file) read).funcs := by
  induction members generalizing read with
  | nil => exact h
  | cons d rest ih => exact ih (mem_funcs_declare h d)

/-- A named function or method is read with the documentation above its row. -/
theorem exists_mem_funcs_declare {file : Surroundings} (read : SourceFile) {d : Tree}
    (hd : d.isConstruct .function = true ∨ d.isConstruct .method = true) {name : String}
    (hname : (namesAmong d.members).head? = some name) :
    ∃ f ∈ (declare file read d).funcs,
      f.name = name ∧ f.line = d.row + 1 ∧ f.doc = file.doc d.row := by
  have hfunc : ∀ receiver, ∃ f, funcDeclOf? file d.row receiver d.members = some f ∧
      f.name = name ∧ f.line = d.row + 1 ∧ f.doc = file.doc d.row := by
    intro receiver
    rw [funcDeclOf?, hname, Option.map_some]
    exact ⟨_, rfl, rfl, rfl, rfl⟩
  obtain ⟨receiver, hdeclare⟩ : ∃ receiver, (declare file read d).funcs =
      read.funcs ++ (funcDeclOf? file d.row receiver d.members).toList := by
    cases d with
    | comment c => exact hd.elim nofun nofun
    | token k => exact hd.elim nofun nofun
    | node k members =>
      obtain hk | hk := hd
      · rw [Tree.isConstruct, beq_iff_eq] at hk
        subst hk
        exact ⟨none, rfl⟩
      · rw [Tree.isConstruct, beq_iff_eq] at hk
        subst hk
        exact ⟨_, rfl⟩
  obtain ⟨f, hf, hfacts⟩ := hfunc receiver
  refine ⟨f, ?_, hfacts⟩
  rw [hdeclare, hf]
  exact List.mem_append_right _ (List.mem_singleton_self f)

/-- **A function keeps the line comments above it as its documentation unless the first comment on
its row does not trail code.**  Then it has no documentation. -/
theorem Tree.IsLaidOut.function_doc (ht : t.IsLaidOut) {d : Tree} (hmem : d ∈ t.members)
    (hd : d.isConstruct .function = true ∨ d.isConstruct .method = true) {name : String}
    (hname : (namesAmong d.members).head? = some name) (start : Nat) (texts : List String)
    (hrow : d.row = start + texts.length)
    (hlines : ∀ i (hi : i < texts.length), t.IsCommentLine (start + i) texts[i])
    (habove : ∀ c ∈ t.commentNodes, ¬ (c.row < start ∧ start ≤ c.endRow + 1))
    (path : String) (chars : List Char) :
    ∃ f ∈ (t.toSourceFile path chars).funcs, f.name = name ∧ f.line = d.row + 1 ∧
      f.doc.lines =
        if (t.comments.find? (·.startRow == d.row)).all (·.trailing) then texts.map trim else [] := by
  have hnode : t.isComment = false := by
    cases t with
    | comment c => exact absurd hmem List.not_mem_nil
    | token k => rfl
    | node k members => rfl
  have hclear : ∀ c ∈ t.comments, c.startRow < start → c.endRow + 1 < start := by
    intro c hc hlt
    have hmem : c.node ∈ t.commentNodes := by
      rw [← t.map_node_comments hnode]
      exact List.mem_map_of_mem hc
    have hfree := habove _ hmem
    simp only [PlacedComment.node] at hfree
    omega
  have hdoc := docAbove?_groupComments (ht.inOrder hnode)
    (fun i hi => ht.filter_comments hnode (hlines i hi)) hclear
  obtain ⟨front, back, hsplit⟩ := List.append_of_mem hmem
  let file : Surroundings := { chars, groups := t.commentGroups }
  obtain ⟨f, hf, hfname, hline, hfdoc⟩ := exists_mem_funcs_declare
    (front.foldl (declare file) { path, comments := t.commentGroups.map (·.group) }) hd hname
  refine ⟨f, ?_, hfname, hline, ?_⟩
  · rw [toSourceFile, hsplit, List.foldl_append, List.foldl_cons]
    exact mem_funcs_foldl_declare hf back
  · rw [hfdoc, Surroundings.doc, commentGroups, hrow, hdoc]
    by_cases hnil : texts = []
    · simp [hnil]
    · by_cases hkept : (t.comments.find? (·.startRow == start + texts.length)).all (·.trailing)
      · rw [if_pos ⟨hnil, hkept⟩, if_pos hkept]
        exact lines_ofRun_lineComments start texts
      · rw [if_neg fun h => hkept h.2, if_neg hkept]
        rfl

/-- The first comment on the row of the function stands behind a parameter. -/
theorem doc_of_listed_pets :
    let source :=
      "package main\n\n// @Summary Pets\n// @Router /pets [get]\nfunc List(n int /* most */) \x7b\x7d\n"
    let t := readTree (tokenize (sourceChars source))
    t.IsLaidOut ∧ ∃ f ∈ (read "pets.go" source).funcs, f.name = "List" ∧ f.line = 5 ∧
      f.doc.lines = ["@Summary Pets", "@Router /pets [get]"] := by
  intro source t
  have ht : t.IsLaidOut := readTree_isLaidOut (sourceChars source)
  obtain ⟨d, hmem, hd, hname, hrow⟩ : ∃ d ∈ t.members, d.isConstruct .function = true ∧
      (namesAmong d.members).head? = some "List" ∧ d.row = 2 + 2 := by decide +kernel
  obtain ⟨f, hf, hname, hline, hdoc⟩ := ht.function_doc hmem (.inl hd) hname 2
    [" @Summary Pets", " @Router /pets [get]"] hrow (by decide +kernel) (by decide +kernel)
    "pets.go" (sourceChars source)
  refine ⟨ht, f, hf, hname, ?_, ?_⟩
  · rw [hline, hrow]
  · rw [hdoc, hrow]
    decide +kernel

/-- A comment behind the brace that opens the body trails nothing, and the documentation is lost. -/
theorem doc_lost_to_comment_behind_brace :
    let source :=
      "package main\n\n// @Summary Pets\n// @Router /pets [get]\nfunc List() \x7b // handler\n\x7d\n"
    let t := readTree (tokenize source.toList)
    t.IsCommentLine 2 " @Summary Pets" ∧ t.IsCommentLine 3 " @Router /pets [get]" ∧
    (∀ c ∈ t.commentNodes, ¬ (c.row ≤ 1 ∧ 1 ≤ c.endRow)) ∧
    (t.members.any fun d => d.isConstruct .function && d.row == 4) = true ∧
    (read "pets.go" source).funcs.map (fun f => (f.name, f.line, f.doc.lines)) =
      [("List", 5, [])] := by
  decide +kernel

end AnnotatedApi.GoSource
