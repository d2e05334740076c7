import AnnotatedApi.GoSource.Rule
import AnnotatedApi.Proofs.GoSource.Leaves
import Mathlib.Tactic.SplitIfs

/-!
What the rules read stands in the order of the text.

The flow of tokens are the tokens and the comments in front of them.  A rule keeps the flow when the
trees that it reads and the tokens that it leaves have it, some line breaks apart (`Rule.Keeps`), and
it takes something when its trees have a token as well (`Rule.Takes`), which is asked of a rule that a
construct is made of.  Both go through all the ways to build rules.
-/

namespace AnnotatedApi.GoSource

/-! ### The flow of the text -/

/-- The comments in front of a token and the token itself. -/
def Token.flow (t : Token) : List Leaf :=
  t.comments.map .comment ++ [.token { t with comments := [] }]

/-- Tokens and the comments in front of them, in the order of the text. -/
def flow (ts : List Token) : List Leaf :=
  ts.flatMap Token.flow

def Leaf.flow : Leaf → List Leaf
  | .comment c => [.comment c]
  | .token t => t.flow

/-- The tokens of trees and the comments in front of them or between them. -/
def flowOf (trees : List Tree) : List Leaf :=
  (leavesOf trees).flatMap Leaf.flow

theorem leavesOf_append (front back : List Tree) :
    leavesOf (front ++ back) = leavesOf front ++ leavesOf back := by
  induction front with
  | nil => rfl
  | cons t rest ih => rw [List.cons_append, leavesOf, leavesOf, ih, List.append_assoc]

theorem tokensOf_append (front back : List Tree) :
    Tree.tokensOf (front ++ back) = Tree.tokensOf front ++ Tree.tokensOf back := by
  rw [← filterMap_token_leavesOf, leavesOf_append, List.filterMap_append,
    filterMap_token_leavesOf, filterMap_token_leavesOf]

theorem areFull_append (front back : List Tree) :
    areFull (front ++ back) = (areFull front && areFull back) := by
  induction front with
  | nil => rfl
  | cons t rest ih => rw [List.cons_append, areFull, areFull, ih, Bool.and_assoc]

theorem flowOf_append (front back : List Tree) :
    flowOf (front ++ back) = flowOf front ++ flowOf back := by
  rw [flowOf, leavesOf_append, List.flatMap_append]
  rfl

theorem flowOf_map_token (ts : List Token) : flowOf (ts.map .token) = flow ts := by
  induction ts with
  | nil => rfl
  | cons t rest ih => exact congrArg (t.flow ++ ·) ih

theorem tokensOf_map_token (ts : List Token) : Tree.tokensOf (ts.map .token) = ts := by
  induction ts with
  | nil => rfl
  | cons t rest ih => exact congrArg (t :: ·) ih

theorem areFull_map_token (ts : List Token) : areFull (ts.map .token) = true := by
  induction ts with
  | nil => rfl
  | cons t rest ih => exact ih

/-- Only line breaks are dropped, and the comments in front of them stay. -/
theorem flow_joinLines (passed : List Comment) (ts : List Token) :
    (flow (joinLines passed ts)).Sublist (passed.map .comment ++ flow ts) := by
  induction ts generalizing passed with
  | nil => exact List.nil_sublist _
  | cons t rest ih =>
    rw [joinLines]
    split
    · refine (ih (passed ++ t.comments)).trans ?_
      rw [flow, flow, List.flatMap_cons, List.map_append, List.append_assoc, Token.flow,
        List.append_assoc]
      exact ((List.sublist_append_right _ _).append_left _).append_left _
    · have heq : flow ({ t with comments := passed ++ t.comments } :: rest) =
          passed.map .comment ++ flow (t :: rest) := by
        rw [flow, flow, List.flatMap_cons, List.flatMap_cons, Token.flow, Token.flow,
          List.map_append, List.append_assoc, List.append_assoc, List.append_assoc]
      exact heq ▸ List.Sublist.refl _

namespace Rule

/-- What the rule reads and what it leaves is in the order of the text, and no construct that it
makes is empty. -/
class Keeps (r : Rule) : Prop where
  flow : ∀ {ts trees rest}, r ts = some (trees, rest) →
    (flowOf trees ++ GoSource.flow rest).Sublist (GoSource.flow ts)
  full : ∀ {ts trees rest}, r ts = some (trees, rest) → areFull trees = true

/-- The rule reads one token at least. -/
class Takes (r : Rule) : Prop extends Keeps r where
  takes : ∀ {ts trees rest}, r ts = some (trees, rest) → Tree.tokensOf trees ≠ []

/-! ### Ways to build rules -/

variable {r separator item : Rule} {rs : List Rule} {lines : Bool}

/-- A rule that leaves what it is given. -/
theorem keeps_of_eq (h : ∀ {ts trees rest}, r ts = some (trees, rest) → trees = [] ∧ rest = ts) :
    Keeps r where
  flow := fun hr => by
    obtain ⟨rfl, rfl⟩ := h hr
    exact List.Sublist.refl _
  full := fun hr => by
    obtain ⟨rfl, -⟩ := h hr
    rfl

/-- A rule that reads one token. -/
theorem takes_of_token (h : ∀ {ts trees rest}, r ts = some (trees, rest) →
    ∃ t, trees = [.token t] ∧ (GoSource.flow (t :: rest)).Sublist (GoSource.flow ts)) : Takes r where
  flow := fun hr => by
    obtain ⟨t, rfl, hflow⟩ := h hr
    simpa [flowOf, leavesOf, Tree.leaves, Leaf.flow, GoSource.flow] using hflow
  full := fun hr => by
    obtain ⟨t, rfl, -⟩ := h hr
    rfl
  takes := fun hr => by
    obtain ⟨t, rfl, -⟩ := h hr
    simp [Tree.tokensOf, Tree.tokens]

/-- A rule whose results are all those of rules that keep the flow. -/
theorem keeps_of_imp (h : ∀ {ts result}, r ts = some result →
    ∃ r', Keeps r' ∧ r' ts = some result) : Keeps r where
  flow := fun hr => by
    obtain ⟨r', hkeeps, hr'⟩ := h hr
    exact hkeeps.flow hr'
  full := fun hr => by
    obtain ⟨r', hkeeps, hr'⟩ := h hr
    exact hkeeps.full hr'

theorem takes_of_imp (h : ∀ {ts result}, r ts = some result →
    ∃ r', Takes r' ∧ r' ts = some result) : Takes r where
  toKeeps := keeps_of_imp fun hr => by
    obtain ⟨r', htakes, hr'⟩ := h hr
    exact ⟨r', htakes.toKeeps, hr'⟩
  takes := fun hr => by
    obtain ⟨r', htakes, hr'⟩ := h hr
    exact htakes.takes hr'

instance keeps_empty : Keeps empty :=
  keeps_of_eq fun hr => by
    cases hr
    exact ⟨rfl, rfl⟩

instance keeps_before (p : Token → Bool) : Keeps (before p) :=
  keeps_of_eq fun {ts trees rest} hr => by
    rw [before] at hr
    split at hr
    · exact nomatch hr
    · split at hr
      · cases hr
        exact ⟨rfl, rfl⟩
      · exact nomatch hr

instance takes_token (p : Token → Bool) : Takes (token p) :=
  takes_of_token fun {ts trees rest} hr => by
    have hflow := flow_joinLines [] ts
    rw [token] at hr
    split at hr
    · exact nomatch hr
    · next t more hjoin =>
      split at hr
      · cases hr
        rw [hjoin] at hflow
        exact ⟨t, rfl, hflow⟩
      · exact nomatch hr

instance takes_mark (text : String) : Takes (mark text) :=
  takes_token _

instance takes_anyMark (texts : List String) : Takes (anyMark texts) :=
  takes_token _

instance takes_word (text : String) : Takes (word text) :=
  takes_token _

instance takes_name : Takes name :=
  takes_token _

instance takes_terminator : Takes terminator :=
  takes_of_token fun {ts trees rest} hr => by
    rw [terminator.eq_def] at hr
    split at hr
    · exact nomatch hr
    · split at hr
      · cases hr
        exact ⟨_, rfl, List.Sublist.refl _⟩
      · exact nomatch hr

/-- What reads in two steps. -/
theorem seq_cons_eq_some {ts rest : List Token} {trees : List Tree}
    (h : seq (r :: rs) ts = some (trees, rest)) :
    ∃ front middle back, r ts = some (front, middle) ∧ seq rs middle = some (back, rest) ∧
      trees = front ++ back := by
  simp only [seq] at h
  split at h
  · exact nomatch h
  · next front middle hfront =>
    split at h
    · exact nomatch h
    · next back rest' hback =>
      cases h
      exact ⟨front, middle, back, hfront, hback, rfl⟩

theorem sublist_of_two {front back : List Tree} {ts middle rest : List Token}
    (hfront : (flowOf front ++ GoSource.flow middle).Sublist (GoSource.flow ts))
    (hback : (flowOf back ++ GoSource.flow rest).Sublist (GoSource.flow middle)) :
    (flowOf (front ++ back) ++ GoSource.flow rest).Sublist (GoSource.flow ts) := by
  rw [flowOf_append, List.append_assoc]
  exact (hback.append_left _).trans hfront

instance keeps_seq_nil : Keeps (seq []) :=
  keeps_empty

instance keeps_seq_cons [hr : Keeps r] [hrs : Keeps (seq rs)] : Keeps (seq (r :: rs)) where
  flow := fun h => by
    obtain ⟨front, middle, back, hfront, hback, rfl⟩ := seq_cons_eq_some h
    exact sublist_of_two (hr.flow hfront) (hrs.flow hback)
  full := fun h => by
    obtain ⟨front, middle, back, hfront, hback, rfl⟩ := seq_cons_eq_some h
    rw [areFull_append, hr.full hfront, hrs.full hback]
    rfl

/-- A sequence takes something when one of its rules does. -/
instance takes_seq_behind [Keeps r] [hrs : Takes (seq rs)] : Takes (seq (r :: rs)) where
  takes := fun h => by
    obtain ⟨front, middle, back, hfront, hback, rfl⟩ := seq_cons_eq_some h
    rw [tokensOf_append]
    exact List.append_ne_nil_of_right_ne_nil _ (hrs.takes hback)

instance takes_seq_cons [hr : Takes r] [Keeps (seq rs)] : Takes (seq (r :: rs)) where
  takes := fun h => by
    obtain ⟨front, middle, back, hfront, hback, rfl⟩ := seq_cons_eq_some h
    rw [tokensOf_append]
    exact List.append_ne_nil_of_left_ne_nil (hr.takes hfront) _

theorem firstOf_cons_eq_some {ts : List Token} {result : List Tree × List Token}
    (h : firstOf (r :: rs) ts = some result) :
    r ts = some result ∨ firstOf rs ts = some result := by
  simp only [firstOf] at h
  split at h
  · next hr => exact .inl (hr.trans h)
  · exact .inr h

instance keeps_firstOf_nil : Keeps (firstOf []) :=
  keeps_of_imp fun h => nomatch h

instance takes_firstOf_nil : Takes (firstOf []) :=
  takes_of_imp fun h => nomatch h

instance keeps_firstOf_cons [hr : Keeps r] [hrs : Keeps (firstOf rs)] :
    Keeps (firstOf (r :: rs)) :=
  keeps_of_imp fun h => (firstOf_cons_eq_some h).elim (⟨r, hr, ·⟩) (⟨_, hrs, ·⟩)

instance takes_firstOf_cons [hr : Takes r] [hrs : Takes (firstOf rs)] :
    Takes (firstOf (r :: rs)) :=
  takes_of_imp fun h => (firstOf_cons_eq_some h).elim (⟨r, hr, ·⟩) (⟨_, hrs, ·⟩)

theorem attached_eq_some {ts : List Token} {result : List Tree × List Token}
    (h : attached lines r ts = some result) : r ts = some result := by
  rw [attached] at h
  split at h
  · exact nomatch h
  · exact h

instance keeps_attached [hr : Keeps r] : Keeps (attached lines r) :=
  keeps_of_imp fun h => ⟨r, hr, attached_eq_some h⟩

instance takes_attached [hr : Takes r] : Takes (attached lines r) :=
  takes_of_imp fun h => ⟨r, hr, attached_eq_some h⟩

instance keeps_optional [Keeps r] : Keeps (optional lines r) :=
  keeps_firstOf_cons

instance keeps_repeated [Keeps r] (clock : List Token) : Keeps (repeated lines r clock) := by
  induction clock with
  | nil => exact keeps_empty
  | cons t clock ih =>
    -- Once more is the rule and then the repetition with a shorter clock.
    refine keeps_of_imp fun {ts result} h => ?_
    rw [repeated] at h
    split at h
    · exact ⟨empty, keeps_empty, h⟩
    · next front middle hfront =>
      refine ⟨seq [attached lines r, repeated lines r clock], inferInstance, ?_⟩
      split at h
      · exact nomatch h
      · next back rest hback => simpa [seq, hfront, hback, empty] using h

instance keeps_many [Keeps r] : Keeps (many lines r) :=
  keeps_of_imp fun {ts _} h => ⟨repeated lines r ts, inferInstance, h⟩

instance takes_separated [Keeps separator] [Takes item] :
    Takes (separated lines separator item) := by
  unfold separated
  infer_instance

instance takes_commas [Takes item] : Takes (commas lines item) :=
  takes_separated

instance takes_listed (opening closing : String) [Takes item] :
    Takes (listed opening closing item) := by
  unfold listed
  infer_instance

instance keeps_terminated [Keeps item] : Keeps (terminated item) := by
  unfold terminated
  infer_instance

/-! ### Constructs -/

theorem flowOf_node (k : Construct) (members : List Tree) :
    flowOf [.node k members] = flowOf members := by
  rw [flowOf, leavesOf, leavesOf, List.append_nil, Tree.leaves]
  rfl

theorem tokensOf_node (k : Construct) (members : List Tree) :
    Tree.tokensOf [.node k members] = Tree.tokensOf members := by
  rw [Tree.tokensOf, Tree.tokensOf, List.append_nil, Tree.tokens]

theorem areFull_node (k : Construct) {members : List Tree} (htokens : Tree.tokensOf members ≠ [])
    (hfull : areFull members = true) : areFull [.node k members] = true := by
  simp [areFull, Tree.isFull, htokens, hfull]

/-- A rule whose results are those of a rule that takes something, or constructs of them. -/
theorem takes_of_node {r' : Rule} [hr : Takes r] (h : ∀ {ts trees rest},
    r' ts = some (trees, rest) → ∃ members, r ts = some (members, rest) ∧
      (trees = members ∨ ∃ k, trees = [.node k members])) : Takes r' where
  flow := fun hr' => by
    obtain ⟨members, hmembers, rfl | ⟨k, rfl⟩⟩ := h hr'
    · exact hr.flow hmembers
    · rw [flowOf_node]
      exact hr.flow hmembers
  full := fun hr' => by
    obtain ⟨members, hmembers, rfl | ⟨k, rfl⟩⟩ := h hr'
    · exact hr.full hmembers
    · exact areFull_node k (hr.takes hmembers) (hr.full hmembers)
  takes := fun hr' => by
    obtain ⟨members, hmembers, rfl | ⟨k, rfl⟩⟩ := h hr'
    · exact hr.takes hmembers
    · rw [tokensOf_node]
      exact hr.takes hmembers

instance takes_node (k : Construct) [Takes r] : Takes (node k r) :=
  takes_of_node (r := r) fun hr => by
    obtain ⟨⟨members, rest⟩, hmembers, heq⟩ := Option.map_eq_some_iff.mp hr
    cases heq
    exact ⟨members, hmembers, .inr ⟨k, rfl⟩⟩

instance takes_group (k : Construct) [Takes r] : Takes (group k r) :=
  takes_of_node (r := r) fun hr => by
    obtain ⟨⟨members, rest⟩, hmembers, heq⟩ := Option.map_eq_some_iff.mp hr
    simp only at heq
    split at heq
    · cases heq
      exact ⟨_, hmembers, .inl rfl⟩
    · cases heq
      exact ⟨_, hmembers, .inr ⟨k, rfl⟩⟩

/-- Each continuation goes behind what is read so far. -/
theorem keeps_extended (k : Construct) {continuation : Rule} [hr : Keeps continuation]
    (clock : List Token) {front trees : List Tree} {ts rest : List Token}
    (hfull : areFull front = true) (htokens : Tree.tokensOf front ≠ [])
    (h : extended lines k continuation clock front ts = (trees, rest)) :
    (flowOf trees ++ GoSource.flow rest).Sublist (flowOf front ++ GoSource.flow ts) ∧
      areFull trees = true ∧ Tree.tokensOf trees ≠ [] := by
  induction clock generalizing front ts with
  | nil =>
    cases h
    exact ⟨List.Sublist.refl _, hfull, htokens⟩
  | cons t clock ih =>
    rw [extended] at h
    split at h
    · cases h
      exact ⟨List.Sublist.refl _, hfull, htokens⟩
    · next more middle hmore =>
      have hmore := attached_eq_some hmore
      have hlonger : Tree.tokensOf (front ++ more) ≠ [] := by
        rw [tokensOf_append]
        exact List.append_ne_nil_of_left_ne_nil htokens _
      have hmembers : areFull (front ++ more) = true := by
        rw [areFull_append, hfull, hr.full hmore]
        rfl
      obtain ⟨hflow, hrest⟩ := ih (areFull_node k hlonger hmembers)
        (by rwa [tokensOf_node]) h
      refine ⟨hflow.trans ?_, hrest⟩
      rw [flowOf_node, flowOf_append, List.append_assoc]
      exact (hr.flow hmore).append_left _

instance takes_growing (k : Construct) {start continuation : Rule} [hstart : Takes start]
    [Keeps continuation] : Takes (growing lines k start continuation) := by
  have hread : ∀ {ts trees rest}, growing lines k start continuation ts = some (trees, rest) →
      (flowOf trees ++ GoSource.flow rest).Sublist (GoSource.flow ts) ∧
        areFull trees = true ∧ Tree.tokensOf trees ≠ [] := by
    intro ts trees rest h
    obtain ⟨⟨front, middle⟩, hfront, hextended⟩ := Option.map_eq_some_iff.mp h
    obtain ⟨hflow, hrest⟩ :=
      keeps_extended k middle (hstart.full hfront) (hstart.takes hfront) hextended
    exact ⟨hflow.trans (hstart.flow hfront), hrest⟩
  exact
    { flow := fun h => (hread h).1
      full := fun h => (hread h).2.1
      takes := fun h => (hread h).2.2 }

theorem balanced_append (depth : Nat) (ts : List Token) :
    (balanced depth ts).1 ++ (balanced depth ts).2 = ts := by
  induction ts generalizing depth with
  | nil => rfl
  | cons t rest ih =>
    have hgo : ∀ depth, t :: (balanced depth rest).1 ++ (balanced depth rest).2 = t :: rest :=
      fun depth => congrArg (t :: ·) (ih depth)
    rw [balanced.eq_def]
    dsimp only
    split_ifs
    · rfl
    · exact hgo _
    · cases depth with
      | zero => rfl
      | succ depth => exact hgo depth
    · rfl
    · exact hgo depth

instance takes_skimmed : Takes skimmed := by
  have hread : ∀ {ts trees rest}, skimmed ts = some (trees, rest) → ∃ front, front ≠ [] ∧
      trees = [.node .unknown (front.map .token)] ∧ front ++ rest = joinLines [] ts := by
    intro ts trees rest h
    have happend := balanced_append 0 (joinLines [] ts)
    rw [skimmed] at h
    split at h
    · exact nomatch h
    · next front rest' hne hbalanced =>
      cases h
      rw [hbalanced] at happend
      exact ⟨front, hne, rfl, happend⟩
  refine { flow := fun {ts trees rest} h => ?_, full := fun h => ?_, takes := fun h => ?_ }
  · obtain ⟨front, -, rfl, happend⟩ := hread h
    have hflow := flow_joinLines [] ts
    rw [← happend, GoSource.flow, List.flatMap_append] at hflow
    rwa [flowOf_node, flowOf_map_token]
  · obtain ⟨front, hne, rfl, -⟩ := hread h
    exact areFull_node _ (by rwa [tokensOf_map_token]) (areFull_map_token front)
  · obtain ⟨front, hne, rfl, -⟩ := hread h
    rwa [tokensOf_node, tokensOf_map_token]

end Rule

end AnnotatedApi.GoSource
