import AnnotatedApi.GoSource.Tree
import AnnotatedApi.Comment.Grouping

/-!
Where comments stand in the code.

A comment trails code when the member of the same construct right before it ends on the row of the
comment. Marks and keywords in between do not count, and a comment behind another one trails
nothing.
-/

namespace AnnotatedApi.GoSource

mutual

/-- The comments inside a tree. -/
def Tree.comments : Tree → List PlacedComment
  | .node _ members => commentsAmong none members
  | _ => []

/-- The comments among the members of a construct and inside them. `above` is the row on which the
last element before them ends; there is none at the beginning and behind a comment. -/
def commentsAmong (above : Option Nat) : List Tree → List PlacedComment
  | [] => []
  | t :: rest =>
    match t with
    | .comment c =>
      { raw := c.text, startRow := c.row, endRow := c.endRow, trailing := above == some c.row } ::
        commentsAmong none rest
    | t => t.comments ++ commentsAmong (if t.isElement then some t.endRow else above) rest

end

/-- The comment groups of a file. -/
def Tree.commentGroups (t : Tree) : List PlacedGroup :=
  groupComments t.comments

end AnnotatedApi.GoSource
