import AnnotatedApi.Comment.Basic

/-!
Grouping the comments of a file.

A comment joins the group before it when it starts on the row right below that group, unless one of
the two trails code. The group that ends right above a declaration is its documentation.
-/

namespace AnnotatedApi

/-- A comment in a file. It is trailing when code of the same construct ends on its first row. -/
structure PlacedComment where
  raw : String
  startRow : Nat
  endRow : Nat
  trailing : Bool
deriving DecidableEq, Repr, Inhabited

/-- A group in a file. A trailing comment is alone in its group. -/
structure PlacedGroup where
  group : CommentGroup
  trailing : Bool
deriving DecidableEq, Repr, Inhabited

namespace PlacedGroup

/-- The group of one comment. -/
def single (c : PlacedComment) : PlacedGroup :=
  { group := { lines := commentLines c.raw, startRow := c.startRow, endRow := c.endRow }
    trailing := c.trailing }

/-- Whether a comment continues the group. -/
def accepts (g : PlacedGroup) (c : PlacedComment) : Bool :=
  !c.trailing && !g.trailing && g.group.endRow + 1 == c.startRow

/-- Adds a comment to the group. -/
def extend (g : PlacedGroup) (c : PlacedComment) : PlacedGroup :=
  { g with group := { g.group.push c.raw with endRow := c.endRow } }

end PlacedGroup

/-- Groups the comments that follow the group `current`. -/
def groupAfter (current : PlacedGroup) : List PlacedComment → List PlacedGroup
  | [] => [current]
  | c :: rest =>
    if current.accepts c then groupAfter (current.extend c) rest
    else current :: groupAfter (PlacedGroup.single c) rest

/-- Groups the comments of a file, given in order. -/
def groupComments : List PlacedComment → List PlacedGroup
  | [] => []
  | c :: rest => groupAfter (PlacedGroup.single c) rest

/-- The documentation of what starts on `row`: the first group that ends right above it and does not
trail code. -/
def docAbove? (groups : List PlacedGroup) (row : Nat) : Option CommentGroup :=
  match row with
  | 0 => none
  | above + 1 => (groups.find? fun g => !g.trailing && g.group.endRow == above).map (·.group)

end AnnotatedApi
