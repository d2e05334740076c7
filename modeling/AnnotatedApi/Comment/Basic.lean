import AnnotatedApi.Text.Split

/-!
Comment groups.

A group holds the lines of adjacent comments without their markers, and the zero-based rows it
spans. A line comment gives one line, a block comment one for each of its lines; a star at the start
of a line of a block comment is decoration.
-/

namespace AnnotatedApi

open Text

/-- The lines of adjacent comments. -/
structure CommentGroup where
  lines : List String := []
  startRow : Nat := 0
  endRow : Nat := 0
deriving DecidableEq, Repr, Inhabited

/-- A line of a block comment without its decoration. -/
def undecorated (line : String) : String :=
  let line := trim line
  match dropStart? "*" line with
  | some rest => trim rest
  | none => line

/-- The lines of one comment, given with its markers. -/
def commentLines (raw : String) : List String :=
  match dropStart? "//" raw with
  | some rest => [trim rest]
  | none =>
    let body := ((dropStart? "/*" raw).bind (dropEnd? "*/")).getD raw
    (lines body).map undecorated

namespace CommentGroup

/-- Adds the lines of one comment. -/
def push (g : CommentGroup) (raw : String) : CommentGroup :=
  { g with lines := g.lines ++ commentLines raw }

/-- Whether a line is a directive. -/
def isDirective (line : String) : Bool :=
  startsWith "@" line

/-- The lines that are directives. -/
def directives (g : CommentGroup) : List String :=
  g.lines.filter isDirective

/-- A group of lines without markers. -/
def ofLines (lines : List String) : CommentGroup :=
  { lines, startRow := 0, endRow := lines.length - 1 }

end CommentGroup

end AnnotatedApi
