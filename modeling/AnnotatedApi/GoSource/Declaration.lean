import AnnotatedApi.TypeExpr.Basic

/-!
What is taken from a Go source file: its package, its type declarations, its functions and all its
comments.
-/

namespace AnnotatedApi

open Text

/-- A declaration `type Name expression`. -/
structure TypeDecl where
  name : String
  type : TypeExpr
  doc : CommentGroup := {}
  /-- The one-based line of the name. -/
  line : Nat
deriving Inhabited

/-- The declaration of a function or a method. -/
structure FuncDecl where
  name : String
  /-- The type that a method belongs to. -/
  receiver : Option String := none
  doc : CommentGroup := {}
  /-- The comment groups on the rows of the body. -/
  bodyComments : List CommentGroup := []
  line : Nat
deriving DecidableEq, Repr, Inhabited

/-- A source file. -/
structure SourceFile where
  path : String
  package : String := ""
  types : List TypeDecl := []
  funcs : List FuncDecl := []
  comments : List CommentGroup := []
deriving Inhabited

/-- Whether a comment of the file declares a title or a version. -/
def SourceFile.hasGeneralInfo (f : SourceFile) : Bool :=
  f.comments.any fun g => g.lines.any fun l => startsWith "@title" l || startsWith "@version" l

end AnnotatedApi
