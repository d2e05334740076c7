import AnnotatedApi.GoSource.Rule

/-!
The phrases that the grammar is recursive in.

The rules of the grammar are parametrised by the rules for the phrases inside; `Phrases` is what they
are given.
-/

namespace AnnotatedApi.GoSource

/-- Where an expression stands. -/
structure Place where
  /-- Whether a line break may end the expression. -/
  lines : Bool
  /-- Whether a brace behind a type name opens a literal. It does not in the head of a statement with
  a block. -/
  literals : Bool
deriving DecidableEq, Repr, Inhabited

namespace Place

/-- In a statement. -/
def statement : Place := { lines := true, literals := true }

/-- Between brackets or up to a colon. -/
def enclosed : Place := { lines := false, literals := true }

/-- In front of a block or of a list of cases. -/
def head : Place := { lines := false, literals := false }

end Place

/-- The phrases that occur inside others. -/
inductive Phrase where
  /-- A type; with `lines`, a line break may end it. -/
  | type (lines : Bool)
  /-- A type without parentheses around it. -/
  | simpleType (lines : Bool)
  | expression (place : Place)
  /-- An operand of infix operators. -/
  | operand (place : Place)
  | literalValue
  | statement
  | block
deriving DecidableEq, Repr, Inhabited

/-- The rules for the phrases inside a phrase. -/
abbrev Phrases := Phrase → Rule

end AnnotatedApi.GoSource
