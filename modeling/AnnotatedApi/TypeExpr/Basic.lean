import AnnotatedApi.Comment.Basic

/-!
Type expressions.

Both the types in source files and the type texts in directives are values of `TypeExpr`.
`TypeExpr.text` writes an expression back; inline structs are abbreviated.
-/

namespace AnnotatedApi

/-- A field declaration, over the type of type expressions. A declaration without names is
embedded. -/
structure FieldOf (τ : Type) where
  names : List String
  type : τ
  tag : Option String := none
  doc : CommentGroup := {}
deriving Repr, Inhabited

/-- A type expression. -/
inductive TypeExpr where
  | ident (name : String)
  | qualified (package name : String)
  | pointer (target : TypeExpr)
  | slice (element : TypeExpr)
  | map (key value : TypeExpr)
  | struct (fields : List (FieldOf TypeExpr))
  | interface
  | unsupported (text : String)
deriving Inhabited

/-- A field declaration. -/
abbrev Field := FieldOf TypeExpr

namespace TypeExpr

/-- The expression without its leading pointers. -/
def deref : TypeExpr → TypeExpr
  | .pointer target => target.deref
  | e => e

/-- The name that a named type is referred to by. -/
def name? : TypeExpr → Option String
  | .ident name => some name
  | .qualified package name => some (package ++ "." ++ name)
  | _ => none

/-- Whether the expression is a pointer. -/
def isPointer : TypeExpr → Bool
  | .pointer _ => true
  | _ => false

/-- The written form. -/
def text : TypeExpr → String
  | .ident name => name
  | .qualified package name => package ++ "." ++ name
  | .pointer target => "*" ++ target.text
  | .slice element => "[]" ++ element.text
  | .map key value => "map[" ++ key.text ++ "]" ++ value.text
  | .struct _ => "struct\x7b...\x7d"
  | .interface => "interface\x7b\x7d"
  | .unsupported text => text

end TypeExpr

namespace FieldOf

/-- Whether the declaration embeds a type. -/
def isEmbedded {τ : Type} (f : FieldOf τ) : Bool :=
  f.names.isEmpty

end FieldOf

end AnnotatedApi
