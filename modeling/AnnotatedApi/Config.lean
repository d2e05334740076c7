import AnnotatedApi.Directive.Parameter
import AnnotatedApi.Naming

/-!
Options of a generation run.
-/

namespace AnnotatedApi

open Text

/-- The options. -/
structure Config where
  naming : NamingStrategy := .camel
  requiredByDefault : Bool := false
  /-- Also take directives from comments inside function bodies. -/
  parseFuncBody : Bool := false
  parseInternal : Bool := false
  markdownDir : Option String := none
  codeDir : Option String := none
  overridesFile : Option String := none
  /-- If not empty, an operation needs one of these tags. -/
  includeTags : List String := []
  /-- An operation must have none of these tags. -/
  excludeTags : List String := []
  /-- If given, an operation needs an extension whose key starts with it. -/
  extensionStart : Option String := none
  maxDepth : Nat := 100
  collectionFormat : CollectionFormat := .csv
  generalInfoFile : Option String := none
  exclude : List String := []
deriving DecidableEq, Repr, Inhabited

namespace Config

/-- Sets the tags from a comma-separated list; an exclamation mark excludes a tag. -/
def withTags (c : Config) (filter : String) : Config :=
  let items := commaList filter
  { c with
    includeTags := items.filter (!startsWith "!" ·)
    excludeTags := items.filterMap fun t => (dropStart? "!" t).map trim }

/-- Sets the start of the extension key; the empty one asks for nothing. -/
def withExtensionStart (c : Config) (start : String) : Config :=
  { c with extensionStart := if start.isEmpty then none else some start }

/-- Whether operations with these tags are kept. -/
def keepsTags (c : Config) (tags : List String) : Bool :=
  !tags.any c.excludeTags.contains && (c.includeTags.isEmpty || tags.any c.includeTags.contains)

/-- Whether operations with these extension keys are kept. -/
def keepsExtensions (c : Config) (keys : List String) : Bool :=
  match c.extensionStart with
  | some start => keys.any (startsWith start)
  | none => true

end Config

end AnnotatedApi
