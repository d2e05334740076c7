import AnnotatedApi.Assoc
import AnnotatedApi.Disk.Path

/-!
External texts that directives refer to.

Markdown texts are named without their extension, code examples by their relative path. The language
of a code example is told by its extension.
-/

namespace AnnotatedApi

open Text

/-- The texts that are at hand. -/
structure ContentStore where
  markdownTexts : Assoc String := []
  codeTexts : Assoc String := []
deriving Repr, Inhabited

namespace ContentStore

/-- The markdown text with the given name, which may carry the extension. -/
def markdown? (store : ContentStore) (name : String) : Option String :=
  let name := trim name
  (Assoc.get? store.markdownTexts name).or <|
    (dropEnd? ".md" name).bind (Assoc.get? store.markdownTexts)

/-- The code example with the given path. -/
def codeExample? (store : ContentStore) (path : String) : Option String :=
  Assoc.get? store.codeTexts (trim path)

end ContentStore

/-- The language of a code example. -/
def languageOf (file : String) : String :=
  match .ofList (((Path.extension? file).getD "").toList.map Char.toLower) with
  | "go" => "go"
  | "py" => "python"
  | "js" | "mjs" => "javascript"
  | "ts" => "typescript"
  | "java" => "java"
  | "kt" => "kotlin"
  | "rb" => "ruby"
  | "php" => "php"
  | "cs" => "csharp"
  | "rs" => "rust"
  | "swift" => "swift"
  | "c" => "c"
  | "cpp" | "cc" => "cpp"
  | "sh" | "bash" => "shell"
  | "curl" => "curl"
  | _ => "text"

end AnnotatedApi
