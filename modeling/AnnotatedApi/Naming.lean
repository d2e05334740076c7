import AnnotatedApi.Text.Blank
import AnnotatedApi.Text.Case

/-!
How field names become property names.

* snake case puts `_` before a capital that follows another character than a capital, and lowers
  everything, so `UserName` becomes `user_name` and `HTTPServer` becomes `httpserver`;
* camel case lowers the first character only;
* pascal case keeps the name.
-/

namespace AnnotatedApi

open Text

/-- A naming strategy. -/
inductive NamingStrategy where
  | snake
  | camel
  | pascal
deriving DecidableEq, Repr, Inhabited

/-- Snake case of the rest of a name; `inside` is set after the first character, `afterUpper` after
a capital. -/
def snakeFrom (inside afterUpper : Bool) : List Char → List Char
  | [] => []
  | c :: rest =>
    (if isUppercase c && inside && !afterUpper then ['_'] else []) ++ lowerChar c ++
      snakeFrom true (isUppercase c) rest

/-- `UserName` becomes `user_name`. -/
def snakeCase (name : String) : String :=
  .ofList (snakeFrom false false name.toList)

/-- `UserName` becomes `userName`. -/
def camelCase (name : String) : String :=
  match name.toList with
  | [] => ""
  | c :: rest => .ofList (lowerChar c ++ rest)

namespace NamingStrategy

/-- The property name of a field name. -/
def apply : NamingStrategy → String → String
  | .snake, name => snakeCase name
  | .camel, name => camelCase name
  | .pascal, name => name

/-- The full name of the strategy. -/
def label : NamingStrategy → String
  | .snake => "snakecase"
  | .camel => "camelcase"
  | .pascal => "pascalcase"

/-- The strategy with the given full or short name. -/
def named? : String → Option NamingStrategy
  | "snakecase" | "snake" => some .snake
  | "camelcase" | "camel" => some .camel
  | "pascalcase" | "pascal" => some .pascal
  | _ => none

/-- A strategy name that is not known. -/
structure UnknownStrategy where
  name : String
deriving DecidableEq, Repr

def UnknownStrategy.message (e : UnknownStrategy) : String :=
  "unknown property strategy: " ++ e.name

/-- The strategy that a text names, blanks around it and letter case ignored. -/
def parse (s : String) : Except UnknownStrategy NamingStrategy :=
  let name := lower (trim s)
  match named? name with
  | some strategy => .ok strategy
  | none => .error ⟨name⟩

/-- Every strategy is known by its label. -/
theorem named?_label (s : NamingStrategy) : named? s.label = some s := by
  cases s <;> rfl

end NamingStrategy

end AnnotatedApi
