import AnnotatedApi.Directive.Line
import AnnotatedApi.Document.Basic
import AnnotatedApi.Text.Case

/-!
Routes: the path and the method that an operation is attached to.
-/

namespace AnnotatedApi

open Text

/-- A method name that is not known. -/
structure UnknownMethod where
  name : String
deriving DecidableEq, Repr

def UnknownMethod.message (e : UnknownMethod) : String :=
  "unsupported HTTP method: " ++ e.name

/-- The method with the given name, letter case ignored. -/
def HttpMethod.parse (s : String) : Except UnknownMethod HttpMethod :=
  let name := lower s
  match HttpMethod.all.find? (·.key == name) with
  | some m => .ok m
  | none => .error ⟨name⟩

/-- Where an operation is attached. -/
structure Route where
  path : String
  method : HttpMethod
deriving DecidableEq, Repr, Inhabited

namespace Directive

/-- The path and the method name of `@Router path [method]`. -/
def routerArguments? (rest : List Char) : Option (String × String) := do
  let (path, rest) ← (afterBlanks? rest).bind token?
  let (method, _) ← (afterBlanks? rest).bind (bracketed? '[' ']')
  return (.ofList path, .ofList method)

/-- The route that a line declares, if its method is known. -/
def route? (line : String) : Option Route :=
  let (keyword, rest) := splitLine line
  if keyword == "@Router" then
    (routerArguments? rest).bind fun (path, method) =>
      (HttpMethod.parse method).toOption.map fun m => { path, method := m }
  else none

/-- The first route that some lines declare. -/
def firstRoute? (lines : List String) : Option Route :=
  lines.findSome? route?

end Directive

end AnnotatedApi
