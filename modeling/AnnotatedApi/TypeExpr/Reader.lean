import AnnotatedApi.TypeExpr.Basic
import AnnotatedApi.Text.Alphanumeric

/-!
Reading type texts.

    type := '*' type
          | '[' (digit | '.')* ']' type
          | 'map[' type ']' type
          | 'interface\x7b\x7d' | 'any'
          | name | name '.' name

A name is a run of letters, digits, `_` and `-`. Reading never fails: where the text fits no
production, what is left of it is given up and the place is filled by the whole text, unsupported.
-/

namespace AnnotatedApi.TypeExpr

open Text

/-- Characters of a name. -/
def isNameChar (c : Char) : Bool :=
  isAlphanumeric c || c == '_' || c == '-'

/-- Characters of an array length. -/
def isLengthChar (c : Char) : Bool :=
  c.isDigit || c == '.'

/-- Reads a name and an optional second one after a dot. Gives up with the whole text. -/
def readNamed (whole : String) (cs : List Char) : TypeExpr × List Char :=
  let first := cs.takeWhile isNameChar
  let rest := cs.dropWhile isNameChar
  if first.isEmpty then (.unsupported whole, [])
  else if first == ['a', 'n', 'y'] then (.interface, rest)
  else match rest with
    | '.' :: rest =>
      let second := rest.takeWhile isNameChar
      if second.isEmpty then (.unsupported whole, [])
      else (.qualified (.ofList first) (.ofList second), rest.dropWhile isNameChar)
    | _ => (.ident (.ofList first), rest)

/-- Reads a type at the front of the text, and gives what follows it. -/
def readFrom (whole : String) : Nat → List Char → TypeExpr × List Char
  | 0, _ => (.unsupported whole, [])
  | fuel + 1, '*' :: rest =>
    let (target, rest) := readFrom whole fuel rest
    (.pointer target, rest)
  | fuel + 1, '[' :: rest =>
    match rest.dropWhile isLengthChar with
    | ']' :: rest =>
      let (element, rest) := readFrom whole fuel rest
      (.slice element, rest)
    | _ => (.unsupported whole, [])
  | fuel + 1, 'm' :: 'a' :: 'p' :: '[' :: rest =>
    let (key, rest) := readFrom whole fuel rest
    match rest with
    | ']' :: rest =>
      let (value, rest) := readFrom whole fuel rest
      (.map key value, rest)
    | _ => (.unsupported whole, [])
  | _ + 1, cs =>
    match afterStart? "interface\x7b\x7d".toList cs with
    | some rest => (.interface, rest)
    | none => readNamed whole cs

/-- The type expression of a text. -/
def read (text : String) : TypeExpr :=
  let whole := trim text
  let (e, rest) := readFrom whole (whole.length + 1) whole.toList
  if rest.isEmpty then e else .unsupported whole

end AnnotatedApi.TypeExpr
