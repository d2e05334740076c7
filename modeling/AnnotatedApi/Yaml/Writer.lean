import AnnotatedApi.Yaml.Scalar
import AnnotatedApi.Json.Basic
import AnnotatedApi.Decimal.Style

/-!
YAML documents in block style.

The fields of a mapping stand below one another. The mapping or sequence under a key follows on the
next line, a mapping two blanks deeper and a sequence at the depth of the key. A container inside a
sequence starts on the line of its dash. Empty containers are written `[]` and `\x7b\x7d`.
-/

namespace AnnotatedApi.Yaml

/-- Doubles in YAML: no sign on a positive exponent. -/
def numberStyle : Decimal.Style := ⟨"", ".nan", ".inf", "-.inf"⟩

/-- A scalar or an empty container, written on the line of its key or dash. -/
def renderLeaf (indent : Nat) : Json → Piece
  | .null => ⟨"null", true⟩
  | .bool true => ⟨"true", true⟩
  | .bool false => ⟨"false", true⟩
  | .int n => ⟨toString n, true⟩
  | .float x => ⟨numberStyle.text x, true⟩
  | .str s => render indent s
  | .arr _ => ⟨"[]", true⟩
  | .obj _ => ⟨"\x7b\x7d", true⟩

/-- Puts `next` on a new line, indented by `indent`. -/
def Piece.below (first : Piece) (indent : Nat) (next : Piece) : Piece :=
  ⟨first.text ++ (if first.openLine then "\n" else "") ++ .ofList (indentation indent) ++ next.text,
    next.openLine⟩

/-- Puts `text` in front of a piece. -/
def Piece.after (text : String) (p : Piece) : Piece :=
  ⟨text ++ p.text, p.openLine⟩

mutual

/-- A value whose first line starts at column `indent`, after a dash or a mark. -/
def renderInline (indent : Nat) : Json → Piece
  | .arr items => if items.isEmpty then ⟨"[]", true⟩ else renderItems indent items
  | .obj fields => if fields.isEmpty then ⟨"\x7b\x7d", true⟩ else renderFields indent fields
  | j => renderLeaf indent j

/-- A value after the colon of a key that stands at column `indent`. -/
def renderUnder (indent : Nat) : Json → Piece
  | .arr items =>
    if items.isEmpty then ⟨" []", true⟩
    else Piece.below ⟨"", true⟩ indent (renderItems indent items)
  | .obj fields =>
    if fields.isEmpty then ⟨" \x7b\x7d", true⟩
    else Piece.below ⟨"", true⟩ (indent + 2) (renderFields (indent + 2) fields)
  | j => (renderLeaf (indent + 2) j).after " "

/-- The items of a sequence whose dashes stand at column `indent`. -/
def renderItems (indent : Nat) : List Json → Piece
  | [] => ⟨"", false⟩
  | item :: rest =>
    let first := (renderInline (indent + 2) item).after "- "
    if rest.isEmpty then first else first.below indent (renderItems indent rest)

/-- The fields of a mapping whose keys stand at column `indent`. -/
def renderFields (indent : Nat) : List (String × Json) → Piece
  | [] => ⟨"", false⟩
  | (key, value) :: rest =>
    let label := render (indent + 2) key
    let first :=
      if isSimpleKey key then (renderUnder indent value).after (label.text ++ ":")
      else (label.after "? ").below indent ((renderInline (indent + 2) value).after ": ")
    if rest.isEmpty then first else first.below indent (renderFields indent rest)

end

/-- The text of a whole document. -/
def write (j : Json) : String :=
  let p := renderInline 0 j
  p.text ++ (if p.openLine then "\n" else "")

end AnnotatedApi.Yaml
