import AnnotatedApi.Json.Basic
import AnnotatedApi.Decimal.Style

/-!
Writing JSON texts.

`Json.compact` has no blanks. `Json.pretty` puts every item and field on a line of its own, two
blanks deeper than its container; empty containers stay on one line. In strings, quote, backslash
and control characters are escaped and nothing else.
-/

namespace AnnotatedApi.Json

/-- Doubles in JSON: a sign on every exponent, and `null` for what is not finite. -/
def numberStyle : Decimal.Style := ⟨"+", "null", "null", "null"⟩

/-- A hexadecimal digit in lower case. -/
def hexDigit (n : Nat) : Char :=
  if n < 10 then Char.ofNat ('0'.toNat + n) else Char.ofNat ('a'.toNat + (n - 10))

/-- One character inside a string. -/
def escapeChar (c : Char) : List Char :=
  if c == '\x22' then ['\\', '\x22']
  else if c == '\\' then ['\\', '\\']
  else if c == '\x08' then ['\\', 'b']
  else if c == '\x0c' then ['\\', 'f']
  else if c == '\n' then ['\\', 'n']
  else if c == '\r' then ['\\', 'r']
  else if c == '\t' then ['\\', 't']
  else if c.toNat < 0x20 then
    ['\\', 'u', '0', '0', hexDigit (c.toNat / 16), hexDigit (c.toNat % 16)]
  else [c]

/-- A string with its quotes. -/
def quoted (s : String) : String :=
  .ofList ('\x22' :: (s.toList.flatMap escapeChar ++ ['\x22']))

/-- The text of a value that is not a container. -/
def scalarText : Json → String
  | .null => "null"
  | .bool true => "true"
  | .bool false => "false"
  | .int n => toString n
  | .float x => numberStyle.text x
  | .str s => quoted s
  | .arr _ => "[]"
  | .obj _ => "\x7b\x7d"

mutual

/-- The text without blanks. -/
def compact : Json → String
  | .arr items => "[" ++ compactItems items ++ "]"
  | .obj fields => "\x7b" ++ compactFields fields ++ "\x7d"
  | j => scalarText j

/-- The items, with commas between them. -/
def compactItems : List Json → String
  | [] => ""
  | [j] => compact j
  | j :: rest => compact j ++ "," ++ compactItems rest

/-- The fields, with commas between them. -/
def compactFields : List (String × Json) → String
  | [] => ""
  | [(k, v)] => quoted k ++ ":" ++ compact v
  | (k, v) :: rest => quoted k ++ ":" ++ compact v ++ "," ++ compactFields rest

end

/-- A line break followed by the indentation of `depth` levels. -/
def newline (depth : Nat) : String :=
  .ofList ('\n' :: List.replicate (2 * depth) ' ')

mutual

/-- The text of a value that starts `depth` levels deep. -/
def prettyAt (depth : Nat) : Json → String
  | .arr [] => "[]"
  | .arr items => "[" ++ prettyItems (depth + 1) items ++ newline depth ++ "]"
  | .obj [] => "\x7b\x7d"
  | .obj fields => "\x7b" ++ prettyFields (depth + 1) fields ++ newline depth ++ "\x7d"
  | j => scalarText j

/-- The items, each on its own line. -/
def prettyItems (depth : Nat) : List Json → String
  | [] => ""
  | [j] => newline depth ++ prettyAt depth j
  | j :: rest => newline depth ++ prettyAt depth j ++ "," ++ prettyItems depth rest

/-- The fields, each on its own line. -/
def prettyFields (depth : Nat) : List (String × Json) → String
  | [] => ""
  | [(k, v)] => newline depth ++ quoted k ++ ": " ++ prettyAt depth v
  | (k, v) :: rest =>
    newline depth ++ quoted k ++ ": " ++ prettyAt depth v ++ "," ++ prettyFields depth rest

end

/-- The text with one item or field on a line. -/
def pretty (j : Json) : String :=
  prettyAt 0 j

end AnnotatedApi.Json
