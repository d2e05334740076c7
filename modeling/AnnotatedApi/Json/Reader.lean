import AnnotatedApi.Json.Number

/-!
Reading JSON texts.

`Json.read?` gives the tree of a text with its fields in order of appearance, repeated keys
included. Trees nested deeper than `Json.maxNesting` are refused, as are control characters inside
strings and surrogates without a partner.
-/

namespace AnnotatedApi.Json

/-- How deep arrays and objects may be nested. -/
def maxNesting : Nat := 127

/-- Removes the blanks that may stand between tokens. -/
def skipBlanks (cs : List Char) : List Char :=
  cs.dropWhile fun c => c == ' ' || c == '\n' || c == '\t' || c == '\r'

/-- The value of four hexadecimal digits. -/
def hex4? (a b c d : Char) : Option Nat :=
  Text.digits? 16 [a, b, c, d]

/-- The character that an escape letter stands for. -/
def escaped? : Char → Option Char
  | '\x22' => some '\x22'
  | '\\' => some '\\'
  | '/' => some '/'
  | 'b' => some '\x08'
  | 'f' => some '\x0c'
  | 'n' => some '\n'
  | 'r' => some '\r'
  | 't' => some '\t'
  | _ => none

/-- Reads the rest of a string after its opening quote; `acc` holds its characters, last first. -/
def readString? (acc : List Char) : List Char → Option (String × List Char)
  | [] => none
  | '\\' :: 'u' :: a :: b :: c :: d :: rest =>
    match hex4? a b c d with
    | none => none
    | some n =>
      if 0xD800 ≤ n ∧ n < 0xDC00 then
        match rest with
        | '\\' :: 'u' :: e :: f :: g :: h :: rest =>
          match hex4? e f g h with
          | none => none
          | some low =>
            if 0xDC00 ≤ low ∧ low < 0xE000 then
              readString? (Char.ofNat (0x10000 + (n - 0xD800) * 0x400 + (low - 0xDC00)) :: acc) rest
            else none
        | _ => none
      else if 0xDC00 ≤ n ∧ n < 0xE000 then none
      else readString? (Char.ofNat n :: acc) rest
  | '\\' :: c :: rest =>
    match escaped? c with
    | none => none
    | some e => readString? (e :: acc) rest
  | c :: rest =>
    if c == '\x22' then some (.ofList acc.reverse, rest)
    else if c.toNat < 0x20 || c == '\\' then none
    else readString? (c :: acc) rest

mutual

/-- Reads one value; `depth` more levels of nesting are allowed. -/
def readValue? (fuel depth : Nat) (cs : List Char) : Option (Json × List Char) :=
  match fuel with
  | 0 => none
  | fuel + 1 =>
    match skipBlanks cs with
    | 'n' :: 'u' :: 'l' :: 'l' :: rest => some (.null, rest)
    | 't' :: 'r' :: 'u' :: 'e' :: rest => some (.bool true, rest)
    | 'f' :: 'a' :: 'l' :: 's' :: 'e' :: rest => some (.bool false, rest)
    | c :: rest =>
      if c == '\x22' then (readString? [] rest).map fun (s, rest) => (.str s, rest)
      else if c == '[' then
        match depth, skipBlanks rest with
        | 0, _ => none
        | _ + 1, ']' :: rest => some (.arr [], rest)
        | depth + 1, rest =>
          (readItems? fuel depth [] rest).map fun (items, rest) => (.arr items, rest)
      else if c == '\x7b' then
        match depth, skipBlanks rest with
        | 0, _ => none
        | _ + 1, '\x7d' :: rest => some (.obj [], rest)
        | depth + 1, rest =>
          (readFields? fuel depth [] rest).map fun (fields, rest) => (.obj fields, rest)
      else readNumber? (c :: rest)
    | [] => none

/-- Reads the items of an array up to its bracket; `acc` holds those read, last first. -/
def readItems? (fuel depth : Nat) (acc : List Json) (cs : List Char) :
    Option (List Json × List Char) :=
  match fuel with
  | 0 => none
  | fuel + 1 =>
    match readValue? fuel depth cs with
    | none => none
    | some (item, rest) =>
      match skipBlanks rest with
      | ',' :: rest => readItems? fuel depth (item :: acc) rest
      | ']' :: rest => some ((item :: acc).reverse, rest)
      | _ => none

/-- Reads the fields of an object up to its brace; `acc` holds those read, last first. -/
def readFields? (fuel depth : Nat) (acc : List (String × Json)) (cs : List Char) :
    Option (List (String × Json) × List Char) :=
  match fuel with
  | 0 => none
  | fuel + 1 =>
    match skipBlanks cs with
    | '\x22' :: rest =>
      match readString? [] rest with
      | none => none
      | some (key, rest) =>
        match skipBlanks rest with
        | ':' :: rest =>
          match readValue? fuel depth rest with
          | none => none
          | some (value, rest) =>
            match skipBlanks rest with
            | ',' :: rest => readFields? fuel depth ((key, value) :: acc) rest
            | '\x7d' :: rest => some (((key, value) :: acc).reverse, rest)
            | _ => none
        | _ => none
    | _ => none

end

/-- The tree of a whole text. -/
def read? (s : String) : Option Json :=
  let cs := s.toList
  match readValue? (2 * cs.length + 2) maxNesting cs with
  | some (j, rest) => if (skipBlanks rest).isEmpty then some j else none
  | none => none

end AnnotatedApi.Json
