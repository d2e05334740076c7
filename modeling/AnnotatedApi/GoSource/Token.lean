import AnnotatedApi.Text.Alphanumeric
import AnnotatedApi.Text.Split

/-!
The tokens of a Go source file.

`tokenize` cuts a text into tokens and drops the blanks between them. Every token knows the
characters and the rows it spans and the comments in front of it. Line breaks outside of comments
are tokens as well: whether one of them ends a statement depends on the construct it stands in. The
last token is the end of the file.
-/

namespace AnnotatedApi.GoSource

open Text

/-- A comment with its markers, and the rows it spans. -/
structure Comment where
  text : String
  row : Nat
  endRow : Nat
deriving DecidableEq, Repr, Inhabited

/-- Kinds of tokens. -/
inductive TokenKind where
  | word
  | literal
  | mark
  | lineBreak
  | fileEnd
deriving DecidableEq, Repr, Inhabited

/-- A token. -/
structure Token where
  kind : TokenKind
  text : String
  /-- The offset of the first character. -/
  start : Nat
  /-- The offset behind the last character. -/
  stop : Nat
  row : Nat
  endRow : Nat
  /-- The comments between the token before and this one. -/
  comments : List Comment := []
deriving DecidableEq, Repr, Inhabited

/-- The reserved words. -/
def keywords : List String :=
  ["break", "case", "chan", "const", "continue", "default", "defer", "else", "fallthrough", "for",
    "func", "go", "goto", "if", "import", "interface", "map", "package", "range", "return",
    "select", "struct", "switch", "type", "var"]

namespace Token

/-- Whether the token is the given mark. -/
def isMark (t : Token) (text : String) : Bool :=
  t.kind == .mark && t.text == text

/-- Whether the token is the given word. -/
def isWord (t : Token) (text : String) : Bool :=
  t.kind == .word && t.text == text

/-- Whether the token is a name. -/
def isName (t : Token) : Bool :=
  t.kind == .word && !keywords.contains t.text

/-- Whether the token is a literal. -/
def isLiteral (t : Token) : Bool :=
  t.kind == .literal

/-- Whether the token is a string literal. -/
def isString (t : Token) : Bool :=
  t.kind == .literal && (startsWith "\x22" t.text || startsWith "\x60" t.text)

/-- Whether the token is a line break. -/
def isLineBreak (t : Token) : Bool :=
  t.kind == .lineBreak

def isOpening (t : Token) : Bool :=
  t.isMark "(" || t.isMark "[" || t.isMark "\x7b"

def isClosing (t : Token) : Bool :=
  t.isMark ")" || t.isMark "]" || t.isMark "\x7d"

end Token

/-! ### Measuring the front token -/

/-- The number of characters of a block comment after its opening. -/
def blockLength : List Char → Nat
  | '*' :: '/' :: _ => 2
  | [] => 0
  | _ :: rest => blockLength rest + 1

/-- The number of characters of a quoted literal after its opening quote. -/
def quotedLength (quote : Char) : List Char → Nat
  | [] => 0
  | '\\' :: _ :: rest => quotedLength quote rest + 2
  | c :: rest => if c == quote then 1 else quotedLength quote rest + 1

/-- The number of characters of a raw literal after its opening quote. -/
def rawLength (cs : List Char) : Nat :=
  (cs.takeWhile (· != '\x60')).length + 1

/-- The number of characters of a number. A sign belongs to it only after an exponent mark. -/
def numberLength (hex afterMark : Bool) : List Char → Nat
  | [] => 0
  | c :: rest =>
    if c.isAlphanum || c == '_' || c == '.' then
      let mark := if hex then c == 'p' || c == 'P' else c == 'e' || c == 'E'
      numberLength (hex || c == 'x' || c == 'X') mark rest + 1
    else if afterMark && (c == '+' || c == '-') then numberLength hex false rest + 1
    else 0

/-- Characters of names. -/
def isNameChar (c : Char) : Bool :=
  isAlphanumeric c || c == '_' || 0x80 ≤ c.toNat && !isBlank c

/-- The marks of more than one character, longest first. -/
def longMarks : List (List Char) :=
  ["<<=", ">>=", "&^=", "...", "&&", "||", "<-", "++", "--", "==", "!=", "<=", ">=", ":=", "+=",
    "-=", "*=", "/=", "%=", "&=", "|=", "^=", "<<", ">>", "&^"].map String.toList

/-- The number of characters of a mark. -/
def markLength (cs : List Char) : Nat :=
  match longMarks.find? fun m => (afterStart? m cs).isSome with
  | some m => m.length
  | none => 1

/-- The number of characters of the comment at the front. -/
def commentLength? : List Char → Option Nat
  | '/' :: '/' :: rest => some ((rest.takeWhile (· != '\n')).length + 2)
  | '/' :: '*' :: rest => some (blockLength rest + 2)
  | _ => none

/-- Kind and length of the token at the front. The front is neither blank nor a comment. -/
def measure : List Char → TokenKind × Nat
  | [] => (.fileEnd, 0)
  | cs@(c :: rest) =>
    if c == '\x22' || c == '\x27' then (.literal, quotedLength c rest + 1)
    else if c == '\x60' then (.literal, rawLength rest + 1)
    else if c.isDigit then (.literal, numberLength false false cs)
    else if c == '.' && (rest.head?.map Char.isDigit).getD false then
      (.literal, numberLength false false cs)
    else if isNameChar c then (.word, (cs.takeWhile isNameChar).length)
    else (.mark, markLength cs)

/-! ### Cutting a text into tokens -/

/-- The end of a file. -/
def fileEnd (start row : Nat) (comments : List Comment) : Token :=
  { kind := .fileEnd, text := "", start, stop := start, row, endRow := row, comments }

/-- The tokens of the characters from offset `start` on `row` on. `passed` holds the comments since
the last token, last first. -/
def tokensFrom : Nat → (start row : Nat) → (passed : List Comment) → List Char → List Token
  | 0, start, row, passed, _ => [fileEnd start row passed.reverse]
  | _, start, row, passed, [] => [fileEnd start row passed.reverse]
  | fuel + 1, start, row, passed, c :: rest =>
    if c == '\n' then
      { kind := .lineBreak, text := "\n", start, stop := start + 1, row, endRow := row
        comments := passed.reverse } :: tokensFrom fuel (start + 1) (row + 1) [] rest
    else if isBlank c then tokensFrom fuel (start + 1) row passed rest
    else
      let cs := c :: rest
      match commentLength? cs with
      | some length =>
        let text := cs.take length
        let endRow := row + text.count '\n'
        tokensFrom fuel (start + text.length) endRow
          ({ text := .ofList text, row, endRow } :: passed) (cs.drop length)
      | none =>
        let (kind, length) := measure cs
        let text := cs.take length
        let endRow := row + text.count '\n'
        { kind, text := .ofList text, start, stop := start + text.length, row, endRow
          comments := passed.reverse } ::
          tokensFrom fuel (start + text.length) endRow [] (cs.drop length)

/-- The byte order mark. -/
def byteOrderMark : Char := Char.ofNat 0xFEFF

/-- The characters of a source text, without a byte order mark in front. -/
def sourceChars (source : String) : List Char :=
  match source.toList with
  | [] => []
  | c :: rest => if c == byteOrderMark then rest else c :: rest

/-- The tokens of a source text. -/
def tokenize (cs : List Char) : List Token :=
  tokensFrom cs.length 0 0 [] cs

end AnnotatedApi.GoSource
