import AnnotatedApi.Text.Split
import AnnotatedApi.Text.Word

/-!
The parts of a directive line.

A directive is a keyword, which is the first blank-free token of its line, and arguments. The readers
below take one argument from the front of the characters and give what follows it; each is greedy, as
an argument always ends where its class of characters does.
-/

namespace AnnotatedApi.Directive

open Text

/-- The characters after one or more blanks. -/
def afterBlanks? (cs : List Char) : Option (List Char) :=
  match cs with
  | [] => none
  | c :: rest => if isBlank c then some (rest.dropWhile isBlank) else none

/-- A non-empty run of characters satisfying `p`. -/
def run? (p : Char → Bool) (cs : List Char) : Option (List Char × List Char) :=
  let run := cs.takeWhile p
  if run.isEmpty then none else some (run, cs.dropWhile p)

/-- A blank-free token. -/
def token? (cs : List Char) : Option (List Char × List Char) :=
  run? (!isBlank ·) cs

/-- A text in double quotes, without quotes inside. -/
def quoted? (cs : List Char) : Option (List Char × List Char) :=
  match cs with
  | '\x22' :: rest => cutChars '\x22' rest
  | _ => none

/-- A word in the given brackets. -/
def bracketed? (opening closing : Char) (cs : List Char) : Option (List Char × List Char) :=
  match cs with
  | [] => none
  | c :: rest =>
    if c == opening then
      match run? isWordChar rest with
      | some (word, d :: rest) => if d == closing then some (word, rest) else none
      | _ => none
    else none

/-- The text argument that takes up the rest of a line: one or more blanks, then a text without line
feeds. Where only blanks follow the keyword, the last of two or more is the text. -/
def textArgument? (cs : List Char) : Option (List Char) :=
  let blanks := cs.takeWhile isBlank
  let text := cs.dropWhile isBlank
  match blanks, text with
  | [], _ => none
  | _ :: inner, [] =>
    match inner.getLast? with
    | some c => if c == '\n' then none else some [c]
    | none => none
  | _, text => if text.contains '\n' then none else some text

/-- The token that takes up the rest of a line. -/
def tokenArgument? (cs : List Char) : Option (List Char) :=
  match (afterBlanks? cs).bind token? with
  | some (token, []) => some token
  | _ => none

/-- The text after an argument, blanks in between removed; it has no line feeds. -/
def remark? (cs : List Char) : Option (List Char) :=
  let text := cs.dropWhile isBlank
  if text.contains '\n' then none else some text

/-- The keyword of a line, and what follows it. -/
def splitLine (line : String) : String × List Char :=
  let (keyword, rest) := token line.toList
  (.ofList keyword, rest)

end AnnotatedApi.Directive
