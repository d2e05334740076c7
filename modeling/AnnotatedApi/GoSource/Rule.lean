import AnnotatedApi.GoSource.Tree

/-!
Rules for reading tokens.

A rule reads trees off the front of the tokens or fails. A line break means something only where a
phrase may end: there the rule that would continue the phrase is `attached`, and does not apply to
the next line. Everywhere else line breaks are skipped; the comments in front of them then stand in
front of the next token.
-/

namespace AnnotatedApi.GoSource

/-- A rule gives the trees at the front of the tokens and the tokens behind them, or fails. -/
abbrev Rule := List Token → Option (List Tree × List Token)

/-- The tokens without the line breaks in front; `passed` holds the comments passed so far. -/
def joinLines (passed : List Comment) : List Token → List Token
  | [] => []
  | t :: rest =>
    if t.isLineBreak then joinLines (passed ++ t.comments) rest
    else { t with comments := passed ++ t.comments } :: rest

/-- Whether a line ends in front of the tokens. -/
def atLineEnd : List Token → Bool
  | [] => true
  | t :: _ => t.isLineBreak

namespace Rule

/-- Reads nothing. -/
def empty : Rule := fun ts => some ([], ts)

/-- Reads a token with the given property. -/
def token (p : Token → Bool) : Rule := fun ts =>
  match joinLines [] ts with
  | [] => none
  | t :: rest => if p t then some ([.token t], rest) else none

/-- Reads a mark. -/
def mark (text : String) : Rule := token (·.isMark text)

/-- Reads one of several marks. -/
def anyMark (texts : List String) : Rule :=
  token fun t => t.kind == .mark && texts.contains t.text

/-- Reads a reserved word. -/
def word (text : String) : Rule := token (·.isWord text)

/-- Reads a name. -/
def name : Rule := token (·.isName)

/-- Reads the end of a statement: a line break or a semicolon. -/
def terminator : Rule := fun ts =>
  match ts with
  | [] => none
  | t :: rest => if t.isLineBreak || t.isMark ";" then some ([.token t], rest) else none

/-- Succeeds in front of a token with the given property. -/
def before (p : Token → Bool) : Rule := fun ts =>
  match joinLines [] ts with
  | [] => none
  | t :: _ => if p t then some ([], ts) else none

/-- One rule after another. -/
def seq : List Rule → Rule
  | [] => empty
  | r :: rs => fun ts =>
    match r ts with
    | none => none
    | some (front, ts) =>
      match seq rs ts with
      | none => none
      | some (back, ts) => some (front ++ back, ts)

/-- The first rule that applies. -/
def firstOf : List Rule → Rule
  | [] => fun _ => none
  | r :: rs => fun ts =>
    match r ts with
    | some result => some result
    | none => firstOf rs ts

/-- The rule where the phrase so far may be complete. If `lines` is set, a line break would end it
there, and the rule does not apply behind one. -/
def attached (lines : Bool) (r : Rule) : Rule := fun ts =>
  if lines && atLineEnd ts then none else r ts

/-- The rule, or nothing. -/
def optional (lines : Bool) (r : Rule) : Rule :=
  firstOf [attached lines r, empty]

/-- The rule as often as it applies, at most once for every token of `clock`. -/
def repeated (lines : Bool) (r : Rule) : (clock : List Token) → Rule
  | [], ts => some ([], ts)
  | _ :: clock, ts =>
    match attached lines r ts with
    | none => some ([], ts)
    | some (front, rest) =>
      match repeated lines r clock rest with
      | none => none
      | some (back, rest) => some (front ++ back, rest)

/-- The rule as often as it applies. -/
def many (lines : Bool) (r : Rule) : Rule := fun ts =>
  repeated lines r ts ts

/-- One item or more with separators between them. -/
def separated (lines : Bool) (separator item : Rule) : Rule :=
  seq [item, many lines (seq [separator, item])]

/-- One item or more with commas between them. -/
def commas (lines : Bool) (item : Rule) : Rule :=
  separated lines (mark ",") item

/-- A list between brackets whose items may be followed by a comma. -/
def listed (opening closing : String) (item : Rule) : Rule :=
  seq [mark opening, optional false (seq [commas false item, optional false (mark ",")]),
    mark closing]

/-- Items that are ended by terminators. The last one may lack it. -/
def terminated (item : Rule) : Rule :=
  many false (seq [item, optional false terminator])

/-- Makes a construct of what the rule reads. -/
def node (k : Construct) (r : Rule) : Rule := fun ts =>
  (r ts).map fun (trees, rest) => ([.node k trees], rest)

/-- Makes a construct of what the rule reads, unless that is a single tree. -/
def group (k : Construct) (r : Rule) : Rule := fun ts =>
  (r ts).map fun (trees, rest) =>
    match trees with
    | [t] => ([t], rest)
    | _ => ([.node k trees], rest)

/-- Takes what was read and what the continuation reads behind it as one construct, as often as the
continuation applies, at most once for every token of `clock`. -/
def extended (lines : Bool) (k : Construct) (continuation : Rule) :
    (clock : List Token) → List Tree → List Token → List Tree × List Token
  | [], front, ts => (front, ts)
  | _ :: clock, front, ts =>
    match attached lines continuation ts with
    | none => (front, ts)
    | some (more, rest) => extended lines k continuation clock [.node k (front ++ more)] rest

/-- A phrase that can be continued again and again, each time to a construct around the one before. -/
def growing (lines : Bool) (k : Construct) (start continuation : Rule) : Rule := fun ts =>
  (start ts).map fun (front, rest) => extended lines k continuation rest front rest

/-- The tokens up to the end of the statement, bracket by bracket. -/
def balanced (depth : Nat) : List Token → List Token × List Token
  | [] => ([], [])
  | t :: rest =>
    let go := fun depth =>
      let (front, rest) := balanced depth rest
      (t :: front, rest)
    if t.kind == .fileEnd then ([], t :: rest)
    else if t.isOpening then go (depth + 1)
    else if t.isClosing then
      match depth with
      | 0 => ([], t :: rest)
      | depth + 1 => go depth
    else if depth == 0 && (t.isLineBreak || t.isMark ";") then ([], t :: rest)
    else go depth

/-- The tokens up to the end of the statement as they are. -/
def skimmed : Rule := fun ts =>
  match balanced 0 (joinLines [] ts) with
  | ([], _) => none
  | (front, rest) => some ([.node .unknown (front.map .token)], rest)

end Rule

end AnnotatedApi.GoSource
