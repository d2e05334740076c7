import AnnotatedApi.Text.Blank

/-!
Cutting texts at separators and at known beginnings and endings.

`splitOn` always gives at least one piece, so the empty text is one empty piece. `lines` treats a
line feed as the end of a line, together with a carriage return right before it.
-/

namespace AnnotatedApi.Text

/-- The pieces between the characters that satisfy `p`. -/
def splitWhere (p : Char → Bool) : List Char → List (List Char)
  | [] => [[]]
  | c :: rest =>
    if p c then [] :: splitWhere p rest
    else match splitWhere p rest with
      | [] => [[c]]
      | piece :: pieces => (c :: piece) :: pieces

/-- The pieces of a text between the occurrences of `sep`. -/
def splitOn (sep : Char) (s : String) : List String :=
  (splitWhere (· == sep) s.toList).map String.ofList

/-- The characters before and after the first `sep`. -/
def cutChars (sep : Char) : List Char → Option (List Char × List Char)
  | [] => none
  | c :: rest =>
    if c == sep then some ([], rest)
    else (cutChars sep rest).map fun (before, after) => (c :: before, after)

/-- The text before and after the first `sep`. -/
def cut (sep : Char) (s : String) : Option (String × String) :=
  (cutChars sep s.toList).map fun (before, after) => (.ofList before, .ofList after)

/-- The text before and after the last `sep`. -/
def cutLast (sep : Char) (s : String) : Option (String × String) :=
  (cutChars sep s.toList.reverse).map fun (after, before) =>
    (.ofList before.reverse, .ofList after.reverse)

/-- What follows `start`, if the characters begin with it. -/
def afterStart? : (start cs : List Char) → Option (List Char)
  | [], cs => some cs
  | _ :: _, [] => none
  | s :: start, c :: cs => if s == c then afterStart? start cs else none

/-- What follows `start`, if the text begins with it. -/
def dropStart? (start s : String) : Option String :=
  (afterStart? start.toList s.toList).map String.ofList

/-- What precedes `ending`, if the text ends with it. -/
def dropEnd? (ending s : String) : Option String :=
  (afterStart? ending.toList.reverse s.toList.reverse).map (String.ofList ·.reverse)

/-- Whether the text begins with `start`. -/
def startsWith (start s : String) : Bool :=
  (afterStart? start.toList s.toList).isSome

/-- Whether the text ends with `ending`. -/
def endsWith (ending s : String) : Bool :=
  (afterStart? ending.toList.reverse s.toList.reverse).isSome

/-- Whether `part` occurs in the characters. -/
def containsChars (part : List Char) : List Char → Bool
  | [] => part.isEmpty
  | c :: rest => (afterStart? part (c :: rest)).isSome || containsChars part rest

/-- Whether `part` occurs in the text. -/
def contains (part s : String) : Bool :=
  containsChars part.toList s.toList

/-- Removes `start` from the front as often as it stands there. -/
def dropStartRepeated (start : List Char) (fuel : Nat) (cs : List Char) : List Char :=
  match fuel with
  | 0 => cs
  | fuel + 1 =>
    match afterStart? start cs with
    | some rest => dropStartRepeated start fuel rest
    | none => cs

/-- A line without the carriage return that ended it. -/
def dropReturn (cs : List Char) : List Char :=
  match cs.reverse with
  | '\r' :: rest => rest.reverse
  | _ => cs

/-- The lines of a text. A final line feed does not start another line, and a carriage return is
dropped only where a line feed follows it. -/
def lines (s : String) : List String :=
  let pieces := splitWhere (· == '\n') s.toList
  let ended := pieces.dropLast.map dropReturn
  let rest := (pieces.getLast?.getD [])
  (if rest.isEmpty then ended else ended ++ [rest]).map String.ofList

/-- The pieces joined, with `sep` between them. -/
def join (sep : String) : List String → String
  | [] => ""
  | [s] => s
  | s :: rest => s ++ sep ++ join sep rest

/-- Comma-separated items, each trimmed. -/
def commaItems (s : String) : List String :=
  (splitOn ',' s).map trim

/-- Comma-separated items, each trimmed, without the empty ones. -/
def commaList (s : String) : List String :=
  (commaItems s).filter (!·.isEmpty)

@[simp] theorem afterStart?_nil (cs : List Char) : afterStart? [] cs = some cs := by
  cases cs <;> rfl

/-- What follows a beginning completes it. -/
theorem eq_append_of_afterStart? {start cs rest : List Char} (h : afterStart? start cs = some rest) :
    cs = start ++ rest := by
  induction start generalizing cs with
  | nil => simpa using h
  | cons s start ih =>
    cases cs with
    | nil => simp [afterStart?] at h
    | cons c cs =>
      simp only [afterStart?] at h
      split at h
      · next heq =>
        simp only [beq_iff_eq] at heq
        simp [heq, ih h]
      · simp at h

@[simp] theorem afterStart?_append (start rest : List Char) :
    afterStart? start (start ++ rest) = some rest := by
  induction start with
  | nil => simp
  | cons s start ih => simp [afterStart?, ih]

/-- A text begins with `start` iff `start` and what follows it make up the text. -/
theorem dropStart?_eq_some_iff {start s rest : String} :
    dropStart? start s = some rest ↔ s = start ++ rest := by
  rw [dropStart?, Option.map_eq_some_iff]
  constructor
  · rintro ⟨cs, hcs, rfl⟩
    rw [← String.toList_inj, eq_append_of_afterStart? hcs]
    simp
  · rintro rfl
    exact ⟨rest.toList, by simp, by simp⟩

/-- There is always at least one piece. -/
theorem splitWhere_ne_nil (p : Char → Bool) (cs : List Char) : splitWhere p cs ≠ [] := by
  cases cs with
  | nil => simp [splitWhere]
  | cons c rest =>
    simp only [splitWhere]
    split
    · simp
    · split <;> simp

end AnnotatedApi.Text
