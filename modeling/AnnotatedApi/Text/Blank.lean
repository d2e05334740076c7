/-!
White space.

* `isBlank` is the Unicode property White_Space.
* `trim` removes blanks from both ends; its result neither starts nor ends with a blank.
* `words` splits a text at its runs of blanks.
-/

namespace AnnotatedApi.Text

/-- White space of any kind. -/
def isBlank (c : Char) : Bool :=
  let n := c.toNat
  (9 ≤ n && n ≤ 13) || n == 0x20 || n == 0x85 || n == 0xA0 || n == 0x1680 ||
    (0x2000 ≤ n && n ≤ 0x200A) || n == 0x2028 || n == 0x2029 || n == 0x202F || n == 0x205F ||
    n == 0x3000

/-- Removes the leading characters that satisfy `p`, and the trailing ones. -/
def dropAround (p : Char → Bool) (cs : List Char) : List Char :=
  ((cs.dropWhile p).reverse.dropWhile p).reverse

/-- Removes the trailing characters that satisfy `p`. -/
def dropEndWhile (p : Char → Bool) (cs : List Char) : List Char :=
  (cs.reverse.dropWhile p).reverse

/-- The characters between the leading and the trailing blanks. -/
def trimChars (cs : List Char) : List Char :=
  dropAround isBlank cs

/-- The text between its leading and trailing blanks. -/
def trim (s : String) : String :=
  .ofList (trimChars s.toList)

/-- Collects the blank-free runs; `run` is the one being read, last character first. -/
def wordsFrom (run : List Char) : List Char → List (List Char)
  | [] => if run.isEmpty then [] else [run.reverse]
  | c :: rest =>
    if isBlank c then
      if run.isEmpty then wordsFrom [] rest else run.reverse :: wordsFrom [] rest
    else wordsFrom (c :: run) rest

/-- The maximal blank-free runs of a text, in order. -/
def words (s : String) : List String :=
  (wordsFrom [] s.toList).map String.ofList

/-- The blank-free token at the front, and what follows it. -/
def token (cs : List Char) : List Char × List Char :=
  (cs.takeWhile (!isBlank ·), cs.dropWhile (!isBlank ·))

end AnnotatedApi.Text
