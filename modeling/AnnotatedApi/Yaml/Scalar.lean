import AnnotatedApi.Decimal.Reader
import AnnotatedApi.Text.Split

/-!
YAML scalars.

A text is written plain where that reads back as the same text, in single quotes where the plain
form would read as another type or carries YAML structure, in double quotes where escapes are
needed, and as a literal block where it has line feeds. `styleOf` makes the choice and `render`
carries it out.
-/

namespace AnnotatedApi.Yaml

open AnnotatedApi.Text

/-! ### Texts that read as another type -/

/-- Two or more digits, the first of them zero, after an optional sign. -/
def isZeroLed (cs : List Char) : Bool :=
  let digits := match cs with
    | '-' :: rest => rest
    | '+' :: rest => rest
    | _ => cs
  match digits with
  | '0' :: d :: rest => (d :: rest).all Char.isDigit
  | _ => false

/-- The prefixes of numbers in another base. -/
def radixMarks : List (List Char × Nat) :=
  [(['0', 'x'], 16), (['0', 'o'], 8), (['0', 'b'], 2)]

/-- A whole number without a minus sign. -/
def readsAsNatural (cs : List Char) : Bool :=
  let body := match cs with
    | '+' :: rest => rest
    | _ => cs
  let signed : List Char → Bool
    | '+' :: _ => true
    | '-' :: _ => true
    | _ => false
  let marked := radixMarks.any fun (mark, radix) =>
    match afterStart? mark body with
    | some rest => !signed rest && (natural? radix (Nat.pow 2 128) rest).isSome
    | none => false
  marked || (!signed body && !isZeroLed cs && (natural? 10 (Nat.pow 2 128) body).isSome)

/-- A whole number with a minus sign. -/
def readsAsNegative (cs : List Char) : Bool :=
  match cs with
  | '-' :: body =>
    let marked := radixMarks.any fun (mark, radix) =>
      match afterStart? mark body with
      | some rest => (integer? radix (Nat.pow 2 127) ('-' :: rest)).isSome
      | none => false
    marked || (!isZeroLed cs && (integer? 10 (Nat.pow 2 127) cs).isSome)
  | _ => false

/-- A finite number, or one of the words for the others. -/
def readsAsDouble (cs : List Char) : Bool :=
  let body := match cs with
    | '+' :: rest => rest
    | _ => cs
  let twice := match cs with
    | '+' :: '+' :: _ => true
    | '+' :: '-' :: _ => true
    | _ => false
  let infinities := [".inf", ".Inf", ".INF"]
  if twice then false
  else infinities.contains (String.ofList body) ||
    infinities.any (fun w => String.ofList cs == "-" ++ w) ||
    [".nan", ".NaN", ".NAN"].contains (String.ofList cs) ||
    match Decimal.read? (.ofList body) with
    | some x => x.isFinite
    | none => false

/-- Whether the plain text would be read as null, a boolean or a number, or as a number that some
readers take for octal. -/
def readsAsOther (s : String) : Bool :=
  let cs := s.toList
  s.isEmpty || ["null", "Null", "NULL", "~"].contains s ||
    ["true", "True", "TRUE", "false", "False", "FALSE"].contains s ||
    readsAsNatural cs || readsAsNegative cs || isZeroLed cs || readsAsDouble cs

/-! ### Characters -/

/-- Characters that end a line. -/
def isBreak (c : Char) : Bool :=
  c == '\n' || c == '\r' || c.toNat == 0x85 || c.toNat == 0x2028 || c.toNat == 0x2029

/-- Characters that may stand unescaped. -/
def isPrintable (c : Char) : Bool :=
  let n := c.toNat
  n == 0x0A || (0x20 ≤ n && n ≤ 0x7E) || (0xA0 ≤ n && n ≤ 0xD7FF) ||
    (0xE000 ≤ n && n ≤ 0xFFFD && n != 0xFEFF) || 0x10000 ≤ n

/-- Blanks and breaks, as the characters around a `:` or `#` are judged. -/
def isSeparator (c : Char) : Bool :=
  c == ' ' || c == '\t' || c.toNat == 0 || isBreak c

/-- Whether the text that follows a character starts with a separator or is empty. -/
def separates : List Char → Bool
  | [] => true
  | c :: _ => isSeparator c

/-- Characters that cannot start a plain scalar. -/
def isLeadingIndicator (c : Char) : Bool :=
  ['#', ',', '[', ']', '\x7b', '\x7d', '&', '*', '!', '|', '>', '\x27', '\x22', '%', '@',
    '\x60'].contains c

/-- Whether a `:` before a separator, or a `#` after one, occurs after the first character;
`afterSeparator` tells what stands before the characters. -/
def hasInnerIndicator (afterSeparator : Bool) : List Char → Bool
  | [] => false
  | c :: rest =>
    (c == ':' && separates rest) || (c == '#' && afterSeparator) ||
      hasInnerIndicator (isSeparator c) rest

/-- Whether the text carries block structure. -/
def hasIndicator (cs : List Char) : Bool :=
  (afterStart? ['-', '-', '-'] cs).isSome || (afterStart? ['.', '.', '.'] cs).isSome ||
    match cs with
    | [] => false
    | c :: rest =>
      isLeadingIndicator c || ((c == '?' || c == ':' || c == '-') && separates rest) ||
        hasInnerIndicator (isSeparator c) rest

/-- Whether a character satisfying `p` is followed at once by one satisfying `q`. -/
def hasPair (p q : Char → Bool) : List Char → Bool
  | a :: b :: rest => (p a && q b) || hasPair p q (b :: rest)
  | _ => false

/-! ### The choice of style -/

/-- The ways to write a scalar. -/
inductive ScalarStyle where
  | plain
  | single
  | double
  | literal
deriving DecidableEq, Repr

/-- Whether the text spans lines. -/
def isMultiline (cs : List Char) : Bool := cs.any isBreak

/-- Whether some character has to be escaped, or a blank stands before a break. -/
def needsEscapes (cs : List Char) : Bool :=
  cs.any (!isPrintable ·) || hasPair (· == ' ') isBreak cs

/-- Whether the text starts or ends with a blank or a break. -/
def hasOuterSpace (cs : List Char) : Bool :=
  let outer := fun (c : Char) => c == ' ' || isBreak c
  (cs.head?.map outer).getD false || (cs.getLast?.map outer).getD false

def plainAllowed (cs : List Char) : Bool :=
  !hasOuterSpace cs && !isMultiline cs && !needsEscapes cs && !hasIndicator cs

def singleAllowed (cs : List Char) : Bool :=
  !needsEscapes cs && !hasPair isBreak (· == ' ') cs

def literalAllowed (cs : List Char) : Bool :=
  !needsEscapes cs && cs.getLast? != some ' '

/-- The style in which a text is written. -/
def styleOf (s : String) : ScalarStyle :=
  let cs := s.toList
  if cs.contains '\n' then if literalAllowed cs then .literal else .double
  else if !readsAsOther s && plainAllowed cs then .plain
  else if singleAllowed cs then .single
  else .double

/-! ### Writing -/

/-- A run of blanks. -/
def indentation (n : Nat) : List Char := List.replicate n ' '

/-- The characters between single quotes; `atStart` is set after a break. -/
def singleBody (indent : Nat) (atStart : Bool) : List Char → List Char
  | [] => if atStart then indentation indent else []
  | c :: rest =>
    if isBreak c then c :: singleBody indent true rest
    else (if atStart then indentation indent else []) ++
      (if c == '\x27' then ['\x27', '\x27'] else [c]) ++ singleBody indent false rest

/-- A hexadecimal digit in upper case. -/
def hexDigit (n : Nat) : Char :=
  if n < 10 then Char.ofNat ('0'.toNat + n) else Char.ofNat ('A'.toNat + (n - 10))

/-- The last `width` hexadecimal digits of `n`. -/
def hexDigits (n : Nat) : Nat → List Char
  | 0 => []
  | width + 1 => hexDigits (n / 16) width ++ [hexDigit (n % 16)]

/-- A character between double quotes. -/
def escapeChar (c : Char) : List Char :=
  let n := c.toNat
  if isPrintable c && !isBreak c && c != '\x22' && c != '\\' then [c]
  else '\\' ::
    (if n == 0x00 then ['0'] else if n == 0x07 then ['a'] else if n == 0x08 then ['b']
    else if n == 0x09 then ['t'] else if n == 0x0A then ['n'] else if n == 0x0B then ['v']
    else if n == 0x0C then ['f'] else if n == 0x0D then ['r'] else if n == 0x1B then ['e']
    else if n == 0x22 then ['\x22'] else if n == 0x5C then ['\\'] else if n == 0x85 then ['N']
    else if n == 0xA0 then ['_'] else if n == 0x2028 then ['L'] else if n == 0x2029 then ['P']
    else if n ≤ 0xFF then 'x' :: hexDigits n 2
    else if n ≤ 0xFFFF then 'u' :: hexDigits n 4
    else 'U' :: hexDigits n 8)

/-- The lines of a literal block; `atStart` is set after a break. -/
def literalBody (indent : Nat) (atStart : Bool) : List Char → List Char
  | [] => []
  | c :: rest =>
    if isBreak c then c :: literalBody indent true rest
    else (if atStart then indentation indent else []) ++ c :: literalBody indent false rest

/-- The indicators after the bar of a literal block: the indentation if the text starts with a
blank or a break, and whether final breaks are stripped or all kept. -/
def literalHints (cs : List Char) : List Char :=
  let indentHint := match cs with
    | c :: _ => if c == ' ' || isBreak c then ['2'] else []
    | [] => []
  let chompHint := match cs.reverse with
    | [] => ['-']
    | [c] => if isBreak c then ['+'] else ['-']
    | c :: d :: _ => if !isBreak c then ['-'] else if isBreak d then ['+'] else []
  indentHint ++ chompHint

/-- A written piece of a document. `openLine` tells that the last line still has to be ended. -/
structure Piece where
  text : String
  openLine : Bool

/-- A text written as a scalar whose further lines are indented by `indent`. -/
def render (indent : Nat) (s : String) : Piece :=
  let cs := s.toList
  match styleOf s with
  | .plain => ⟨s, true⟩
  | .single => ⟨.ofList ('\x27' :: (singleBody indent false cs ++ ['\x27'])), true⟩
  | .double => ⟨.ofList ('\x22' :: (cs.flatMap escapeChar ++ ['\x22'])), true⟩
  | .literal =>
    ⟨.ofList ('|' :: (literalHints cs ++ '\n' :: literalBody indent true cs)),
      !((cs.getLast?.map isBreak).getD false)⟩

/-- Whether a text can stand before a colon; longer keys and keys with breaks are marked by `?`. -/
def isSimpleKey (s : String) : Bool :=
  !isMultiline s.toList && s.utf8ByteSize ≤ 128

end AnnotatedApi.Yaml
