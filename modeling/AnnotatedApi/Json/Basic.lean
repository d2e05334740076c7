import AnnotatedApi.Decimal.Binary64
import AnnotatedApi.Assoc

/-!
JSON trees.

Whole numbers and doubles are different values, as `1` and `1.0` are different texts. The fields of
an object have an order. `Json.sorted` gives the form in which free values (examples, defaults,
extension values) are kept: the fields of every object in order of their keys, one for each key.
-/

namespace AnnotatedApi

open Decimal (Binary64)

/-- A JSON tree. -/
inductive Json where
  | null
  | bool (value : Bool)
  | int (value : Int)
  | float (value : Binary64)
  | str (value : String)
  | arr (items : List Json)
  | obj (fields : List (String × Json))
deriving Repr, Inhabited

namespace Json

/-- Puts a field into a list of fields sorted by key; the new value replaces an equal key's. -/
def insertSorted (key : String) (value : Json) : List (String × Json) → List (String × Json)
  | [] => [(key, value)]
  | (k, v) :: rest =>
    if key < k then (key, value) :: (k, v) :: rest
    else if key == k then (key, value) :: rest
    else (k, v) :: insertSorted key value rest

mutual

/-- The tree with the fields of every object sorted by key, the last of equal keys kept. -/
def sorted : Json → Json
  | .arr items => .arr (sortedItems items)
  | .obj fields => .obj (sortedFields [] fields)
  | j => j

/-- Sorts every item. -/
def sortedItems : List Json → List Json
  | [] => []
  | j :: rest => sorted j :: sortedItems rest

/-- Adds the fields, in turn, to those already sorted. -/
def sortedFields (done : List (String × Json)) : List (String × Json) → List (String × Json)
  | [] => done
  | (k, v) :: rest => sortedFields (insertSorted k (sorted v) done) rest

end

/-- The field of an object under `key`. -/
def field? (j : Json) (key : String) : Option Json :=
  match j with
  | .obj fields => Assoc.get? fields key
  | _ => none

/-- The text of a string value. -/
def asText? : Json → Option String
  | .str s => some s
  | _ => none

/-- The value of a boolean. -/
def asBool? : Json → Option Bool
  | .bool b => some b
  | _ => none

/-- The items of an array. -/
def asItems? : Json → Option (List Json)
  | .arr items => some items
  | _ => none

/-- The value of a whole number that is not negative. -/
def asNat? : Json → Option Nat
  | .int n => if 0 ≤ n then some n.toNat else none
  | _ => none

/-- The value of any number, rounded to a double. -/
def asDouble? : Json → Option Binary64
  | .int n => some (.ofInt n)
  | .float x => some x
  | _ => none

end Json

end AnnotatedApi
