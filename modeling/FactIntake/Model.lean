import FactIntake.Json
import FactIntake.Encoding.Flaw

/-!
What a compiler makes of a source. The loader never looks inside a model; it can be written as a
document and be displayed as text.
-/

namespace FactIntake

inductive Model
  | null
  | bool (value : Bool)
  | int (value : Int)
  | float (value : Binary64)
  | text (value : String)
  | list (items : List Model)
  | tuple (items : List Model)
  | mapping (entries : List (Model × Model))
  /-- A model that writes itself as an object with these two members. -/
  | vocabulary (label : String) (statements : List String)
  /-- A model that writes itself as this document. -/
  | document (written : String)
  | bytes (content : Encoding.Bytes)
  /-- A value of another type, with its display. -/
  | object (typeName display : String)
  /-- A list that contains itself. -/
  | cycle
deriving Inhabited

namespace Model

/-- A number as a key: its sign and its exact size as a fraction over a power of two. -/
def numeral? : Model → Option (Int × Nat)
  | bool b => some (if b then 1 else 0, 0)
  | int n => some (n, 0)
  | float (.finite negative significand exponent) =>
    let size := if exponent ≥ 0 then significand * Nat.pow 2 exponent.toNat else significand
    some (if negative then -(size : Int) else size, (-exponent).toNat)
  | _ => none

def sameNumeral : Int × Nat → Int × Nat → Bool
  | (a, m), (b, n) => a * Nat.pow 2 n == b * Nat.pow 2 m

mutual

/-- Whether two values are one key of a mapping. Numbers are compared by value, and a value that is
no number differs from itself. -/
def sameKey : Model → Model → Bool
  | null, null => true
  | text a, text b => a == b
  | bytes a, bytes b => a == b
  | tuple as, tuple bs => sameKeys as bs
  | object t a, object u b => t == u && a == b
  | document a, document b => a == b
  | float (.infinite a), float (.infinite b) => a == b
  | a, b => match a.numeral?, b.numeral? with
    | some x, some y => sameNumeral x y
    | _, _ => false

def sameKeys : List Model → List Model → Bool
  | [], [] => true
  | a :: as, b :: bs => sameKey a b && sameKeys as bs
  | _, _ => false

end

/-- A mapping built by putting its entries one after the other. -/
def ofEntries (entries : List (Model × Model)) : Model :=
  let put (done : List (Model × Model)) (entry : Model × Model) :=
    if done.any (fun e => e.1.sameKey entry.1)
    then done.map fun e => if e.1.sameKey entry.1 then (e.1, entry.2) else e
    else done ++ [entry]
  mapping (entries.foldl put [])

/-- The name of the type of a value. -/
def typeName : Model → String
  | null => "NoneType"
  | bool _ => "bool"
  | int _ => "int"
  | float _ => "float"
  | text _ => "str"
  | list _ | cycle => "list"
  | tuple _ => "tuple"
  | mapping _ => "dict"
  | vocabulary .. => "Vocabulary"
  | document _ => "Document"
  | bytes _ => "bytes"
  | object typeName _ => typeName

end Model

end FactIntake
