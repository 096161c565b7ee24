import FactIntake.Decimal.Numeral
import FactIntake.Model.Display

/-!
Writing a model as a document. Models that write themselves do so; every other model becomes a
value of the exchange format first. Keys that are numbers, truth values or null become their
spelling, other keys have none, and any other value that the format does not know becomes its
display. Whole numbers of too many digits are not spelled.
-/

namespace FactIntake.Model

/-- Why a model has no document. -/
inductive Unwritable
  | key (typeName : String)
  | cycle
  | longNumber
deriving DecidableEq, Repr

/-- A whole number, if it can be spelled. -/
def spelled (n : Int) : Except Unwritable Int :=
  if Binary64.digitCount n.natAbs > Numeral.digitLimit then .error .longNumber else .ok n

def keyText? : Model → Except Unwritable String
  | text s => .ok s
  | null => .ok "null"
  | bool true => .ok "true"
  | bool false => .ok "false"
  | int n => (spelled n).map Json.intText
  | float x => .ok (String.ofList (Json.floatChars x))
  | key => .error (.key key.typeName)

mutual

def toJson : Model → Except Unwritable Json
  | null => .ok .null
  | bool b => .ok (.bool b)
  | int n => (spelled n).map .int
  | float x => .ok (.float x)
  | text s => .ok (.text s)
  | list items => (toJsonAll items).map .array
  | tuple items => (toJsonAll items).map .array
  | mapping entries => (toMembers entries).map .object
  | vocabulary label statements => .ok (.text (vocabularyText label statements))
  | document written => .ok (.text written)
  | bytes content => .ok (.text (Text.quotedBytes content))
  | object _ display => .ok (.text display)
  | cycle => .error .cycle

def toJsonAll : List Model → Except Unwritable (List Json)
  | [] => .ok []
  | item :: items => do
    let value ← toJson item
    let values ← toJsonAll items
    return value :: values

def toMembers : List (Model × Model) → Except Unwritable (List (String × Json))
  | [] => .ok []
  | (key, value) :: entries => do
    let name ← keyText? key
    let value ← toJson value
    let members ← toMembers entries
    return (name, value) :: members

end

/-- The document that `--output` writes and `--json` prints. -/
def write : Model → Except Unwritable String
  | vocabulary label statements =>
    .ok (Json.write .raw
      (.object [("label", .text label), ("statements", .array (statements.map .text))]))
  | document written => .ok written
  | model => model.toJson.map (Json.write .ascii)

end FactIntake.Model
