import FactIntake.Decimal.Binary64

/-!
Values of the exchange format. An object keeps its members in the order in which they were given.
-/

namespace FactIntake

inductive Json
  | null
  | bool (value : Bool)
  | int (value : Int)
  | float (value : Binary64)
  | text (value : String)
  | array (items : List Json)
  | object (members : List (String × Json))
deriving Inhabited

namespace Json

def ofText? : Json → Option String
  | text s => some s
  | _ => none

end Json

end FactIntake
