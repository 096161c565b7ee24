import FactIntake.Model

/-!
Values that hold other values: what one goes through item by item.
-/

namespace FactIntake.Model

/-- The items of a value: the characters of a text, the keys of a mapping, the members of a record
each with its name. -/
def items? : Model → Option (List Model)
  | text s => some (s.toList.map fun c => .text (String.singleton c))
  | list items | tuple items => some items
  | mapping entries => some (entries.map (·.1))
  | vocabulary label statements => some [
      .tuple [.text "label", .text label],
      .tuple [.text "statements", .list (statements.map .text)]]
  | bytes content => some (content.map fun b => .int b.toNat)
  | cycle => some [.cycle]
  | null | bool _ | int _ | float _ | document _ | object .. => none

/-- Whether the items of a value have positions. -/
def isSequence : Model → Bool
  | text _ | list _ | tuple _ | bytes _ | cycle => true
  | _ => false

end FactIntake.Model
