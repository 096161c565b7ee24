import FactIntake.Json.Writer

/-!
One place in a source: its label, a line and a column, as far as they are known.
-/

namespace FactIntake

structure Frame where
  label : String
  line : Option Int
  column : Option Int
deriving DecidableEq, Repr

namespace Frame

def parts (frame : Frame) : List String :=
  match frame.line, frame.column with
  | none, _ => [frame.label]
  | some line, none => [frame.label, Json.intText line]
  | some line, some column => [frame.label, Json.intText line, Json.intText column]

/-- The known parts with colons between them; a column without a line is left out. -/
def display (frame : Frame) : String := ":".intercalate frame.parts

end Frame

end FactIntake
