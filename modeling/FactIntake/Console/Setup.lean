/-!
Whether the console shows colours, and whether it is written to as a terminal.
-/

namespace FactIntake.Console

structure Setup where
  noColour : Bool
  terminal : Bool
deriving DecidableEq, Repr

/-- Colours are off if they are not wanted or are forced off, and then there is no terminal. A terminal
has to be attached in any case. -/
def Setup.create (attached forced noColour : Bool) : Setup :=
  ⟨noColour || forced, attached && !(noColour || forced)⟩

end FactIntake.Console
