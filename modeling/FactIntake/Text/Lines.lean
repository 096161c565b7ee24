/-!
Line ends. A text may end its lines with a line feed, a carriage return, or a pair of both.
-/

namespace FactIntake.Text

/-- Each pair of carriage return and line feed, and each other carriage return, as a line feed. -/
def uniformLines : List Char → List Char
  | [] => []
  | '\r' :: '\n' :: cs => '\n' :: uniformLines cs
  | c :: cs => (if c == '\r' then '\n' else c) :: uniformLines cs

end FactIntake.Text
