import FactIntake.Console.Markup
import FactIntake.Decimal.Numeral
import FactIntake.Fault
import FactIntake.Json.Reader
import FactIntake.Json.Writer
import FactIntake.Text.Columns

/-!
Lines on the console. Good news and warnings are markup after a coloured sign; errors are escaped
first, and information is shown without markup. A document is read and written again.
-/

namespace FactIntake.Console

/-- Shown characters as a line. -/
def lineOf (shown : List Char) : String := String.ofList (Text.expandTabs shown ++ ['\n'])

def markupFault (fault : MarkupFault) : Fault := .general fault.className [.text fault.message]

/-- What comes of a line: its text, if it can be shown, and the warnings that showing it gives. -/
structure Printed where
  text : Except Fault String
  warnings : List String

def Printed.plain (text : Except Fault String) : Printed := ⟨text, []⟩

def markupLine (markup : List Char) : Printed :=
  let (shown, warnings) := (render markup).run #[]
  ⟨(shown.map lineOf).mapError markupFault, warnings.toList.map Literal.Warning.display⟩

def success (message : String) : Printed :=
  markupLine ("[green]✓[/green] ".toList ++ message.toList)

def warning (message : String) : Printed :=
  markupLine ("[yellow]⚠[/yellow] ".toList ++ message.toList)

def error (message : String) : Printed :=
  markupLine ("[red]✗[/red] ".toList ++ escape message.toList)

def info (message : String) : String := lineOf (shownText message.toList)

/-- What the console reads of a document. -/
def documentLimits : Json.Limits := ⟨some Numeral.digitLimit, some 985⟩

def containerText : Json.Container → String
  | .array => "a JSON array"
  | .object => "a JSON object"

def documentFault (document : String) : Json.Unread → Fault
  | .malformed problem => .general "JSONDecodeError" [.text (problem.message document)]
  | .longNumeral digits => Fault.valueFault (Numeral.tooLongText digits)
  | .tooDeep container => .general "RecursionError" [.text
      ("maximum recursion depth exceeded while decoding " ++ containerText container ++
        " from a unicode string")]

/-- A document as the console shows it, all its characters as they are. -/
def printJson (document : String) : Except Fault String :=
  match Json.read documentLimits document with
  | .ok value => .ok (value.write .raw ++ "\n")
  | .error unread => .error (documentFault document unread)

end FactIntake.Console
