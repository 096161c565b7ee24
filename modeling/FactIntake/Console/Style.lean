import FactIntake.Console.Colour
import FactIntake.Text.Lowercase

/-!
Names of styles. Two names are one if they spell the same style: attributes in any order and under
any alias, a colour, a background and a link. A name that spells no style is compared in small
letters.
-/

namespace FactIntake.Console

/-- Attributes in the order in which they are spelled, each with its aliases. -/
def attributeNames : List (String × List String) := [
  ("bold", ["b"]), ("dim", ["d"]), ("italic", ["i"]), ("underline", ["u"]), ("blink", []),
  ("blink2", []), ("reverse", ["r"]), ("conceal", ["c"]), ("strike", ["s"]),
  ("underline2", ["uu"]), ("frame", []), ("encircle", []), ("overline", ["o"])]

def attributeOf? (word : String) : Option String :=
  (attributeNames.find? fun entry => entry.1 == word || entry.2.contains word).map (·.1)

structure Style where
  attributes : List (String × Bool)
  colour : Option String
  background : Option String
  link : Option String

namespace Style

def plain : Style := ⟨[], none, none, none⟩

def set (style : Style) (attr : String) (value : Bool) : Style :=
  { style with attributes := (attr, value) :: style.attributes.filter (·.1 != attr) }

/-- Reads the words of a style, up to the first that cannot be read. -/
def readWords (style : Style) : List String → Except StyleFlaw Style
  | [] => .ok style
  | first :: words =>
    let word := Text.lower first
    match word, words with
    | "on", colour :: rest =>
      let small := Text.lower colour
      match readColour small with
      | .ok () => readWords { style with background := some small } rest
      | .error flaw => .error flaw
    | "on", [] => .error .unknown
    | "not", attr :: rest =>
      match attributeOf? attr with
      | some attr => readWords (style.set attr false) rest
      | none => .error .unknown
    | "not", [] => .error .unknown
    | "link", target :: rest => readWords { style with link := some target } rest
    | "link", [] => .error .unknown
    | _, rest =>
      match attributeOf? word with
      | some attr => readWords (style.set attr true) rest
      | none =>
        match readColour word with
        | .ok () => readWords { style with colour := some word } rest
        | .error flaw => .error flaw

/-- Reads a style; blank text and the word for none spell the plain one. -/
def read (name : String) : Except StyleFlaw Style :=
  let trimmed := Text.strip name
  if trimmed.isEmpty || trimmed == "none" then .ok plain else plain.readWords (Text.words name)

def words (style : Style) : List String :=
  let attributes := attributeNames.filterMap fun entry =>
    (style.attributes.lookup entry.1).map fun value =>
      if value then entry.1 else "not " ++ entry.1
  attributes ++ style.colour.toList ++
    (style.background.toList.flatMap fun colour => ["on", colour]) ++
    (style.link.toList.flatMap fun target => ["link", target])

def display (style : Style) : String :=
  if style.words.isEmpty then "none" else " ".intercalate style.words

/-- The one spelling of a style name. Only an unreadable component makes it fail. -/
def normal (name : String) : Except Numeral.Refusal String :=
  match read name with
  | .ok style => .ok style.display
  | .error (.component refusal) => .error refusal
  | .error .unknown => .ok (Text.lower (Text.strip name))

/-- What is wrong with a style at the time it is shown; an unknown one is shown plainly. -/
def refusal? (name : String) : Option Numeral.Refusal :=
  match read name with
  | .error (.component refusal) => some refusal
  | _ => none

end Style

end FactIntake.Console
