import FactIntake.Model
import FactIntake.Json.Writer

/-!
The display of a model as text. Inside another value a text stands in quotes; on its own it is
displayed as it is.
-/

namespace FactIntake.Model

def commaSeparated (parts : List String) : String := ", ".intercalate parts

def bracketed (parts : List String) : String := "[" ++ commaSeparated parts ++ "]"

/-- A tuple of one value keeps a comma. -/
def parenthesised : List String → String
  | [part] => "(" ++ part ++ ",)"
  | parts => "(" ++ commaSeparated parts ++ ")"

def braced (parts : List String) : String := "\x7b" ++ commaSeparated parts ++ "\x7d"

def vocabularyText (label : String) (statements : List String) : String :=
  "label=" ++ Text.quoted label ++ " statements=" ++ bracketed (statements.map Text.quoted)

mutual

/-- The display inside another value. -/
def inner : Model → String
  | null => "None"
  | bool true => "True"
  | bool false => "False"
  | int n => Json.intText n
  | float x => x.display
  | text s => Text.quoted s
  | list items => bracketed (innerAll items)
  | tuple items => parenthesised (innerAll items)
  | mapping entries => braced (innerEntries entries)
  | vocabulary label statements => "Vocabulary(" ++ vocabularyText label statements ++ ")"
  | document written => written
  | bytes content => Text.quotedBytes content
  | object _ display => display
  | cycle => "[[...]]"

def innerAll : List Model → List String
  | [] => []
  | item :: items => inner item :: innerAll items

def innerEntries : List (Model × Model) → List String
  | [] => []
  | (key, value) :: entries => (inner key ++ ": " ++ inner value) :: innerEntries entries

end

def display : Model → String
  | text s => s
  | vocabulary label statements => vocabularyText label statements
  | model => model.inner

end FactIntake.Model
