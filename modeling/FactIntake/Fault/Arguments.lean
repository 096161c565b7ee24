import FactIntake.Fault.Family
import FactIntake.Model.Display
import FactIntake.Model.Items

/-!
Faults that are known by a class and by arguments alone: the arguments that a class refuses, the
class that a system error takes from its number, and the text that the arguments make.
-/

namespace FactIntake.Fault

/-- Why arguments make no fault: the class and the text of the fault that there is instead. -/
structure Refusal where
  className : String
  message : String
deriving DecidableEq, Repr

/-- The value is not of the type that is asked for. -/
def ofType (message : String) : Refusal := ⟨"TypeError", message⟩

def notIterable (typeName : String) : String := "'" ++ typeName ++ "' object is not iterable"

/-- Positions and sizes are whole numbers of 64 bits with a sign. -/
def isSize (n : Int) : Bool := -(Nat.pow 2 63 : Int) ≤ n && n < Nat.pow 2 63

/-- The last position of a range that stops at `stop`; the greatest one comes before the least. -/
def lastBefore (stop : Int) : Int :=
  if isSize (stop - 1) then stop - 1 else stop - 1 + Nat.pow 2 64

/-- A number is too large for a position. -/
def tooLarge : Refusal := ⟨"OverflowError", "Python int too large to convert to C ssize_t"⟩

/-- A value as a position: numbers without a fraction part in their type, which includes truth
values. -/
def position? : Model → Option Int
  | .bool b => some (if b then 1 else 0)
  | .int n => some n
  | _ => none

/-- What a class asks of one argument. -/
inductive Demand
  | text | position
deriving DecidableEq, Repr

/-- The name of a type where a text was asked for. -/
def foundType : Model → String
  | .null => "None"
  | value => value.typeName

def Demand.refusal? (demand : Demand) (index : Nat) (value : Model) : Option Refusal :=
  match demand, value with
  | text, .text _ => none
  | text, _ => some <| ofType
      ("argument " ++ Json.intText index ++ " must be str, not " ++ foundType value)
  | position, _ =>
    match position? value with
    | none => some <| ofType
        ("'" ++ value.typeName ++ "' object cannot be interpreted as an integer")
    | some n =>
      if isSize n then none else some tooLarge

def firstRefusal? (index : Nat) : List Demand → List Model → Option Refusal
  | demand :: demands, value :: values =>
    (demand.refusal? index value).or (firstRefusal? (index + 1) demands values)
  | _, _ => none

/-- Exactly the demanded arguments are to be given. -/
def exactly (demands : List Demand) (args : List Model) : Option Refusal :=
  if args.length == demands.length then firstRefusal? 1 demands args
  else some <| ofType ("function takes exactly " ++ Json.intText demands.length ++
    " arguments (" ++ Json.intText args.length ++ " given)")

/-- A place in a text is told by four to six values, and has a last column if it has a last line. -/
def placeRefusal? (place : List Model) : Option Refusal :=
  let given := " arguments (" ++ Json.intText place.length ++ " given)"
  if place.length < 4 then some (ofType ("function takes at least 4" ++ given))
  else if place.length == 5 then
    some (ofType "end_offset must be provided when end_lineno is provided")
  else if 6 < place.length then some (ofType ("function takes at most 6" ++ given))
  else none

/-- Two arguments are a message and the values of a place. -/
def syntaxRefusal? : List Model → Option Refusal
  | [_, place] =>
    match place.items? with
    | none => some (ofType (notIterable place.typeName))
    | some values => placeRefusal? values
  | _ => none

/-- A group holds a message and faults, and no value of a model is a fault. -/
def groupRefusal? : List Model → Option Refusal
  | [.text _, members] =>
    if !members.isSequence then
      some (ofType "second argument (exceptions) must be a sequence")
    else match members.items? with
      | some (_ :: _) =>
        some ⟨"ValueError", "Item 0 of second argument (exceptions) is not an exception"⟩
      | _ => some ⟨"ValueError", "second argument (exceptions) must be a non-empty sequence"⟩
  | [message, _] => some <| ofType
      ("BaseExceptionGroup.__new__() argument 1 must be str, not " ++ foundType message)
  | args => some <| ofType
      ("BaseExceptionGroup.__new__() takes exactly 2 arguments (" ++
        Json.intText args.length ++ " given)")

/-- A system error is told by its number, its text and the files that it is about. -/
def isSystemCall (args : List Model) : Bool := 2 ≤ args.length && args.length ≤ 5

/-- A call that would block may tell how much it did before. -/
def progressRefusal? : List Model → Option Refusal
  | [_, _, .float _] | [_, _, .float _, _] | [_, _, .float _, _, _] =>
    some (ofType "'float' object cannot be interpreted as an integer")
  | [_, _, .int n] | [_, _, .int n, _] | [_, _, .int n, _, _] =>
    if isSize n then none
    else some ⟨"ValueError", "cannot fit 'int' into an index-sized integer"⟩
  | _ => none

/-- The system error of a number has a class of its own. -/
def systemClass (number : Int) : String :=
  if number == 2 then "FileNotFoundError"
  else if number == 13 || number == 1 then "PermissionError"
  else if number == 21 then "IsADirectoryError"
  else if number == 20 then "NotADirectoryError"
  else if number == 17 then "FileExistsError"
  else if number == 110 then "TimeoutError"
  else if number == 32 || number == 108 then "BrokenPipeError"
  else if number == 4 then "InterruptedError"
  else if number == 11 || number == 114 || number == 115 then "BlockingIOError"
  else if number == 104 then "ConnectionResetError"
  else if number == 103 then "ConnectionAbortedError"
  else if number == 111 then "ConnectionRefusedError"
  else if number == 10 then "ChildProcessError"
  else if number == 3 then "ProcessLookupError"
  else "OSError"

/-- The first of the arguments of a system error. -/
def systemNumber? (args : List Model) : Option Model :=
  if isSystemCall args then args.head? else none

/-- The class that a fault gets that is built by class name and arguments. -/
def builtClass (className : String) (args : List Model) : String :=
  let plain := if className == "IOError" || className == "EnvironmentError" then "OSError"
    else className
  if plain == "OSError" then
    ((systemNumber? args >>= position?).map systemClass).getD plain
  else plain

/-- Why the arguments make no fault of the class. -/
def refusal? (className : String) (args : List Model) : Option Refusal :=
  if isKindOf className "SyntaxError" then syntaxRefusal? args
  else if className == "ExceptionGroup" || className == "BaseExceptionGroup" then
    groupRefusal? args
  else if className == "UnicodeEncodeError" then
    exactly [.text, .text, .position, .position, .text] args
  else if className == "UnicodeTranslateError" then
    exactly [.text, .position, .position, .text] args
  else if className == "BlockingIOError" then progressRefusal? args
  else none

/-- The arguments as they are, for want of a better text. -/
def plainText : List Model → String
  | [] => ""
  | [arg] => arg.display
  | args => (Model.tuple args).inner

/-- A system error with its number, its text and the names of the files it is about. -/
def systemText (number text : Model) (names : List Model) : String :=
  let head := "[Errno " ++ number.display ++ "] " ++ text.display
  match names with
  | [] | .null :: _ => head
  | [file] | [file, _] | file :: _ :: .null :: _ => head ++ ": " ++ file.inner
  | file :: _ :: other :: _ => head ++ ": " ++ file.inner ++ " -> " ++ other.inner

/-- The files that a system error is about; a number in their place is no file. -/
def namesOf (className : String) (names : List Model) : List Model :=
  match names with
  | name :: _ => if className == "BlockingIOError" && name.numeral?.isSome then [] else names
  | [] => []

def systemErrorText (className : String) (args : List Model) : String :=
  match args with
  | number :: text :: names =>
    if isSystemCall args then systemText number text (namesOf className names) else plainText args
  | _ => plainText args

/-- The file and the line of a place, as far as they are a text and a whole number. -/
def placeText (file line : Model) : String :=
  let name? : Option String := match file with
    | .text path => (Text.pieces '/' path).getLast?
    | _ => none
  let line? : Option String := match line with
    | .int n => some ("line " ++ Json.intText (if isSize n then n else -1))
    | _ => none
  match name?.toList ++ line?.toList with
  | [] => ""
  | parts => " (" ++ Model.commaSeparated parts ++ ")"

def syntaxText : List Model → String
  | [] => "None"
  | [message, place] =>
    match place.items? with
    | some (file :: line :: _) => message.display ++ placeText file line
    | _ => message.display
  | message :: _ => message.display

/-- A character as the number of its code point. -/
def codePointText (c : Char) : String :=
  let hex (width : Nat) : String := String.ofList (Text.hexDigits width c.toNat)
  if c.toNat < 0x100 then "'\\x" ++ hex 2 ++ "'"
  else if c.toNat < 0x10000 then "'\\u" ++ hex 4 ++ "'"
  else "'\\U" ++ hex 8 ++ "'"

/-- Where in a text its characters stand in the way: the one that does, or the range of them. -/
def charactersText (deed : String) (text : String) (start stop : Int) (reason : String) : String :=
  let single? := if stop == start + 1 && 0 ≤ start then text.toList[start.toNat]? else none
  match single? with
  | some c => deed ++ " character " ++ codePointText c ++ " in position " ++ Json.intText start ++
      ": " ++ reason
  | none => deed ++ " characters in position " ++ Json.intText start ++ "-" ++
      Json.intText (lastBefore stop) ++ ": " ++ reason

def encodingText (args : List Model) : String :=
  match args with
  | [.text encoding, .text text, start, stop, .text reason] =>
    charactersText ("'" ++ encoding ++ "' codec can't encode") text ((position? start).getD 0)
      ((position? stop).getD 0) reason
  | _ => plainText args

def exchangeText (args : List Model) : String :=
  match args with
  | [.text text, start, stop, .text reason] =>
    charactersText "can't translate" text ((position? start).getD 0)
      ((position? stop).getD 0) reason
  | _ => plainText args

/-- The text of a fault that is known by its class and its arguments alone. -/
def generalText (className : String) (args : List Model) : String :=
  if isKindOf className "SyntaxError" then syntaxText args
  else if isKindOf className "OSError" then systemErrorText className args
  else if className == "UnicodeEncodeError" then encodingText args
  else if className == "UnicodeTranslateError" then exchangeText args
  else match className, args with
    | "KeyError", [arg] => arg.inner
    | _, _ => plainText args

end FactIntake.Fault
