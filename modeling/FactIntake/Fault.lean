import FactIntake.Frame
import FactIntake.Fault.Arguments
import FactIntake.Settings.Issue

/-!
Faults: everything that can go wrong while a source is found, read and compiled, with the text and
the location trail of each. A failure wraps another fault together with the path of the source; its
text and its trail are those of the fault inside, the text after the path.
-/

namespace FactIntake

/-- An item of a location trail. A fault of another program may hold other values than frames. -/
inductive Mark
  | frame (frame : Frame)
  | item (value : Model)

/-- What a fault of another program says about its place. -/
inductive Place
  | absent
  | marks (marks : List Mark)
  /-- A value stands for the trail of its items, and is no trail if it has none. -/
  | value (value : Model)

/-- A class of another program: its name, and the known class that it is derived from. -/
structure ForeignClass where
  name : String
  base : String
deriving DecidableEq, Repr

/-- Why a command line is refused. -/
inductive Misuse
  | general | noSuchCommand | noSuchOption | badOption | badValue | missingArgument
deriving DecidableEq, Repr

inductive Fault
  | facts (message : String)
  | unreadable (message path : String)
  | rejected (message : String) (label : Option String) (line column : Option Int)
      (trail : List Frame)
  | misconfigured (message : String) (setting : Option String)
  | failed (path : String) (inside : Fault)
  | foreign (kind : ForeignClass) (message : String) (place : Place)
  | undecodable (flaw : Encoding.Flaw)
  | general (className : String) (args : List Model)
  | invalid (issues : List Issue)
  | misused (misuse : Misuse) (message : String)
  /-- The command line ends with a message and an exit code. -/
  | ended (message : String) (exitCode : Int)
  | caused (fault cause : Fault)
deriving Inhabited

def Mark.display : Mark → String
  | .frame place => place.display
  | .item value => value.display

def Place.trail : Place → List Mark
  | .absent => []
  | .marks trail => trail
  | .value given => (given.items?.getD []).map .item

/-- The value that is given as a place though it is no trail. -/
def Place.unfit? : Place → Option Model
  | .absent | .marks _ => none
  | .value given => if given.items?.isNone then some given else none

def Misuse.className : Misuse → String
  | .general => "UsageError"
  | .noSuchCommand => "NoSuchCommand"
  | .noSuchOption => "NoSuchOption"
  | .badOption => "BadOptionUsage"
  | .badValue => "BadParameter"
  | .missingArgument => "MissingParameter"

namespace Fault

def className : Fault → String
  | facts _ => "FactsError"
  | unreadable .. => "SourceIOError"
  | rejected .. => "CompileError"
  | misconfigured .. => "ConfigurationError"
  | failed .. => "CompileFailure"
  | foreign kind _ _ => kind.name
  | undecodable _ => "UnicodeDecodeError"
  | general className _ => className
  | invalid _ => "ValidationError"
  | misused misuse _ => Misuse.className misuse
  | ended .. => "CLIError"
  | caused fault _ => fault.className

/-- The known class that decides what a fault is: its own, or the one that a class of another program
is derived from. -/
def family : Fault → String
  | foreign kind _ _ => kind.base
  | caused fault _ => fault.family
  | fault => fault.className

def isA (fault : Fault) (ancestor : String) : Bool := isKindOf fault.family ancestor

/-- The byte that a flaw is about if it is about one. Before the first byte there are full ones. -/
def flawByte? (flaw : Encoding.Flaw) : Option UInt8 :=
  if flaw.stop != flaw.start + 1 then none
  else if flaw.start < 0 then some 0xFF
  else flaw.bytes[flaw.start.toNat]?

/-- Bytes that no character has, shown one by one if there is a single one. -/
def flawText (flaw : Encoding.Flaw) : String :=
  let codec := "'" ++ flaw.codec ++ "' codec can't decode "
  match flawByte? flaw with
  | some b =>
    codec ++ "byte 0x" ++ String.ofList (Text.hexDigits 2 b.toNat) ++ " in position " ++
      Json.intText flaw.start ++ ": " ++ flaw.reason
  | none =>
    codec ++ "bytes in position " ++ Json.intText flaw.start ++ "-" ++
      Json.intText (lastBefore flaw.stop) ++ ": " ++ flaw.reason

/-- The text of a fault. -/
def message : Fault → String
  | facts message => message
  | unreadable message _ => message
  | rejected message .. => message
  | misconfigured message _ => message
  | failed path inside => "In " ++ path ++ " " ++ Text.strip inside.message
  | foreign _ message _ => message
  | undecodable flaw => flawText flaw
  | general className args => generalText className args
  | invalid issues => Issue.report issues
  | misused _ message => message
  | ended message _ => message
  | caused fault _ => fault.message

/-- What a fault says about its place. A failure has the trail of the fault inside. -/
def place : Fault → Place
  | rejected _ _ _ _ frames => .marks (frames.map .frame)
  | failed _ inside => .marks inside.place.trail
  | foreign _ _ place => place
  | caused fault _ => fault.place
  | _ => .absent

/-- The places that lead to a fault, the outermost first. -/
def trail (fault : Fault) : List Mark := fault.place.trail

/-- The type of the value that a fault gives as its place though it is no trail. -/
def placeType? (fault : Fault) : Option String := fault.place.unfit?.map Model.typeName

/-- The path that a fault carries. -/
def path? : Fault → Option String
  | unreadable _ path => some path
  | failed path _ => some path
  | caused fault _ => fault.path?
  | _ => none

/-- The fault that a failure wraps. -/
def original? : Fault → Option Fault
  | failed _ inside => some inside
  | caused fault _ => fault.original?
  | _ => none

/-- The class of the fault that a failure wraps. -/
def kind? (fault : Fault) : Option String := fault.original?.map className

/-- The text of the fault that a failure wraps, as it is. -/
def originalMessage? (fault : Fault) : Option String := fault.original?.map message

/-- The fault without its cause. -/
def bare : Fault → Fault
  | caused fault _ => fault.bare
  | fault => fault

/-- The fault that this one was raised from. -/
def cause? : Fault → Option Fault
  | caused _ cause => some cause
  | _ => none

def valueFault (message : String) : Fault := general "ValueError" [.text message]
def typeFault (message : String) : Fault := general "TypeError" [.text message]

end Fault

end FactIntake
