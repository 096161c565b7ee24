import FactIntake.Outcome

/-!
Building faults. A fault of this program that is given internal details logs them; a rejection
without a trail takes its own position as the trail; and wrapping a fault whose place is no trail
is a type error.
-/

namespace FactIntake

/-- What a fault is built from. -/
inductive Draft
  | facts (message : String) (details : Option String)
  | unreadable (message path : String) (details : Option String)
  | rejected (message : String) (label : Option String) (line column : Option Int)
      (trail : List Frame) (details : Option String)
  | misconfigured (message : String) (setting details : Option String)
  | failed (path : String) (inside : Draft)
  | foreign (message : String) (place : Place)
  | undecodable (flaw : Encoding.Flaw)
  | general (className : String) (args : List Model)
deriving Inhabited

namespace Fault

/-- The events that building a fault with the given details logs. -/
def detailEvents (fault : Fault) (details : Option String) : List Event :=
  match details with
  | some text => if text.isEmpty then [] else [.factsError fault.className fault.message text]
  | none => []

def withDetails (fault : Fault) (details : Option String) : Outcome Fault :=
  ⟨.ok fault, fault.detailEvents details⟩

/-- The trail of a rejection: the frames given, else the position if a label and a line are. -/
def rejectionTrail (label : Option String) (line column : Option Int) (frames : List Frame) :
    List Frame :=
  match frames, label, line with
  | [], some label, some line => [⟨label, some line, column⟩]
  | frames, _, _ => frames

def settingText (message : String) (setting : Option String) : String :=
  match setting with
  | some name => if name.isEmpty then message else message ++ " (setting " ++ name ++ ")"
  | none => message

def misconfiguredWith (message : String) (setting : Option String) : Fault :=
  misconfigured (settingText message setting) setting

/-- The class of faults that other programs raise, as far as they are built here. -/
def parserClass : ForeignClass := ⟨"ParserError", "Exception"⟩

def noTrail (typeName : String) : Fault :=
  typeFault (notIterable typeName)

/-- A fault of reading, as the fault of the source at `path` that it is. -/
def reading (path : String) (fault : Fault) : Fault :=
  caused (unreadable fault.message path) fault

/-- The failure of the source at `path` that wraps the fault `inside`. -/
def wrap (path : String) (inside : Fault) : Except Fault Fault :=
  match inside.placeType? with
  | some typeName => .error (noTrail typeName)
  | none => .ok (failed path inside)

/-- A system error about a file. -/
def system (number : Int) (text path : String) : Fault :=
  general (systemClass number) [.int number, .text text, .text path]

/-- The fault of a class with arguments, or the one that says why there is none. -/
def ofArguments (className : String) (args : List Model) : Except Fault Fault :=
  let built := builtClass className args
  match refusal? built args with
  | some refusal => .error (general refusal.className [.text refusal.message])
  | none => .ok (general built args)

/-- A flaw of bytes, its positions being whole numbers of 64 bits. -/
def ofFlaw (flaw : Encoding.Flaw) : Except Fault Fault :=
  if isSize flaw.start && isSize flaw.stop then .ok (undecodable flaw)
  else .error (general tooLarge.className [.text tooLarge.message])

end Fault

open Fault in
/-- Builds the fault; where that is impossible the result is the fault that says so. -/
def Draft.build : Draft → Outcome Fault
  | facts message details => (Fault.facts message).withDetails details
  | unreadable message path details => (Fault.unreadable message path).withDetails details
  | rejected message label line column frames details =>
    (Fault.rejected message label line column (rejectionTrail label line column frames)).withDetails
      details
  | misconfigured message setting details =>
    (misconfiguredWith message setting).withDetails details
  | failed path inside => inside.build.bind fun fault => ⟨wrap path fault, []⟩
  | foreign message place => .succeed (Fault.foreign parserClass message place)
  | undecodable flaw => ⟨ofFlaw flaw, []⟩
  | general className args => ⟨ofArguments className args, []⟩

/-- Builds the fault in order to raise it. -/
def Draft.raise (draft : Draft) : Raised :=
  let built := draft.build
  match built.result with
  | .ok fault => ⟨fault, built.events⟩
  | .error fault => ⟨fault, built.events⟩

end FactIntake
