import FactIntake.Fault

/-!
How the command line tells what went wrong: one message and an exit code. A source that cannot be
read ends with code two, everything else that the user can mend with code one. A fault that lacks
what is to be told of it is a mistake of the caller, and gives the fault that says so.
-/

namespace FactIntake.Ending

def userError : Int := 1
def systemError : Int := 2

def ofIssues (issues : List Issue) : Fault := .ended (Issue.report issues) userError

def compilerHint : String := "Use --compiler package.module:Compiler or set FACTS_COMPILER."

/-- The fault has nothing under the name that it is asked for. -/
def lacking (fault : Fault) (part : String) : Fault :=
  .general "AttributeError" [.text
    ("'" ++ fault.className ++ "' object has no attribute " ++ Text.quoted part)]

/-- What a fault of this program says to the user. -/
def userMessage (fault : Fault) : Except Fault String :=
  if fault.isA "FactsError" then .ok fault.message else .error (lacking fault "user_message")

/-- The fault that comes of telling about another. -/
def told (ending : Except Fault Fault) : Fault :=
  match ending with
  | .ok fault => fault
  | .error fault => fault

def ofMisconfiguration (fault : Fault) : Fault := told do
  return .ended ((← userMessage fault) ++ "\n\n" ++ compilerHint) userError

/-- The fault that a failure wraps; what is asked for is its class. -/
def wrapped (fault : Fault) : Except Fault Fault :=
  match fault.original? with
  | some inside => .ok inside
  | none => .error (lacking fault "kind")

/-- A line for each place that led to a fault; only rejections and failures know of places. -/
def trailLines (fault : Fault) : Except Fault (List String) :=
  if fault.isA "CompileFailure" || fault.isA "CompileError" then
    .ok (fault.trail.map fun mark => "  at " ++ mark.display)
  else .error (lacking fault "location")

def exitCodeOf (inside : Fault) : Int :=
  if inside.isA "SourceIOError" then systemError else userError

/-- The message of a failure, and a line for each place that led to it. -/
def ofFailure (failure : Fault) : Fault := told do
  let message ← userMessage failure
  let lines ← trailLines failure
  return .ended ("\n".intercalate (message :: lines)) (exitCodeOf (← wrapped failure))

def notWritable (path : String) : Fault := .ended ("Cannot write to: " ++ path) systemError

end FactIntake.Ending
