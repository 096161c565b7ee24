import FactIntake.Command.Group

/-!
The end of a command line: the fault that leaves it, its exit code, and all that was printed. An
interruption becomes an abort, and a broken pipe ends the program quietly. A fault that ends the
command with a message shows its message as the last line. A program that asks for its own end names
the status of the process.
-/

namespace FactIntake.Exit

/-- A system error about a pipe that nobody reads from. -/
def isBrokenPipe (fault : Fault) : Bool :=
  fault.isA "OSError" && match fault.bare with
    | .general _ args => (Fault.systemNumber? args).any (Model.sameKey (.int 32))
    | _ => false

def isInterruption (fault : Fault) : Bool :=
  fault.isA "KeyboardInterrupt" || fault.isA "EOFError"

/-- The fault that leaves the command line. -/
def leaving (fault : Fault) : Fault :=
  if isInterruption fault then .caused (.general "Abort" []) fault
  else if isBrokenPipe fault then .general "SystemExit" [.int 1]
  else fault

/-- The exit code that a fault of the command line carries; other faults are left to the caller, who
counts them as one. -/
def codeOf (fault : Fault) : Int :=
  match fault.bare with
  | .ended _ code => code
  | .misused .. => 2
  | _ => 1

/-- The status that a number makes: its last byte, as far as the number has a size. -/
def statusOfNumber (n : Int) : Nat := if Fault.isSize n then (n % 256).toNat else 255

/-- The status that a program asks for with the arguments of its own end. -/
def statusAsked : List Model → Nat
  | [] | [.null] => 0
  | [.int n] => statusOfNumber n
  | [.bool b] => if b then 1 else 0
  | _ => 1

/-- The status of a process that a fault ends. -/
def statusOf (fault : Fault) : Nat :=
  match fault.bare with
  | .ended _ code => statusOfNumber code
  | .misused .. => 2
  | .general "SystemExit" args | .general "Exit" args => statusAsked args
  | _ => 1

/-- What the user sees of a fault: the line of a message that ends the command. -/
def shown (fault : Fault) : Console.Printed :=
  match fault.bare with
  | .ended message _ => Console.error message
  | _ => .plain (.ok "")

/-- A command line that has come to its end. -/
structure Concluded where
  fault : Option Fault
  exitCode : Int
  output : String
  records : List Record
  /-- Why the message of the fault cannot be shown. -/
  unshown : Option Fault

/-- The status of the process: that of the fault, or of the one that comes of showing it. -/
def Concluded.status (concluded : Concluded) : Nat :=
  ((concluded.unshown.or concluded.fault).map statusOf).getD 0

def interruptionRecords (fault : Fault) : List Record :=
  if isInterruption fault then [.line ""] else []

/-- Concludes with a fault. -/
def withFault (run : Run) (met : Fault) : Concluded :=
  let fault := leaving met
  let line := shown fault
  let records := run.records ++ interruptionRecords met ++ line.warnings.map .line
  match line.text with
  | .ok line => ⟨some fault, codeOf fault, run.output ++ line, records, none⟩
  | .error broken => ⟨some fault, codeOf fault, run.output, records, some broken⟩

def conclude (run : Run) : Concluded :=
  match run.result with
  | .ok () => ⟨none, 0, run.output, run.records, none⟩
  | .error fault => withFault run fault

end FactIntake.Exit
