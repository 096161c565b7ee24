import FactIntake.Command.Compile
import FactIntake.Console.Setup

/-!
The command line as a whole: switches, then the name of a subcommand, then its own command line. The
log is configured once the subcommand is known and before its command line is read.
-/

namespace FactIntake.Group

variable [Codecs]

inductive Switch
  | noColour | version | verbose | help
deriving DecidableEq, Repr

def switches : List (Options.Spec Switch) := [
  ⟨.noColour, none, "--no-color", false⟩, ⟨.version, none, "--version", false⟩,
  ⟨.verbose, some 'v', "--verbose", false⟩, ⟨.help, none, "--help", false⟩]

inductive Subcommand
  | compile | extensions
deriving DecidableEq, Repr

def subcommands : List (String × Subcommand) := [
  ("compile", .compile), ("extensions", .extensions)]

def versionLine : String := "facts, version 0.1.0\n"

def missingCommand : Fault := .misused .general "Missing command."

def noSuchCommand (name : String) : Fault :=
  .misused .noSuchCommand ("No such command " ++ Text.quoted name ++ ".")

/-- How the switches leave a command line: it may be done, or a subcommand is to be run. -/
inductive Front
  | done (text : String)
  | tokens (verbose : Bool) (tokens : List String)

/-- The first switch that ends the command line, if there is one. -/
def endingText? (given : List (Switch × Option String)) : Option String :=
  match given with
  | [] => none
  | (.version, _) :: _ => some versionLine
  | (.help, _) :: _ => some ""
  | _ :: rest => endingText? rest

def readSwitches (args : List String) : Except Fault Front :=
  (Options.parse switches false args).map fun parsed =>
    match endingText? parsed.given with
    | some text => .done text
    | none => .tokens (parsed.has .verbose) parsed.positional

/-- The console that the switches of a command line set up, as far as one does not end it. -/
def consoleOf (attached forced : Bool) (args : List String) : Console.Setup :=
  Console.Setup.create attached forced <| match Options.parse switches false args with
    | .ok parsed => (parsed.given.takeWhile fun given => (endingText? [given]).isNone).any (·.1 == .noColour)
    | .error _ => false

/-- What becomes of a name that is no subcommand. A name with a hyphen in front is read as a switch
before it is refused. -/
def refuse (name : String) (args : List String) : Except Fault String :=
  if name.toList.head? == some '-' then
    match readSwitches args with
    | .error fault => .error fault
    | .ok (.done text) => .ok text
    | .ok (.tokens ..) => .error (noSuchCommand name)
  else .error (noSuchCommand name)

def logOptions (verbose : Bool) : LogOptions :=
  ⟨if verbose then "DEBUG" else "WARNING", ⟨false, true⟩⟩

/-- Configures the log for the subcommand. -/
def configured (world : World) (verbose : Bool) : World :=
  match world.journal.configure (logOptions verbose) with
  | some (_, journal) => { world with journal := journal }
  | none => world

inductive ExtensionsOption
  | help
deriving DecidableEq

/-- Prints the recognised extensions, one a line. -/
def runExtensions (world : World) (args : List String) : Run :=
  match Options.parse [⟨ExtensionsOption.help, none, "--help", false⟩] true args with
  | .error fault => world.stop (.error fault)
  | .ok parsed =>
    if parsed.has .help then world.stop (.ok ())
    else if parsed.positional.isEmpty then
      world.print (String.join (Settings.default.extensions.map fun extension =>
        Console.info ("." ++ extension)))
    else world.stop (.error (Options.unexpected parsed.positional))

def runSubcommand (world : World) (args : List String) : Subcommand → Run
  | .compile => Compile.run world args
  | .extensions => runExtensions world args

/-- Runs a whole command line. -/
def run (world : World) (args : List String) : Run :=
  match readSwitches args with
  | .error fault => world.stop (.error fault)
  | .ok (.done text) => world.print text
  | .ok (.tokens _ []) => world.stop (.error missingCommand)
  | .ok (.tokens verbose (name :: rest)) =>
    match subcommands.lookup name with
    | some subcommand => runSubcommand (configured world verbose) rest subcommand
    | none =>
      match refuse name (name :: rest) with
      | .ok text => world.print text
      | .error fault => world.stop (.error fault)

end FactIntake.Group
