import FactIntake.Command.Arguments
import FactIntake.Command.Ending
import FactIntake.Command.World
import FactIntake.Console.Line
import FactIntake.Disk.PlainPath
import FactIntake.Model.Writer

/-!
The compile command: it settles the loader, compiles the source, writes the model to a file if asked
to, and then prints the model or says what it did. Nothing is read before the loader is settled, and
nothing is written before there is a model.
-/

namespace FactIntake.Compile

variable [Codecs]

def textGiven : Option String → Model
  | some s => .text s
  | none => .null

/-- The settings that the options and the environment make. -/
def settingsFor (environment : Environment) (request : Arguments.Compile) :
    Except Fault Settings :=
  (Settings.fromEnvironment environment
    [("compiler", textGiven request.compiler), ("encoding", textGiven request.encoding)]).mapError
      Ending.ofIssues

/-- Bad settings end the command, those of a module that is loaded too; other faults of loading a
module pass through. -/
def loaderFault (fault : Fault) : Fault :=
  match fault.bare with
  | .invalid issues => Ending.ofIssues issues
  | _ => if fault.isA "ConfigurationError" then Ending.ofMisconfiguration fault else fault

/-- A failure of the source ends the command; other faults pass through. -/
def sourceFault (fault : Fault) : Fault :=
  if fault.isA "CompileFailure" then Ending.ofFailure fault else fault

def unwritableFault : Model.Unwritable → Fault
  | .key typeName =>
    Fault.typeFault ("keys must be str, int, float, bool or None, not " ++ typeName)
  | .cycle => Fault.valueFault "Circular reference detected"
  | .longNumber => Fault.valueFault Numeral.unspelledText

/-- The document of a model. -/
def document (model : Model) : Except Fault String := model.write.mapError unwritableFault

/-- Too many directories are missing above a path. -/
def tooDeepFault : Fault := .general "RecursionError"
  [.text "maximum recursion depth exceeded while calling a Python object"]

/-- Writes the document of a model to a path, the missing directories above it made first. -/
def writeModel (world : World) (path : String) (model : Model) : Run :=
  let target := PlainPath.ofString path
  let above := PlainPath.make world.disk target.parent
  let world := { world with disk := above.disk }
  match above.result with
  | .error (.fault _) => world.stop (.error (Ending.notWritable path))
  | .error .tooDeep => world.stop (.error tooDeepFault)
  | .ok () =>
    match document model with
    | .error fault => world.stop (.error fault)
    | .ok text =>
      match world.disk.write target.display (Encoding.Utf8.encode text.toList) with
      | .error _ => world.stop (.error (Ending.notWritable path))
      | .ok disk => { world with disk := disk }.stop (.ok ())

def writeOutput (world : World) (output : Option String) (model : Model) : Run :=
  match output with
  | some path => writeModel world path model
  | none => world.stop (.ok ())

def printModel (world : World) (model : Model) : Run :=
  world.printLine (.plain (document model >>= Console.printJson))

/-- Says what was compiled, and where the model was written. -/
def announce (world : World) (request : Arguments.Compile) : Run :=
  (world.printLine (Console.success ("Compiled " ++ request.source))).bind fun world =>
    match request.output with
    | some path => world.printLine (Console.success ("Model written to " ++ path))
    | none => world.stop (.ok ())

/-- What follows once there is a model. -/
def finish (world : World) (request : Arguments.Compile) (model : Model) : Run :=
  (writeOutput world request.output model).bind fun world =>
    if request.json then printModel world model else announce world request

/-- Compiles the source with a settled loader. -/
def compileSource (world : World) (loader : Loader) (request : Arguments.Compile) : Run :=
  let (report, stdin) := loader.compileFile world.disk world.stdin request.source
  let imports := world.imports.change report.changes
  let (records, world) := { world with stdin := stdin, imports := imports }.logged report.events
  match report.result with
  | .error fault => (world.stop (.error (sourceFault fault))).after report.calls records
  | .ok model => (finish world request model).after report.calls records

/-- Runs the command as it was asked for. -/
def perform (world : World) (request : Arguments.Compile) : Run :=
  match settingsFor world.environment request with
  | .error fault => world.stop (.error fault)
  | .ok settings =>
    let (built, imports) := Loader.create world.registry none settings world.imports
    let (records, world) := { world with imports := imports }.logged built.events
    match built.result with
    | .error fault => (world.stop (.error (loaderFault fault))).after built.calls records
    | .ok prepared =>
      (compileSource world (prepared.loader imports) request).after built.calls records

/-- Runs the command on its command line. -/
def run (world : World) (args : List String) : Run :=
  match Arguments.read world.disk args with
  | .error fault => world.stop (.error fault)
  | .ok .help => world.stop (.ok ())
  | .ok (.compile request) => perform world request

end FactIntake.Compile
