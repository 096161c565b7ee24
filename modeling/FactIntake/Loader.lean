import FactIntake.Compiler
import FactIntake.Disk
import FactIntake.Encoding.Decoding
import FactIntake.Import.Operation
import FactIntake.Reference
import FactIntake.Sentinel
import FactIntake.Settings
import FactIntake.Stream

/-!
The loader. Text given as such, the rest of a stream and the content of a file all end in one
operation that compiles a text under a label. Only a file path gives context to what goes wrong:
every ordinary fault of reading or compiling comes out as a failure of that path.
-/

namespace FactIntake

structure Loader where
  factory : Factory
  settings : Settings

namespace Loader

variable [Codecs]

/-- A loader before a call: what its factory does may depend on the attributes that the loaded
modules have at the time of the call. -/
structure Prepared where
  factory : Imports → Factory
  settings : Settings

def Prepared.loader (prepared : Prepared) (imports : Imports) : Loader :=
  ⟨prepared.factory imports, prepared.settings⟩

def stdinLabel : String := "<standard input>"
def streamLabel : String := "stdin"
def textLabel : String := "string"

def emptyLabel : Fault := Fault.valueFault "source label must not be empty"

/-- Compiles a text with a compiler built for the label. -/
def compileText (loader : Loader) (text label : String) : Report Model :=
  if label.isEmpty then .fail emptyLabel
  else do
    let model ← loader.factory.run label text
    Report.log (.sourceCompiled label text.length)
    return model

/-- A fault of decoding that tells of no place. -/
def undecided (reason : String) : Fault := .general "UnicodeError" [.text reason]

/-- The fault that stands for bytes without a text. -/
def undecodedFault (name : String) : Encoding.Undecoded → Fault
  | .flawed flaw => .undecodable flaw
  | .orderUnknown encoding => undecided (encoding ++ " stream does not start with BOM")
  | .refused reason => undecided reason
  | .failed reason => .caused
      (undecided ("decoding with '" ++ name ++ "' codec failed (UnicodeError: " ++ reason ++ ")"))
      (undecided reason)
  | .notText remedy => .general "LookupError" [.text
      ("'" ++ name ++ "' is not a text encoding; use " ++ remedy ++ " to handle arbitrary codecs")]

def unknownEncoding (name : String) : Fault :=
  .general "LookupError" [.text ("unknown encoding: " ++ name)]

/-- The text of decoded characters, or the fault that stands for its absence. -/
def textOf (name : String) (decoded : Encoding.Decoded) : Except Fault String :=
  match decoded with
  | .ok cs => .ok (String.ofList cs)
  | .error undecoded => .error (undecodedFault name undecoded)

/-- The text of bytes in the encoding of the loader. -/
def decode (loader : Loader) (bytes : Encoding.Bytes) : Except Fault String :=
  let name := loader.settings.encoding
  match Encoding.find? name with
  | none => if bytes.isEmpty then .ok "" else .error (unknownEncoding name)
  | some encoding => textOf name (encoding.decode bytes)

def contentText (loader : Loader) : Content → Except Fault String
  | .text text => .ok text
  | .bytes bytes => loader.decode bytes

/-- Compiles everything that is left on a stream. -/
def compileStream (loader : Loader) (stream : Stream) (label : String) : Report Model × Stream :=
  let (drained, stream) := stream.drain
  let report : Report Model := do
    let content ← Report.ofOutcome drained
    let text ← Report.ofExcept (loader.contentText content)
    loader.compileText text label
  (report, stream)

def diskFault (path : String) (fault : DiskFault) : Fault :=
  .system fault.number fault.text path

/-- The bytes of the file at a path. -/
def fileBytes (disk : Disk) (path : String) : Except Fault Encoding.Bytes :=
  if path.toList.contains (Char.ofNat 0) then .error (Fault.valueFault "embedded null byte")
  else (disk.read path).mapError (diskFault path)

/-- The text of the bytes of a file in the encoding of the loader, its line ends made uniform. -/
def decodeFile (loader : Loader) (bytes : Encoding.Bytes) : Except Fault String :=
  let name := loader.settings.encoding
  match Encoding.find? name with
  | none => .error (unknownEncoding name)
  | some encoding =>
    if encoding.isText then textOf name (encoding.decodeFile bytes)
    else .error (undecodedFault name (.notText "codecs.open()"))

/-- The text of the file at a path. -/
def fileText (loader : Loader) (disk : Disk) (path : String) : Except Fault String := do
  let bytes ← fileBytes disk path
  loader.decodeFile bytes

/-- Compiles the file at a path, or all of standard input; faults come out as they are. -/
def compileSource (loader : Loader) (disk : Disk) (stdin : Stream) (path : String) :
    Report Model × Stream :=
  if Sentinel.isStdin path loader.settings.extensions then
    let (report, stdin) := loader.compileStream stdin stdinLabel
    (report.after [.sourceResolved stdinLabel .stdin], stdin)
  else
    let report : Report Model := do
      let text ← Report.ofExcept (loader.fileText disk path)
      loader.compileText text path
    (report.after [.sourceResolved path .file], stdin)

/-- Faults that pass through unchanged. -/
def passes (fault : Fault) : Bool :=
  fault.isA "MemoryError" || fault.isA "RecursionError" || !fault.isA "Exception"

/-- Faults of reading, which get a class of their own. -/
def isReading (fault : Fault) : Bool :=
  fault.isA "OSError" || fault.isA "UnicodeDecodeError"

/-- What a fault is taken for before it is given the path. -/
def normalised (path : String) (fault : Fault) : Fault :=
  if isReading fault then Fault.reading path fault else fault

/-- The failure of a path from a fault inside it. -/
def failure (path : String) (fault : Fault) : Fault :=
  match Fault.wrap path fault with
  | .ok failure => .caused failure fault
  | .error broken => broken

/-- Gives the path to an ordinary fault. -/
def intercept (path : String) (report : Report Model) : Report Model :=
  match report.result with
  | .ok _ => report
  | .error fault =>
    if passes fault then report
    else
      let inside := normalised path fault
      { report with
        result := .error (failure path inside)
        events := report.events ++ [.sourceFailed path inside.className] }

/-- Compiles the file at a path, or standard input if the path designates it. -/
def compileFile (loader : Loader) (disk : Disk) (stdin : Stream) (path : String) :
    Report Model × Stream :=
  let (report, stdin) := loader.compileSource disk stdin path
  (intercept path report, stdin)

/-- A loader for a factory, or for the one that the settings name. -/
def create (registry : Registry) (factory : Option Factory) (settings : Settings)
    (imports : Imports) : Report Prepared × Imports :=
  match factory, settings.compiler with
  | some factory, _ => (.succeed ⟨fun _ => factory, settings⟩, imports)
  | none, none => (.fail noCompiler, imports)
  | none, some reference =>
    if reference.isEmpty then (.fail noCompiler, imports)
    else
      let (resolved, imports) := Reference.resolve registry reference imports
      (resolved.bind fun value => .succeed ⟨Import.factoryOf registry value, settings⟩, imports)
where
  noCompiler : Fault := Reference.invalidSetting
    "No compiler configured. Pass a compiler factory or set a compiler reference"

/-- The loader that the environment configures. -/
def fromEnvironment (registry : Registry) (environment : Environment) (imports : Imports) :
    Report Prepared × Imports :=
  match Settings.orFault (Settings.fromEnvironment environment []) with
  | .error fault => (.fail fault, imports)
  | .ok settings => create registry none settings imports

end Loader

end FactIntake
