import FactIntake.Command.Exit
import FactIntake.Compiler.Samples

/-!
The program: it shows the command line the files that it names, runs it, and carries out what it
printed and wrote. The sample compilers can be named as `samples:echo` and so on.
-/

namespace FactIntake.Main

def sample (name : String) (factory : Factory) : String × Definition :=
  (name, ⟨name, none, [], some factory⟩)

def registry : Registry := fun name =>
  if name == "samples" then
    some ⟨false, [sample "echo" Samples.echo, sample "words" Samples.wordList,
      sample "statements" Samples.statementList], .quiet⟩
  else none

def absolute (location : Location) : String := "/" ++ "/".intercalate location

/-- Copies what is at a location into a disk; what is not there is left out. -/
def observeEntry (disk : Disk) (location : Location) : IO Disk := do
  try
    let real ← IO.FS.realPath (absolute location)
    if ← real.isDir then return disk.put location .directory
    let content ← IO.FS.readBinFile real
    return disk.put location (.file content.toList)
  catch _ => return disk

/-- Copies what is at a location, and the directories above it, into a disk. -/
def observe (disk : Disk) (location : Location) : IO Disk :=
  ((List.range location.length).map fun n => location.take (n + 1)).foldlM observeEntry disk

def locationOf (home : Location) (path : String) : Location :=
  let start := if Disk.isAbsolute path then [] else home
  (PlainPath.ofString path).names.foldl
    (fun here name => if name == ".." then here.dropLast else here ++ [name]) start

/-- The tokens that may name files: those of the subcommand that are no options, and its output. -/
def pathsIn (args : List String) : List String :=
  match Options.parse Arguments.specs true (Arguments.prepared (args.drop 1)) with
  | .ok parsed => parsed.positional ++ (parsed.value? .output).toList
  | .error _ => []

/-- The tokens from the name of the subcommand on. -/
def subcommandArgs (args : List String) : List String :=
  match Group.readSwitches args with
  | .ok (.tokens _ tokens) => tokens
  | _ => []

partial def readAll (stream : IO.FS.Stream) (before : ByteArray) : IO ByteArray := do
  let chunk ← stream.read 65536
  if chunk.isEmpty then return before else readAll stream (before ++ chunk)

def stdinFor (paths : List String) : IO Stream := do
  if paths.any fun path => Sentinel.isStdin path Settings.sourceExtensions then
    let content ← readAll (← IO.getStdin) .empty
    return .holding (.bytes content.toList)
  else return .nothing

def worldFor (args : List String) : IO World := do
  let home := (PlainPath.ofString (← IO.currentDir).toString).names
  let paths := pathsIn (subcommandArgs args)
  let disk ← (home :: paths.map (locationOf home)).foldlM observe (Disk.mk home [])
  let environment : Environment :=
    ⟨← IO.getEnv Environment.compilerVariable, ← IO.getEnv Environment.encodingVariable⟩
  return ⟨registry, .empty, disk, environment, ← stdinFor paths, .fresh⟩

/-- Carries out one change of the disk. -/
def carryOut (entry : Location × Node) : IO Unit :=
  match entry.2 with
  | .directory => IO.FS.createDirAll (absolute entry.1)
  | .file content => IO.FS.writeBinFile (absolute entry.1) ⟨content.toArray⟩
  | .link _ => pure ()

def writeRecord : Record → IO Unit
  | .line text => IO.eprintln text
  | .collected _ => pure ()

/-- Faults without a line of their own are named. -/
def nameFault (fault : Fault) : IO Unit :=
  match fault.bare with
  | .ended .. => pure ()
  | fault => IO.eprintln (fault.className ++ ": " ++ fault.message)

end FactIntake.Main

open FactIntake FactIntake.Main in
def main (args : List String) : IO UInt32 := do
  let world ← worldFor args
  let run := Group.run world args
  (run.world.disk.changesSince world.disk).forM carryOut
  let concluded := Exit.conclude run
  concluded.records.forM writeRecord
  IO.print concluded.output
  concluded.fault.forM nameFault
  concluded.unshown.forM nameFault
  return UInt32.ofNat concluded.status
