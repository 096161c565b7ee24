import FactIntake.Command.Options
import FactIntake.Disk
import FactIntake.Sentinel
import FactIntake.Settings

/-!
The command line of the compile command. Before it is read, every token that designates standard
input and is not the value of an option is moved behind two hyphens, so that it is not taken for a
cluster of letters; a line with two hyphens in it is left as it is.
-/

namespace FactIntake.Arguments

inductive CompileOption
  | compiler | output | encoding | json | help
deriving DecidableEq, Repr

def specs : List (Options.Spec CompileOption) := [
  ⟨.compiler, some 'c', "--compiler", true⟩, ⟨.output, some 'o', "--output", true⟩,
  ⟨.encoding, none, "--encoding", true⟩, ⟨.json, none, "--json", false⟩,
  ⟨.help, none, "--help", false⟩]

/-- What a command line asks for. -/
structure Compile where
  source : String
  compiler : Option String
  output : Option String
  encoding : Option String
  json : Bool
deriving DecidableEq, Repr

/-- The names of the options that take a value. -/
def valueOptions : List String :=
  (specs.filter (·.takesValue)).flatMap fun spec =>
    (spec.letter.map Options.letterName).toList ++ [spec.long]

def isSentinel (token : String) : Bool :=
  token.toList.head? == some '-' && Sentinel.isStdin token Settings.sourceExtensions

/-- Tokens that stay, and tokens that are moved behind them. -/
structure Sorted where
  kept : List String
  moved : List String
deriving DecidableEq, Repr

/-- Sorts one token; a token after the name of an option that takes a value stays. -/
def Sorted.add (sorted : Sorted) (token : String) : Sorted :=
  let isValue := match sorted.kept.getLast? with
    | some last => valueOptions.contains last
    | none => false
  if isSentinel token && !isValue then { sorted with moved := sorted.moved ++ [token] }
  else { sorted with kept := sorted.kept ++ [token] }

def sort (args : List String) : Sorted := args.foldl Sorted.add ⟨[], []⟩

/-- The command line with its sentinels behind two hyphens, unchanged if it has none. -/
def shift (args : List String) : List String :=
  let sorted := sort args
  if sorted.moved.isEmpty then args else sorted.kept ++ Options.endMark :: sorted.moved

/-- The command line that is read. -/
def prepared (args : List String) : List String :=
  if args.contains Options.endMark then args else shift args

/-- How the reading of a command line ends. -/
inductive Reading
  | help
  | compile (request : Compile)
deriving DecidableEq, Repr

def nulFault : Fault := Fault.valueFault "embedded null byte"

def hasNul (s : String) : Bool := s.toList.contains (Char.ofNat 0)

def directoryGiven (path : String) : Fault :=
  .misused .badValue
    ("Invalid value for '-o' / '--output': File " ++ Text.quoted path ++ " is a directory.")

/-- An output path may be free or a file. -/
def checkOutput (disk : Disk) : Option String → Except Fault Unit
  | none => .ok ()
  | some path =>
    if hasNul path then .error nulFault
    else if disk.isDirectory path then .error (directoryGiven path)
    else .ok ()

def missingSource : Fault := .misused .missingArgument "Missing argument 'SOURCE'."

/-- The one source that the other tokens name. -/
def checkSource : List String → Except Fault String
  | [] => .error missingSource
  | source :: extra =>
    if hasNul source then .error nulFault
    else if extra.isEmpty then .ok source
    else .error (Options.unexpected extra)

/-- Checks the values on a command line. -/
def check (disk : Disk) (parsed : Options.Parsed CompileOption) : Except Fault Reading := do
  if parsed.has .help then return .help
  let output := parsed.value? .output
  checkOutput disk output
  let source ← checkSource parsed.positional
  return .compile ⟨source, parsed.value? .compiler, output, parsed.value? .encoding,
    parsed.has .json⟩

/-- Reads tokens as they stand. -/
def readPlain (disk : Disk) (args : List String) : Except Fault Reading := do
  let parsed ← Options.parse specs true args
  check disk parsed

/-- Reads the command line of the compile command. -/
def read (disk : Disk) (args : List String) : Except Fault Reading := readPlain disk (prepared args)

end FactIntake.Arguments
