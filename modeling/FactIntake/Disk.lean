import FactIntake.Encoding.Utf8
import FactIntake.Entries
import FactIntake.Text.Blank

/-!
A file tree and the way a path leads through it. Names are followed one by one; a link leads on to
its target, and a path that meets more than forty links leads nowhere.
-/

namespace FactIntake

/-- The names from the root of the tree down to a node. -/
abbrev Location := List String

inductive Node
  | directory
  | file (content : Encoding.Bytes)
  | link (target : String)
deriving DecidableEq, Repr

structure Disk where
  /-- Where paths start that do not start at the root. -/
  home : Location
  nodes : List (Location × Node)
deriving DecidableEq, Repr

/-- Why a path cannot be used. -/
inductive DiskFault
  | missing | occupied | notDirectory | isDirectory | nameTooLong | linkLoop
deriving DecidableEq, Repr

namespace DiskFault

def number : DiskFault → Int
  | missing => 2
  | occupied => 17
  | notDirectory => 20
  | isDirectory => 21
  | nameTooLong => 36
  | linkLoop => 40

def text : DiskFault → String
  | missing => "No such file or directory"
  | occupied => "File exists"
  | notDirectory => "Not a directory"
  | isDirectory => "Is a directory"
  | nameTooLong => "File name too long"
  | linkLoop => "Too many levels of symbolic links"

end DiskFault

namespace Disk

def node? (disk : Disk) (location : Location) : Option Node :=
  match disk.nodes.lookup location with
  | some node => some node
  | none => if location.isEmpty then some .directory else none

def put (disk : Disk) (location : Location) (node : Node) : Disk :=
  { disk with nodes := Entries.put disk.nodes location node }

theorem node?_put_self (disk : Disk) (location : Location) (node : Node) :
    (disk.put location node).node? location = some node := by
  simp [node?, put, Entries.lookup_put_self]

theorem node?_put_of_ne (disk : Disk) {location other : Location} (node : Node)
    (hne : other ≠ location) : (disk.put location node).node? other = disk.node? other := by
  simp [node?, put, Entries.lookup_put_of_ne _ _ hne]

/-- Removes a node and everything below it. -/
def erase (disk : Disk) (location : Location) : Disk :=
  { disk with nodes := disk.nodes.filter fun entry => !location.isPrefixOf entry.1 }

/-- Makes the missing directories above a location. -/
def makeAbove (disk : Disk) (location : Location) : Disk :=
  (List.range location.length).foldl (fun disk n =>
    if (disk.node? (location.take n)).isSome then disk
    else disk.put (location.take n) .directory) disk

/-- Puts a node on the disk together with the directories above it. -/
def install (disk : Disk) (location : Location) (node : Node) : Disk :=
  (disk.makeAbove location).put location node

/-- A disk with nothing on it but its home. -/
def empty (home : Location) : Disk := install ⟨home, []⟩ home .directory

def isAbsolute (path : String) : Bool := path.toList.head? == some '/'

/-- The names in a path. A slash at the end asks for a directory, as a last step in place does. -/
def steps (path : String) : List String :=
  let pieces := Text.pieces '/' path
  let names := pieces.filter (!·.isEmpty)
  if pieces.getLast? == some "" then names ++ ["."] else names

def linkLimit : Nat := 40
def nameLimit : Nat := 255
def pathLimit : Nat := 4095

/-- Where a path leads: to a node, or to a free name in a directory. -/
inductive Found
  | node (location : Location)
  | vacant (directory : Location) (name : String)
deriving DecidableEq, Repr

def start (disk : Disk) (path : String) : Location :=
  if isAbsolute path then [] else disk.home

/-- Takes the steps from `here` on; `links` more links may be followed. A link in the last step is
followed only if `through`. -/
def walk (disk : Disk) (through : Bool) (links : Nat) (here : Location) :
    List String → Except DiskFault Found
  | [] => .ok (.node here)
  | name :: names =>
    match disk.node? here with
    | some .directory =>
      if name == "." then walk disk through links here names
      else if name == ".." then walk disk through links here.dropLast names
      else if name.utf8ByteSize > nameLimit then .error .nameTooLong
      else
        let there := here ++ [name]
        match disk.node? there with
        | none => if names.isEmpty then .ok (.vacant here name) else .error .missing
        | some (.link target) =>
          if names.isEmpty && !through then .ok (.node there)
          else match links with
            | 0 => .error .linkLoop
            | links + 1 =>
              walk disk through links (if isAbsolute target then [] else here)
                (steps target ++ names)
        | some _ => walk disk through links there names
    | _ => .error .notDirectory
termination_by names => (links, names.length)

/-- Where a path leads from the home of the tree. -/
def find (disk : Disk) (through : Bool) (path : String) : Except DiskFault Found :=
  if path.isEmpty then .error .missing
  else if path.utf8ByteSize > pathLimit then .error .nameTooLong
  else walk disk through linkLimit (disk.start path) (steps path)

/-- The content of the file at a path. -/
def read (disk : Disk) (path : String) : Except DiskFault Encoding.Bytes := do
  match ← disk.find true path with
  | .vacant .. => .error .missing
  | .node location => match disk.node? location with
    | some (.file content) => .ok content
    | some .directory => .error .isDirectory
    | _ => .error .missing

def isDirectory (disk : Disk) (path : String) : Bool :=
  match disk.find true path with
  | .ok (.node location) => disk.node? location == some .directory
  | _ => false

/-- Writes a file, in place of the content it has or as a new one. -/
def write (disk : Disk) (path : String) (content : Encoding.Bytes) : Except DiskFault Disk := do
  match ← disk.find true path with
  | .vacant directory name => .ok (disk.put (directory ++ [name]) (.file content))
  | .node location => match disk.node? location with
    | some (.file _) => .ok (disk.put location (.file content))
    | _ => .error .isDirectory

/-- The nodes of a disk that are not the same on the disk before. -/
def changesSince (disk before : Disk) : List (Location × Node) :=
  disk.nodes.filter fun entry => before.node? entry.1 != some entry.2

end Disk

end FactIntake
