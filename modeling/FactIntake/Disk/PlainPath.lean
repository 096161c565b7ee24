import FactIntake.Disk

/-!
Plain paths: no empty names and none that stay in place, so that a path has a parent. Two slashes at
the start are kept, more are one. What is put at a path is put there together with the missing
directories above it.
-/

namespace FactIntake

structure PlainPath where
  root : String
  names : List String
deriving DecidableEq, Repr

namespace PlainPath

def rootOf (path : List Char) : String :=
  match path.takeWhile (· == '/') with
  | [] => ""
  | [_, _] => "//"
  | _ => "/"

def ofString (path : String) : PlainPath :=
  ⟨rootOf path.toList, (Text.pieces '/' path).filter fun name => !name.isEmpty && name != "."⟩

/-- The path as text; a path without names is the place where it starts. -/
def display (path : PlainPath) : String :=
  if path.root.isEmpty && path.names.isEmpty then "."
  else path.root ++ "/".intercalate path.names

def parent (path : PlainPath) : PlainPath := ⟨path.root, path.names.dropLast⟩

/-- Why a directory cannot be made. -/
inductive Hindrance
  | fault (fault : DiskFault)
  /-- Too many directories above it are missing. -/
  | tooDeep
deriving DecidableEq, Repr

/-- An attempt that may leave the disk changed even if it fails. -/
structure Attempt where
  result : Except Hindrance Unit
  disk : Disk

/-- The most directories that are made at one go. -/
def depthLimit : Nat := 985

/-- The directory that a name in a directory leads to, if it leads to one. -/
def enter (disk : Disk) (here : Location) (name : String) : Except DiskFault Location :=
  match disk.walk true Disk.linkLimit here [name] with
  | .ok (.node there) =>
    if disk.node? there == some .directory then .ok there else .error .occupied
  | .ok (.vacant ..) => .error .occupied
  | .error fault => .error fault

/-- Goes along the names from a directory and makes the directories that are missing. What is made
stays even if the way ends later. -/
def makeAlong (disk : Disk) (here : Location) : List String → Attempt
  | [] => ⟨.ok (), disk⟩
  | name :: names =>
    if name == ".." then makeAlong disk here.dropLast names
    else if name.utf8ByteSize > Disk.nameLimit then ⟨.error (.fault .nameTooLong), disk⟩
    else
      let there := here ++ [name]
      match disk.node? there with
      | none =>
        if names.length ≥ depthLimit then ⟨.error .tooDeep, disk⟩
        else makeAlong (disk.put there .directory) there names
      | some _ =>
        match enter disk here name with
        | .error fault => ⟨.error (.fault fault), disk⟩
        | .ok there => makeAlong disk there names

/-- Makes the directory at a path and the directories above it, as far as they are missing. -/
def make (disk : Disk) (path : PlainPath) : Attempt :=
  if path.display.utf8ByteSize > Disk.pathLimit then ⟨.error (.fault .nameTooLong), disk⟩
  else makeAlong disk (disk.start path.root) path.names

/-- The location that a path leads to, taken or free. A link in the last step is followed only if
`through`. -/
def location? (disk : Disk) (through : Bool) (path : PlainPath) : Option Location :=
  match disk.find through path.display with
  | .ok (.node location) => some location
  | .ok (.vacant directory name) => some (directory ++ [name])
  | .error _ => none

/-- Puts a node at a path, the missing directories above it made first. A file goes where a link
leads. -/
def install (disk : Disk) (path : PlainPath) (node : Node) : Disk :=
  let disk := (make disk path.parent).disk
  let through := match node with
    | .file _ => true
    | _ => false
  match location? disk through path with
  | some location => disk.put location node
  | none => disk

/-- Removes what is at a path, and everything below it. A link is removed itself. -/
def remove (disk : Disk) (path : PlainPath) : Disk :=
  match location? disk false path with
  | some location => disk.erase location
  | none => disk

end PlainPath

end FactIntake
