import FactIntake.Command.Group
import FactIntake.Import

/-!
Commands that are imported when they are first asked for. A command that is there already wins over
one that is to be imported.
-/

namespace FactIntake

structure CommandTable where
  present : List String
  /-- Names with the module and the attribute that hold the command. -/
  pending : List (String × String)

namespace CommandTable

inductive Entry
  | present (name : String)
  | loaded (value : Import.Value)

def ofGroup : CommandTable := ⟨Group.subcommands.map (·.1), []⟩

/-- All names, each once, in the order of their characters. -/
def names (table : CommandTable) : List String :=
  (table.present ++ table.pending.map (·.1)).eraseDups.mergeSort fun a b => !(b < a)

def noAttributePart : Fault :=
  Fault.valueFault "not enough values to unpack (expected 2, got 1)"

/-- The command behind a path of a module and an attribute. -/
def loadPath (registry : Registry) (path : String) (imports : Imports) :
    Report Import.Value × Imports :=
  match Reference.splitLast? '.' path.toList with
  | none => (.fail noAttributePart, imports)
  | some (moduleChars, attrChars) =>
    let moduleName := String.ofList moduleChars
    let attr := String.ofList attrChars
    let (imported, imports) := Import.load registry moduleName imports
    (imported.bind fun _ => Import.attributeOf registry imports (.module moduleName) attr,
      imports)

/-- The command of a name, if there is one. -/
def get (table : CommandTable) (registry : Registry) (name : String) (imports : Imports) :
    Report (Option Entry) × Imports :=
  if table.present.contains name then (.succeed (some (.present name)), imports)
  else match table.pending.lookup name with
    | none => (.succeed none, imports)
    | some path =>
      let (loaded, imports) := loadPath registry path imports
      (loaded.bind fun value => .succeed (some (.loaded value)), imports)

end CommandTable

end FactIntake
