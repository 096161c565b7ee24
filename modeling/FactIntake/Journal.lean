import FactIntake.Event
import FactIntake.Json.Writer

/-!
Where logged events go. Before logging is configured they are collected as they are. Afterwards an
event at or above the level of the latest configuration is written as one line, in the format that
was in force when its component logged for the first time after the first configuration.
-/

namespace FactIntake

structure LineFormat where
  json : Bool
  timestamps : Bool
deriving DecidableEq, Repr

structure LogOptions where
  level : String := "INFO"
  format : LineFormat := ⟨true, true⟩
deriving DecidableEq, Repr

/-- The configuration in force, and the format that each component keeps. -/
structure Journal where
  current : Option (Level × LineFormat)
  kept : List (Component × LineFormat)
deriving DecidableEq, Repr

/-- What comes of an event: it is collected, or written as a line. -/
inductive Record
  | collected (event : Event)
  | line (text : String)

namespace LineFormat

def timestamp : String := "<time>"

def common (event : Event) (format : LineFormat) : List (String × Json) :=
  [("event", .text event.name)] ++
    (if format.timestamps then [("timestamp", .text timestamp)] else []) ++
    [("level", .text event.level.name), ("logger", .text event.component.name)]

def padTo (width : Nat) (s : String) : String :=
  s ++ String.ofList (List.replicate (width - s.length) ' ')

/-- Texts with blanks, an equals sign or quotes stand in quotes. -/
def needsQuotes (s : String) : Bool :=
  s.toList.any fun c => [' ', '\t', '=', '\r', '\n', '"', '\''].contains c

def fieldText : Json → String
  | .text s => if needsQuotes s then Text.quoted s else s
  | value => String.ofList (Json.inlineChars value)

def sortedFields (fields : List (String × Json)) : List (String × Json) :=
  fields.mergeSort fun a b => a.1 ≤ b.1

def write (format : LineFormat) (event : Event) : String :=
  if format.json then Json.writeInline (event.fields ++ common event format)
  else
    (if format.timestamps then timestamp ++ " " else "") ++
      "[" ++ padTo 9 event.level.name ++ "] " ++ padTo 30 event.name ++
      " [" ++ event.component.name ++ "]" ++
      String.join ((sortedFields event.fields).map fun field =>
        " " ++ field.1 ++ "=" ++ fieldText field.2)

end LineFormat

namespace Journal

def fresh : Journal := ⟨none, []⟩

def capital (c : Char) : Char :=
  if 'a' ≤ c && c ≤ 'z' then Char.ofNat (c.toNat - 32)
  else if c.toNat == 0x131 then 'I'
  else if c.toNat == 0x17F then 'S'
  else c

def levelNames : List (String × Level) := [
  ("CRITICAL", .critical), ("FATAL", .critical), ("ERROR", .error), ("WARN", .warning),
  ("WARNING", .warning), ("INFO", .info), ("DEBUG", .debug), ("NOTSET", .unset)]

/-- The level of a name, in capital or small letters. -/
def level? (name : String) : Option Level :=
  levelNames.lookup (String.ofList (name.toList.map capital))

/-- A new configuration; a level that is not known changes nothing. -/
def configure (journal : Journal) (options : LogOptions) : Option (Level × Journal) :=
  (level? options.level).map fun level =>
    (level, { journal with current := some (level, options.format) })

/-- The format that a component keeps from its first event on. -/
def formatFor (journal : Journal) (component : Component) (format : LineFormat) : LineFormat :=
  (journal.kept.lookup component).getD format

def keep (journal : Journal) (component : Component) (format : LineFormat) : Journal :=
  match journal.kept.lookup component with
  | some _ => journal
  | none => { journal with kept := journal.kept ++ [(component, format)] }

/-- Takes in one event. -/
def record (journal : Journal) (event : Event) : Option Record × Journal :=
  match journal.current with
  | none => (some (.collected event), journal)
  | some (level, format) =>
    let used := journal.formatFor event.component format
    let written := if level.rank ≤ event.level.rank then some (.line (used.write event)) else none
    (written, journal.keep event.component used)

/-- Takes in events in order. -/
def recordAll (journal : Journal) : List Event → List Record × Journal
  | [] => ([], journal)
  | event :: events =>
    let (record, journal) := journal.record event
    let (records, journal) := recordAll journal events
    (record.toList ++ records, journal)

end Journal

end FactIntake
