import FactIntake.Console.Line
import FactIntake.Journal
import FactIntake.Loader

/-!
What a command meets and may change, and what comes of running it.
-/

namespace FactIntake

structure World where
  registry : Registry
  imports : Imports
  disk : Disk
  environment : Environment
  stdin : Stream
  journal : Journal

/-- A command that has run: how it ended, what it printed, and the world it leaves. -/
structure Run where
  result : Except Fault Unit
  output : String
  calls : List Call
  records : List Record
  world : World

namespace World

/-- Ends at once, with nothing printed and nothing changed. -/
def stop (world : World) (result : Except Fault Unit) : Run := ⟨result, "", [], [], world⟩

def print (world : World) (text : String) : Run := ⟨.ok (), text, [], [], world⟩

/-- Prints a line if there is one, and its warnings. -/
def printLine (world : World) (line : Console.Printed) : Run :=
  let run := match line.text with
    | .ok text => world.print text
    | .error fault => world.stop (.error fault)
  { run with records := line.warnings.map .line }

/-- Takes events into the journal. -/
def logged (world : World) (events : List Event) : List Record × World :=
  let (records, journal) := world.journal.recordAll events
  (records, { world with journal := journal })

end World

namespace Run

/-- Goes on in the world that a run leaves, unless it ended in a fault. -/
def bind (run : Run) (next : World → Run) : Run :=
  match run.result with
  | .error _ => run
  | .ok () =>
    let later := next run.world
    ⟨later.result, run.output ++ later.output, run.calls ++ later.calls,
      run.records ++ later.records, later.world⟩

/-- Puts a run after calls and records that came before it. -/
def after (calls : List Call) (records : List Record) (run : Run) : Run :=
  { run with calls := calls ++ run.calls, records := records ++ run.records }

end Run

end FactIntake
