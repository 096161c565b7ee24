import FactIntake.Event
import FactIntake.Fault

/-!
What running something gives. An outcome is a value or a fault, and the events logged on the way; a
report also holds the calls made to compilers and the changes made to loaded modules. What follows a
fault is left out, what came before it stays.
-/

namespace FactIntake

/-- A fault about to be raised, with the events logged while it was built. -/
structure Raised where
  fault : Fault
  events : List Event

structure Outcome (α : Type) where
  result : Except Fault α
  events : List Event

/-- A compiler is built for a label, and compiles a text. -/
inductive Call
  | build (label : String)
  | compile (label text : String)
deriving DecidableEq, Repr

/-- What is left of an attribute that is changed. -/
inductive Remnant
  | missing
  | nothing
  | text (value : String)
deriving DecidableEq, Repr

/-- An attribute of a loaded module is removed or gets another value. -/
structure Change where
  moduleName : String
  attr : String
  remnant : Remnant
deriving DecidableEq, Repr

structure Report (α : Type) where
  result : Except Fault α
  calls : List Call
  events : List Event
  changes : List Change

def Raised.outcome (raised : Raised) : Outcome α := ⟨.error raised.fault, raised.events⟩

namespace Outcome

def succeed (value : α) : Outcome α := ⟨.ok value, []⟩
def fail (fault : Fault) : Outcome α := ⟨.error fault, []⟩

def bind (outcome : Outcome α) (next : α → Outcome β) : Outcome β :=
  match outcome.result with
  | .error fault => ⟨.error fault, outcome.events⟩
  | .ok value =>
    let later := next value
    ⟨later.result, outcome.events ++ later.events⟩

instance : Monad Outcome where
  pure := succeed
  bind := bind

def log (event : Event) : Outcome Unit := ⟨.ok (), [event]⟩

theorem bind_of_ok {outcome : Outcome α} {value : α} (h : outcome.result = .ok value)
    (next : α → Outcome β) :
    outcome.bind next = ⟨(next value).result, outcome.events ++ (next value).events⟩ := by
  simp [bind, h]

theorem bind_of_error {outcome : Outcome α} {fault : Fault} (h : outcome.result = .error fault)
    (next : α → Outcome β) : outcome.bind next = ⟨.error fault, outcome.events⟩ := by
  simp [bind, h]

end Outcome

namespace Report

def succeed (value : α) : Report α := ⟨.ok value, [], [], []⟩
def fail (fault : Fault) : Report α := ⟨.error fault, [], [], []⟩

def bind (report : Report α) (next : α → Report β) : Report β :=
  match report.result with
  | .error fault => ⟨.error fault, report.calls, report.events, report.changes⟩
  | .ok value =>
    let later := next value
    ⟨later.result, report.calls ++ later.calls, report.events ++ later.events,
      report.changes ++ later.changes⟩

instance : Monad Report where
  pure := succeed
  bind := bind

def log (event : Event) : Report Unit := ⟨.ok (), [], [event], []⟩

def change (change : Change) : Report Unit := ⟨.ok (), [], [], [change]⟩

/-- Makes a call, whatever comes of it. -/
def call (call : Call) (outcome : Outcome α) : Report α :=
  ⟨outcome.result, [call], outcome.events, []⟩

def ofOutcome (outcome : Outcome α) : Report α := ⟨outcome.result, [], outcome.events, []⟩

def ofExcept (result : Except Fault α) : Report α := ⟨result, [], [], []⟩

/-- Puts a report after events that were logged before it. -/
def after (events : List Event) (report : Report α) : Report α :=
  { report with events := events ++ report.events }

@[simp] theorem after_result (events : List Event) (report : Report α) :
    (after events report).result = report.result := rfl

@[simp] theorem after_calls (events : List Event) (report : Report α) :
    (after events report).calls = report.calls := rfl

@[simp] theorem after_changes (events : List Event) (report : Report α) :
    (after events report).changes = report.changes := rfl

@[simp] theorem after_events (events : List Event) (report : Report α) :
    (after events report).events = events ++ report.events := rfl

theorem bind_eq (report : Report α) (next : α → Report β) : report >>= next = report.bind next :=
  rfl

theorem succeed_bind (value : α) (next : α → Report β) : (succeed value).bind next = next value := by
  simp [bind, succeed]

theorem ofExcept_ok_bind (value : α) (next : α → Report β) :
    (ofExcept (.ok value)).bind next = next value := succeed_bind value next

theorem ofExcept_error_bind (fault : Fault) (next : α → Report β) :
    (ofExcept (.error fault)).bind next = fail fault := rfl

theorem bind_of_ok {report : Report α} {value : α} (h : report.result = .ok value)
    (next : α → Report β) :
    report.bind next = ⟨(next value).result, report.calls ++ (next value).calls,
      report.events ++ (next value).events, report.changes ++ (next value).changes⟩ := by
  simp [bind, h]

theorem bind_of_error {report : Report α} {fault : Fault} (h : report.result = .error fault)
    (next : α → Report β) :
    report.bind next = ⟨.error fault, report.calls, report.events, report.changes⟩ := by
  simp [bind, h]

end Report

end FactIntake
