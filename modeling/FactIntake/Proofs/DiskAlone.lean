import FactIntake.Command.Compile

/-!
What follows once there is a model. Writing it and showing it go by the disk alone: in another world
with the same disk the same comes of them, and of that world only the disk changes.
-/

namespace FactIntake

/-- The run in another world, which it leaves with the disk that it made. -/
def Run.elsewhere (run : Run) (other : World) : Run :=
  { run with world := { other with disk := run.world.disk } }

variable {world other : World}

theorem World.stop_elsewhere (hdisk : other.disk = world.disk) (result : Except Fault Unit) :
    other.stop result = (world.stop result).elsewhere other := by
  simp only [stop, Run.elsewhere, ← hdisk]

theorem World.printLine_elsewhere (hdisk : other.disk = world.disk) (line : Console.Printed) :
    other.printLine line = (world.printLine line).elsewhere other := by
  unfold printLine
  cases line.text <;> simp only [print, stop, Run.elsewhere, ← hdisk]

/-- Steps that go by the disk alone do so one after the other. -/
theorem Run.bind_elsewhere {next : World → Run} (run : Run) (other : World)
    (hnext : ∀ world other : World, other.disk = world.disk → next other = (next world).elsewhere other) :
    (run.elsewhere other).bind next = (run.bind next).elsewhere other := by
  unfold bind
  cases hresult : run.result with
  | error fault => simp only [elsewhere, hresult]
  | ok done =>
    have hlater := hnext run.world { other with disk := run.world.disk } rfl
    simp only [elsewhere, hresult] at hlater ⊢
    rw [hlater]

namespace Compile

theorem writeModel_elsewhere (hdisk : other.disk = world.disk) (path : String) (model : Model) :
    writeModel other path model = (writeModel world path model).elsewhere other := by
  unfold writeModel
  simp only [hdisk]
  split
  · rfl
  · rfl
  · split
    · rfl
    · split <;> rfl

theorem writeOutput_elsewhere (hdisk : other.disk = world.disk) (output : Option String) (model : Model) :
    writeOutput other output model = (writeOutput world output model).elsewhere other := by
  cases output with
  | none => exact World.stop_elsewhere hdisk _
  | some path => exact writeModel_elsewhere hdisk path model

theorem announce_elsewhere (hdisk : other.disk = world.disk) (request : Arguments.Compile) :
    announce other request = (announce world request).elsewhere other := by
  unfold announce
  rw [World.printLine_elsewhere hdisk]
  apply Run.bind_elsewhere
  intro world other hdisk
  cases request.output with
  | none => exact World.stop_elsewhere hdisk _
  | some path => exact World.printLine_elsewhere hdisk _

theorem finish_elsewhere (hdisk : other.disk = world.disk) (request : Arguments.Compile) (model : Model) :
    finish other request model = (finish world request model).elsewhere other := by
  unfold finish
  rw [writeOutput_elsewhere hdisk]
  apply Run.bind_elsewhere
  intro world other hdisk
  split
  · exact World.printLine_elsewhere hdisk _
  · exact announce_elsewhere hdisk request

/-- A change of anything but the disk may as well come afterwards. -/
theorem finish_changed (change : World → World)
    (hchange : ∀ (world : World) (disk : Disk),
      change { world with disk := disk } = { change world with disk := disk })
    (world : World) (request : Arguments.Compile) (model : Model) :
    finish (change world) request model =
      { finish world request model with world := change (finish world request model).world } := by
  have hdisk : (change world).disk = world.disk := by
    rw [show change world = { change world with disk := world.disk } from hchange world world.disk]
  have hhere : finish world request model = (finish world request model).elsewhere world :=
    finish_elsewhere rfl request model
  have hlater : change (finish world request model).world =
      { change world with disk := (finish world request model).world.disk } :=
    (congrArg change (congrArg Run.world hhere)).trans (hchange world _)
  rw [finish_elsewhere hdisk, Run.elsewhere, hlater]

end Compile

end FactIntake
