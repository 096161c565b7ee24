import FactIntake.Proofs.EntryPoints
import FactIntake.Proofs.InputIsolation

/-!
Reading a file again. A loader keeps nothing from one call to the next, so that a file which nobody writes
reads as it did before: whatever the session read, asked for, imported, configured or failed to build in
between, the same calls are made and the same answer is given. Compilers that go by more than the label and
the text are left out.
-/

namespace FactIntake

namespace Loader

/-- The compilers go by the label and the text alone, and not by what is imported at the time. -/
def Prepared.Steady (prepared : Prepared) : Prop :=
  ∀ imports other label text,
    (prepared.factory imports).run label text = (prepared.factory other).run label text

theorem steady_given (factory : Factory) (settings : Settings) :
    Prepared.Steady ⟨fun _ => factory, settings⟩ := by
  intro imports other label text
  rfl

/-- Of its factory a loader only uses what comes of a label and a text. -/
theorem compileFile_congr [Codecs] {factory other : Factory} (settings : Settings)
    (h : ∀ label text, factory.run label text = other.run label text) (disk : Disk) (stdin : Stream)
    (path : String) :
    compileFile ⟨factory, settings⟩ disk stdin path =
      compileFile ⟨other, settings⟩ disk stdin path := by
  have htext : ∀ text label, compileText ⟨factory, settings⟩ text label =
      compileText ⟨other, settings⟩ text label := by
    intro text label
    simp only [compileText, h]
  simp only [compileFile, compileSource, compileStream, htext]
  rfl

end Loader

namespace Session

open Loader

variable {session : Session}

/-- The files and the loader are what they were. -/
structure Stands (before after : Session) : Prop where
  disk : after.disk = before.disk
  loader : after.loader = before.loader

theorem Stands.trans {first second third : Session} (h : Stands first second)
    (hlater : Stands second third) : Stands first third :=
  ⟨hlater.disk.trans h.disk, hlater.loader.trans h.loader⟩

/-- No loader is installed that could not be built. -/
theorem stands_install {built : Report Prepared} {imports : Imports} {fault : Fault}
    (h : (session.install built imports).1.result = .error fault) :
    Stands session (session.install built imports).2 := by
  unfold install at h ⊢
  cases hbuilt : built.result with
  | error why =>
    simp only
    exact ⟨rfl, rfl⟩
  | ok prepared =>
    simp only [hbuilt, Report.bind_of_ok hbuilt] at h
    simp [Report.succeed] at h

section

variable [Codecs]

/-- An action that neither writes or removes files nor comes to a new loader. The store of all fields of
the settings is no field of theirs, and is not assigned to. -/
def Spares (session : Session) (action : Action) : Prop :=
  match action with
  | .place .. | .remove _ => False
  | .create .. | .createDefault => ∃ fault, (session.step action).1.result = .error fault
  | .assign field _ => field ≠ "__dict__"
  | _ => True

/-- Each of several actions, taken one after the other, spares the files and the loader. -/
inductive Idle : Session → List Action → Prop
  | nil {session : Session} : Idle session []
  | cons {session : Session} {action : Action} {actions : List Action} (haction : session.Spares action)
      (hlater : Idle (session.step action).2.2 actions) : Idle session (action :: actions)

theorem stands_create {factory : Option Factory} {given : Option Given} {fault : Fault}
    (h : (session.create factory given).1.result = .error fault) :
    Stands session (session.create factory given).2 := by
  unfold create at h ⊢
  simp only at h ⊢
  split
  · exact ⟨rfl, rfl⟩
  · rename_i hsettings
    rw [hsettings] at h
    exact stands_install h

theorem stands_perform {action : Action} (h : session.Spares action) :
    Stands session (session.perform action).2 := by
  have hentry : ∀ {entry}, action.entry? = some entry → Stands session (session.perform action).2 := by
    intro entry hentry
    obtain ⟨imports, stdin, streams, hperform⟩ := perform_entry_session session hentry
    rw [hperform]
    exact ⟨rfl, rfl⟩
  cases action with
  | compileFile receiver path => exact hentry rfl
  | compileStream receiver source label => exact hentry rfl
  | compileText receiver text label => exact hentry rfl
  | load request => exact hentry rfl
  | create factory given =>
    obtain ⟨fault, hfault⟩ := h
    exact stands_create hfault
  | createDefault =>
    obtain ⟨fault, hfault⟩ := h
    simp only [perform]
    exact stands_install hfault
  | place path node => exact h.elim
  | remove path => exact h.elim
  | settings | assign field value | configureLogging options =>
    simp only [perform]
    split <;> exact ⟨rfl, rfl⟩
  | resolve reference =>
    simp only [perform]
    exact ⟨rfl, rfl⟩
  | define | peek | peekStdin | replaceStdin | setVariable | draft => exact ⟨rfl, rfl⟩

theorem stands_step {action : Action} (h : session.Spares action) :
    Stands session (session.step action).2.2 := by
  have hperform := stands_perform h
  exact ⟨hperform.disk, hperform.loader⟩

theorem Idle.stands {actions : List Action} (h : Idle session actions) :
    Stands session (session.run actions).2 := by
  induction h with
  | nil => exact ⟨rfl, rfl⟩
  | cons haction hlater ih => exact (stands_step haction).trans ih

theorem step_compileFile {prepared : Prepared} (h : session.loader = some prepared) (path : String) :
    (session.step (.compileFile .current path)).1 =
      ((prepared.loader session.imports).compileFile session.disk session.stdin path).1.bind
        (.succeed <| .model ·) := by
  simp only [step, perform, onLoader_current h]
  rfl

/-- What a session answers to reading a file comes from the files and the loader alone. -/
theorem reading_congr {other : Session} {prepared : Prepared} {path : String}
    (hloader : session.loader = some prepared) (hsteady : prepared.Steady)
    (hfile : Sentinel.isStdin path prepared.settings.extensions = false) (h : Stands session other) :
    (other.step (.compileFile .current path)).1 = (session.step (.compileFile .current path)).1 := by
  have hotherLoader : other.loader = some prepared := h.loader.trans hloader
  have hcompile : ((prepared.loader other.imports).compileFile other.disk other.stdin path).1 =
      ((prepared.loader session.imports).compileFile session.disk session.stdin path).1 := by
    rw [h.disk]
    calc ((prepared.loader other.imports).compileFile session.disk other.stdin path).1
      _ = ((prepared.loader session.imports).compileFile session.disk other.stdin path).1 :=
        congrArg Prod.fst (compileFile_congr prepared.settings
          (hsteady other.imports session.imports) session.disk other.stdin path)
      _ = ((prepared.loader session.imports).compileFile session.disk session.stdin path).1 :=
        (compileFile_of_file hfile session.disk other.stdin session.stdin).1
  rw [step_compileFile hotherLoader, step_compileFile hloader, hcompile]

/-- A file that is read, and read again after other actions which spare the files and the loader, makes
for the same calls and the same answer, down to each event. -/
theorem reading_repeats {prepared : Prepared} {path : String} {between : List Action}
    (hloader : session.loader = some prepared) (hsteady : prepared.Steady)
    (hfile : Sentinel.isStdin path prepared.settings.extensions = false)
    (hbetween : Idle (session.step (.compileFile .current path)).2.2 between) :
    (((session.step (.compileFile .current path)).2.2.run between).2.step
        (.compileFile .current path)).1 = (session.step (.compileFile .current path)).1 ∧
      ((session.step (.compileFile .current path)).2.2.run between).2.loader = session.loader := by
  have hfirst : Stands session (session.step (.compileFile .current path)).2.2 := stands_step trivial
  have hstands := hfirst.trans hbetween.stands
  exact ⟨reading_congr hloader hsteady hfile hstands, hstands.loader⟩

end

/-- A session with a loader that echoes, and a file to read. -/
def echoSession : Session :=
  { registry := fun _ => none, imports := .empty, disk := single [0x61], environment := ⟨none, none⟩,
    stdin := .holding (.text "A"), streams := [],
    loader := some ⟨fun _ => Samples.echo, .default⟩, journal := .fresh }

/-- What goes on beside a file that is read twice: a loader that cannot be built, another encoding in
the environment, other standard input, a field that cannot be assigned, and more that is read and asked
for. -/
def distractions : List Action := [
  .create none none, .setVariable "FACTS_SOURCE_ENCODING" (some "utf-16"),
  .replaceStdin (.holding (.text "B")), .assign "encoding" (.text "ascii"),
  .compileFile .configured "m.cql", .compileFile .current "-.cql", .resolve "m:C",
  .configureLogging ⟨"DEBUG", ⟨false, false⟩⟩]

theorem echo_repeats :
    ((echoSession.step (.compileFile .current "m.cql")).2.2.run distractions).2.loader =
        echoSession.loader ∧
    (((echoSession.step (.compileFile .current "m.cql")).2.2.run distractions).2.step
        (.compileFile .current "m.cql")).1.calls = [.build "m.cql", .compile "m.cql" "a"] := by
  have hecho : echoSession.loader = some ⟨fun _ => Samples.echo, .default⟩ := rfl
  have hfile : Sentinel.isStdin "m.cql" Settings.default.extensions = false := by rfl
  have hidle : Idle (echoSession.step (.compileFile .current "m.cql")).2.2 distractions := by
    refine .cons ⟨Loader.create.noCompiler, rfl⟩ (.cons trivial (.cons trivial (.cons ?_ ?_)))
    · show "encoding" ≠ "__dict__"
      decide
    · exact .cons trivial (.cons trivial (.cons trivial (.cons trivial .nil)))
  obtain ⟨hreport, hloader⟩ :=
    reading_repeats hecho (steady_given Samples.echo .default) hfile hidle
  have hreduces : Reduces (echoing "utf-8") (single [0x61]) (.holding (.text "A")) "m.cql"
      (Text.newlined "a") "m.cql" :=
    reduces_of_file hfile (fileBytes_single _) (by rfl) (by rfl)
  have hcompiled : ((echoing "utf-8").compileText (Text.newlined "a") "m.cql").result =
      .ok (Samples.record [("label", .text "m.cql"), ("text", .text "a")]) := by rfl
  have hmodel := hreduces.model _ hcompiled
  refine ⟨hloader, ?_⟩
  rw [hreport, step_compileFile hecho]
  refine (congrArg Report.calls (Report.bind_of_ok hmodel _)).trans ?_
  simp only [hreduces.calls]
  rfl

end Session

end FactIntake
