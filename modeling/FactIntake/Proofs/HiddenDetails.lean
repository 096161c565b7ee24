import FactIntake.Proofs.DiskAlone
import FactIntake.Proofs.OutputFile
import FactIntake.Proofs.SilentLoaders

/-!
Details that the user does not see. A fault is the same whatever details it is built with. Where modules
differ in nothing but what their compilers log and what they say of why they cannot be imported, a command
line comes to the same end: the same is called, printed and written, the same message is shown, and the exit
code is the same. What differs is logged.
-/

namespace FactIntake

open Fault

namespace Draft

/-- What a fault is built from, without the details, also inside of failures. -/
def withoutDetails : Draft → Draft
  | facts message _ => facts message none
  | unreadable message path _ => unreadable message path none
  | rejected message label line column trail _ => rejected message label line column trail none
  | misconfigured message setting _ => misconfigured message setting none
  | failed path inside => failed path inside.withoutDetails
  | draft => draft

theorem build_withoutDetails (draft : Draft) :
    draft.withoutDetails.build = ⟨draft.build.result, []⟩ := by
  induction draft with
  | failed path inside ih =>
    simp only [withoutDetails, build, ih]
    cases hinside : inside.build.result with
    | ok fault => rw [Outcome.bind_of_ok hinside, Outcome.bind_of_ok rfl]; rfl
    | error fault => rw [Outcome.bind_of_error hinside, Outcome.bind_of_error rfl]
  | _ => rfl

/-- Details do not reach the fault that is raised. -/
theorem raise_withoutDetails (draft : Draft) :
    draft.withoutDetails.raise = ⟨draft.raise.fault, []⟩ := by
  simp only [raise, build_withoutDetails]
  cases draft.build.result <;> rfl

theorem raise_congr {draft other : Draft} (h : draft.withoutDetails = other.withoutDetails) :
    draft.raise.fault = other.raise.fault := by
  have hfault : ∀ draft : Draft, draft.withoutDetails.raise.fault = draft.raise.fault := by
    intro draft
    rw [raise_withoutDetails]
  rw [← hfault draft, h, hfault other]

end Draft

/-- What comes of building and compiling, without what is logged. -/
def answers (build : String → Outcome (String → Outcome Model)) (label : String) :
    Except Fault (String → Except Fault Model) :=
  (build label).result.map fun compile text => (compile text).result

theorem Factory.recorded_muted (build : String → Outcome (String → Outcome Model)) (label : String) :
    ((Factory.recorded build).build label).muted Compiler.silent =
      ⟨(answers build label).map fun compile =>
        ⟨fun text => ⟨compile text, [.compile label text], [], []⟩⟩, [.build label], [], []⟩ := by
  unfold recorded answers
  simp only [Report.bind, Report.call]
  cases (build label).result with
  | error fault => rfl
  | ok compile =>
    have hcompiler : Compiler.silent ⟨fun text => Report.call (.compile label text) (compile text)⟩ =
        ⟨fun text => ⟨(compile text).result, [.compile label text], [], []⟩⟩ := by
      simp only [Compiler.silent, Report.muted, Report.call, Except.map_id, id]
    exact congrArg (fun compiler => (⟨.ok compiler, [.build label], [], []⟩ : Report Compiler)) hcompiler

/-- Factories that answer alike are the same in silence. -/
theorem Factory.recorded_silent {build other : String → Outcome (String → Outcome Model)}
    (lenient : Bool) (h : answers build = answers other) :
    (Factory.recorded build).silent lenient = (Factory.recorded other).silent lenient := by
  unfold silent
  simp only [recorded_muted, h]

namespace Record

/-- An event that is collected, or a line that is written of one. -/
def OfEvent (record : Record) : Prop :=
  ∃ event, record = .collected event ∨ ∃ format : LineFormat, record = .line (format.write event)

/-- Records that differ in nothing but the events that come first. -/
inductive SameButEvents : List Record → List Record → Prop
  | intro {logged others : List Record} (rest : List Record) (hlogged : ∀ record ∈ logged, record.OfEvent)
      (hothers : ∀ record ∈ others, record.OfEvent) : SameButEvents (logged ++ rest) (others ++ rest)

theorem SameButEvents.refl (records : List Record) : SameButEvents records records :=
  .intro records (List.forall_mem_nil _) (List.forall_mem_nil _)

theorem SameButEvents.after {records others before former : List Record}
    (h : SameButEvents records others) (hbefore : ∀ record ∈ before, record.OfEvent)
    (hformer : ∀ record ∈ former, record.OfEvent) :
    SameButEvents (before ++ records) (former ++ others) := by
  obtain ⟨rest, hlogged, hothers⟩ := h
  rw [← List.append_assoc, ← List.append_assoc]
  apply intro
  · intro record hrecord
    exact (List.mem_append.mp hrecord).elim (hbefore record) (hlogged record)
  · intro record hrecord
    exact (List.mem_append.mp hrecord).elim (hformer record) (hothers record)

theorem SameButEvents.append {records others : List Record} (h : SameButEvents records others)
    (later : List Record) : SameButEvents (records ++ later) (others ++ later) := by
  obtain ⟨rest, hlogged, hothers⟩ := h
  rw [List.append_assoc, List.append_assoc]
  exact .intro _ hlogged hothers

end Record

theorem Journal.record_ofEvent {journal : Journal} {event : Event} {record : Record}
    (h : (journal.record event).1 = some record) : record.OfEvent := by
  unfold Journal.record at h
  split at h
  · exact ⟨event, Or.inl (Option.some.inj h).symm⟩
  · simp only [Option.ite_none_right_eq_some, Option.some.injEq] at h
    exact ⟨event, Or.inr ⟨_, h.2.symm⟩⟩

theorem Journal.recordAll_ofEvent (journal : Journal) (events : List Event) :
    ∀ record ∈ (journal.recordAll events).1, record.OfEvent := by
  induction events generalizing journal with
  | nil => simp [Journal.recordAll]
  | cons event events ih =>
    intro record hrecord
    simp only [Journal.recordAll, List.mem_append, Option.mem_toList] at hrecord
    rcases hrecord with hfirst | hlater
    · exact Journal.record_ofEvent hfirst
    · exact ih _ record hlater

/-- The world with other modules and another journal. -/
def World.within (world : World) (registry : Registry) (journal : Journal) : World :=
  { world with registry := registry, journal := journal }

/-- A run that leaves the world with other modules and another journal. -/
def Run.within (run : Run) (registry : Registry) (journal : Journal) : Run :=
  { run with world := run.world.within registry journal }

namespace Compile

/-- What follows once there is a model goes by neither the modules nor the journal. -/
theorem finish_within (world : World) (registry : Registry) (journal : Journal)
    (request : Arguments.Compile) (model : Model) :
    finish (world.within registry journal) request model =
      (finish world request model).within registry journal :=
  finish_changed (World.within · registry journal) (fun _ _ => rfl) world request model

end Compile

/-- Runs that differ at most in what they log and in what faults of importing say. -/
structure Run.Alike (run other : Run) : Prop where
  result : run.result.mapError hushed = other.result.mapError hushed
  output : run.output = other.output
  calls : run.calls = other.calls
  world : ∃ registry journal, other.world = run.world.within registry journal
  records : Record.SameButEvents run.records other.records

namespace Run

theorem alike_within (run : Run) (registry : Registry) (journal : Journal) :
    run.Alike (run.within registry journal) :=
  ⟨rfl, rfl, rfl, ⟨registry, journal, rfl⟩, .refl _⟩

theorem alike_stop (world : World) (registry : Registry) (journal : Journal) {fault why : Fault}
    (h : fault.hushed = why.hushed) :
    (world.stop (.error fault)).Alike ((world.within registry journal).stop (.error why)) :=
  ⟨congrArg Except.error h, rfl, rfl, ⟨registry, journal, rfl⟩, .refl _⟩

/-- Events that are logged first do not matter. -/
theorem Alike.after {run other : Run} (h : run.Alike other) {calls others : List Call}
    (hcalls : calls = others) (journal former : Journal) (events told : List Event) :
    (run.after calls (journal.recordAll events).1).Alike
      (other.after others (former.recordAll told).1) := by
  have hall : calls ++ run.calls = others ++ other.calls := by rw [hcalls, h.calls]
  have hrecords : Record.SameButEvents ((journal.recordAll events).1 ++ run.records)
      ((former.recordAll told).1 ++ other.records) :=
    h.records.after (journal.recordAll_ofEvent events) (former.recordAll_ofEvent told)
  exact ⟨h.result, h.output, hall, h.world, hrecords⟩

end Run

namespace Compile

variable {lenient : Bool} {registry : Registry} {request : Arguments.Compile}

theorem finish_alike (world : World) (registry : Registry) (journal : Journal)
    (request : Arguments.Compile) (model : Model) :
    (finish world request model).Alike (finish (world.within registry journal) request model) := by
  rw [finish_within]
  exact Run.alike_within _ registry journal

variable [Codecs]

/-- The command goes the same way with loaders that compile its source alike. -/
theorem compileSource_alike (world : World) (journal : Journal) {loader given : Loader}
    (h : (loader.compileFile world.disk world.stdin request.source).1.muted id =
      (given.compileFile world.disk world.stdin request.source).1.muted id)
    (hstdin : (loader.compileFile world.disk world.stdin request.source).2 =
      (given.compileFile world.disk world.stdin request.source).2) :
    (compileSource world loader request).Alike
      (compileSource (world.within registry journal) given request) := by
  have hresult : (loader.compileFile world.disk world.stdin request.source).1.result =
      (given.compileFile world.disk world.stdin request.source).1.result := by
    rw [← Report.muted_id_result, h, Report.muted_id_result]
  have hcalls := congrArg Report.calls h
  have hchanges := congrArg Report.changes h
  simp only [Report.muted] at hcalls hchanges
  simp only [compileSource, World.logged, World.within]
  rw [← hresult, ← hstdin, ← hchanges]
  cases (loader.compileFile world.disk world.stdin request.source).1.result with
  | error fault =>
    apply Run.Alike.after _ hcalls
    exact Run.alike_stop _ registry _ rfl
  | ok model =>
    apply Run.Alike.after _ hcalls
    exact finish_alike _ registry _ request model

/-- The command goes the same way with modules that are the same in silence. -/
theorem perform_alike (world : World) (journal : Journal)
    (h : world.registry.silent lenient = registry.silent lenient) (hsource : Heard lenient request.source) :
    (perform world request).Alike (perform (world.within registry journal) request) := by
  unfold perform
  simp only [World.within]
  cases settingsFor world.environment request with
  | error fault => exact Run.alike_stop world registry journal rfl
  | ok settings =>
    have hcreated := Loader.create_alike h settings world.imports
    simp only [World.logged]
    -- The same modules are loaded on both sides, so both compilers are built among the same imports.
    rw [← hcreated.imports]
    obtain ⟨fault, why, hfirst, hsecond, htold⟩ | ⟨prepared, given, hfirst, hsecond, halike⟩ :=
      hcreated.result
    · rw [hfirst, hsecond]
      apply Run.Alike.after _ hcreated.calls
      exact Run.alike_stop _ registry _ htold
    · rw [hfirst, hsecond]
      apply Run.Alike.after _ hcreated.calls
      obtain ⟨hfile, hstdin⟩ := halike.compileFile hsource
        (Loader.create world.registry none settings world.imports).2 world.disk world.stdin
      exact compileSource_alike _ _ hfile hstdin

theorem run_alike {world : World} {journal : Journal} {args : List String}
    (h : world.registry.silent lenient = registry.silent lenient)
    (hsource : ∀ request, Arguments.read world.disk args = .ok (.compile request) →
      Heard lenient request.source) :
    (run world args).Alike (run (world.within registry journal) args) := by
  unfold run
  simp only [World.within]
  cases hread : Arguments.read world.disk args with
  | error fault => exact Run.alike_stop world registry journal rfl
  | ok reading =>
    cases reading with
    | help => exact Run.alike_within _ registry journal
    | compile request => exact perform_alike world journal h (hsource request hread)

end Compile

namespace Group

/-- The command line has the compile command compile a source. -/
def Compiles (disk : Disk) (args : List String) (source : String) : Prop :=
  ∃ verbose rest request, readSwitches args = .ok (.tokens verbose ("compile" :: rest)) ∧
    Arguments.read disk rest = .ok (.compile request) ∧ request.source = source

theorem configured_within (world : World) (registry : Registry) (verbose : Bool) :
    configured { world with registry := registry } verbose =
      (configured world verbose).within registry (configured world verbose).journal := by
  unfold configured
  simp only
  cases world.journal.configure (logOptions verbose) <;> rfl

theorem runExtensions_within (world : World) (registry : Registry) (journal : Journal)
    (args : List String) : runExtensions (world.within registry journal) args =
      (runExtensions world args).within registry journal := by
  unfold runExtensions
  split
  · rfl
  · split
    · rfl
    · split <;> rfl

/-- A command line goes the same way with modules that are the same in silence. -/
theorem run_alike [Codecs] {lenient : Bool} {world : World} {registry : Registry} {args : List String}
    (h : world.registry.silent lenient = registry.silent lenient)
    (hsource : lenient = true → ¬ Compiles world.disk args childrenPath) :
    (run world args).Alike (run { world with registry := registry } args) := by
  unfold run
  cases hfront : readSwitches args with
  | error fault => exact Run.alike_within _ registry world.journal
  | ok front =>
    rcases front with text | ⟨verbose, _ | ⟨name, rest⟩⟩
    · exact Run.alike_within _ registry world.journal
    · exact Run.alike_within _ registry world.journal
    · simp only
      cases hname : subcommands.lookup name with
      | none =>
        simp only
        cases refuse name (name :: rest) <;> exact Run.alike_within _ registry world.journal
      | some subcommand =>
        simp only [configured_within]
        cases subcommand with
        | extensions =>
          simp only [runSubcommand, runExtensions_within]
          exact Run.alike_within _ registry _
        | compile =>
          obtain rfl := compile_of_lookup hname
          obtain ⟨journal, hconfigured⟩ := configured_eq world verbose
          have hmodules : (configured world verbose).registry.silent lenient =
              registry.silent lenient := by
            rw [hconfigured]
            exact h
          apply Compile.run_alike hmodules
          intro request hrequest hlenient hpath
          rw [hconfigured] at hrequest
          exact hsource hlenient ⟨verbose, rest, request, hfront, hrequest, hpath⟩

end Group

namespace Exit

variable {fault : Fault}

theorem not_ended_of_import (h : fault.isA "ImportError") (message : String) (code : Int) :
    fault.bare ≠ .ended message code := by
  apply bare_ne_of_isA h
  show isKindOf "CLIError" "ImportError" = false
  decide

theorem not_misused_of_import (h : fault.isA "ImportError") (misuse : Misuse) (message : String) :
    fault.bare ≠ .misused misuse message := by
  apply bare_ne_of_isA h
  show isKindOf misuse.className "ImportError" = false
  cases misuse <;> decide

/-- A fault of importing leaves the command line as it is, and nothing is shown of it. -/
structure Unshown (fault : Fault) : Prop where
  leaving : leaving fault = fault
  code : codeOf fault = 1
  shown : shown fault = .plain (.ok "")
  interruption : isInterruption fault = false

theorem unshown_of_import (h : fault.isA "ImportError") : Unshown fault := by
  have hinterruption : isInterruption fault = false := by
    simp [isInterruption, not_isA_of_apart (b := "KeyboardInterrupt") (by decide) h,
      not_isA_of_apart (b := "EOFError") (by decide) h]
  have hpipe : isBrokenPipe fault = false := by
    simp [isBrokenPipe, not_isA_of_apart (b := "OSError") (by decide) h]
  refine ⟨by simp [Exit.leaving, hinterruption, hpipe], ?_, ?_, hinterruption⟩
  · unfold codeOf
    split
    · exact absurd ‹_› (not_ended_of_import h _ _)
    · exact absurd ‹_› (not_misused_of_import h _ _)
    · rfl
  · unfold Exit.shown
    split
    · exact absurd ‹_› (not_ended_of_import h _ _)
    · rfl

theorem withFault_of_import (run : Run) (h : fault.isA "ImportError") :
    withFault run fault = ⟨some fault, 1, run.output, run.records, none⟩ := by
  obtain ⟨hleaving, hcode, hshown, hinterruption⟩ := unshown_of_import h
  simp [withFault, hleaving, hcode, hshown, Console.Printed.plain, interruptionRecords, hinterruption]

/-- Two runs come to the same for the user: the same is called, printed and left on the disk, the same
message is shown and the exit code is the same. Only a fault of importing that leaves the command line
may say something else, and only events are logged that differ. -/
structure SameForUser (run other : Run) : Prop where
  calls : run.calls = other.calls
  disk : run.world.disk = other.world.disk
  exitCode : (conclude run).exitCode = (conclude other).exitCode
  fault : (conclude run).fault.map hushed = (conclude other).fault.map hushed
  output : (conclude run).output = (conclude other).output
  unshown : (conclude run).unshown = (conclude other).unshown
  records : Record.SameButEvents (conclude run).records (conclude other).records

theorem sameForUser_of_alike {run other : Run} (h : run.Alike other) : SameForUser run other := by
  have hdisk : run.world.disk = other.world.disk := by
    obtain ⟨registry, journal, hworld⟩ := h.world
    rw [hworld]
    rfl
  have hboth := h.result
  cases hrun : run.result with
  | ok done =>
    cases hother : other.result with
    | error why =>
      rw [hrun, hother] at hboth
      cases hboth
    | ok finished =>
      refine ⟨h.calls, hdisk, ?_, ?_, ?_, ?_, ?_⟩ <;> simp only [conclude, hrun, hother, h.output]
      exact h.records
  | error fault =>
    cases hother : other.result with
    | ok finished =>
      rw [hrun, hother] at hboth
      cases hboth
    | error why =>
      rw [hrun, hother] at hboth
      have htold : fault.hushed = why.hushed := Except.error.inj hboth
      have hrunEnds : conclude run = withFault run fault := by simp only [conclude, hrun]
      have hotherEnds : conclude other = withFault other why := by simp only [conclude, hother]
      -- Faults of importing may say different things, but nothing is shown of them.
      obtain ⟨hfault, hwhy⟩ | rfl := hushed_cases htold
      · rw [withFault_of_import run hfault] at hrunEnds
        rw [withFault_of_import other hwhy] at hotherEnds
        refine ⟨h.calls, hdisk, ?_, ?_, ?_, ?_, ?_⟩ <;> simp only [hrunEnds, hotherEnds, h.output]
        · exact congrArg some htold
        · exact h.records
      · have hrecords := (h.records.append (interruptionRecords fault)).append
          ((shown (leaving fault)).warnings.map .line)
        cases hline : (shown (leaving fault)).text with
        | ok line =>
          simp only [withFault, hline] at hrunEnds hotherEnds
          refine ⟨h.calls, hdisk, ?_, ?_, ?_, ?_, ?_⟩ <;> simp only [hrunEnds, hotherEnds, h.output]
          exact hrecords
        | error broken =>
          simp only [withFault, hline] at hrunEnds hotherEnds
          refine ⟨h.calls, hdisk, ?_, ?_, ?_, ?_, ?_⟩ <;> simp only [hrunEnds, hotherEnds, h.output]
          exact hrecords

end Exit

namespace Group

/-- Internal details do not reach the user. The details that faults are built with, also inside of
failures, do not reach the faults; and whatever compilers log, and whatever modules say of why they
cannot be imported, a command line comes to the same for the user. A module may also be asked for the
path of its children while one of them is imported, and its answer is passed over if `lenient`. As the
same answer may be that of the compiler, no source is of that name then. -/
theorem details_hidden [Codecs] {lenient : Bool} {world : World} {registry : Registry} {args : List String}
    (h : world.registry.silent lenient = registry.silent lenient)
    (hsource : lenient = true → ¬ Compiles world.disk args childrenPath) :
    (∀ draft other : Draft, draft.withoutDetails = other.withoutDetails →
      draft.raise.fault = other.raise.fault) ∧
    Exit.SameForUser (run world args) (run { world with registry := registry } args) :=
  ⟨fun _ _ => Draft.raise_congr, Exit.sameForUser_of_alike (run_alike h hsource)⟩

/-- A rejection with details, inside of a failure. -/
def confided (details : Option String) : Draft :=
  .failed "inner.cql" (.rejected "no" (some "inner.cql") (some 1) none [] details)

/-- A compiler that rejects every text, and a module that cannot be imported. -/
def confiding (details : Option String) (why : String) : Registry := fun name =>
  if name == "rejecting" then
    some ⟨false, [("c", ⟨"function", none, [], some (Samples.failing (confided details))⟩)], .quiet⟩
  else if name == "missing" then some ⟨false, [], ⟨[], .fail (.general "ImportError" [.text why])⟩⟩
  else none

theorem failing_silent {draft other : Draft} (lenient : Bool)
    (h : draft.withoutDetails = other.withoutDetails) :
    (Samples.failing draft).silent lenient = (Samples.failing other).silent lenient := by
  apply Factory.recorded_silent
  have hraised : (fun _ : String => draft.raise.outcome.result) =
      fun _ => (other.raise.outcome : Outcome Model).result := by
    simp only [Raised.outcome, Draft.raise_congr h]
  funext label
  exact congrArg Except.ok hraised

theorem confiding_silent (lenient : Bool) (details other : Option String) (why cause : String) :
    (confiding details why).silent lenient = (confiding other cause).silent lenient := by
  have hfactory : (Samples.failing (confided details)).silent lenient =
      (Samples.failing (confided other)).silent lenient := failing_silent lenient rfl
  funext name
  unfold confiding Registry.silent
  simp only
  split
  · simp only [Option.map_some, Module.silent, Definition.silentAll, Definition.silent, hfactory]
  · split <;> rfl

/-- A world in which a text is on standard input. -/
def confidingWorld (details : Option String) (why : String) : World :=
  { modulesOnly (confiding details why) with stdin := .holding (.text "a") }

theorem not_compiles_childrenPath {disk : Disk} {args rest : List String} {verbose : Bool}
    {request : Arguments.Compile} (hfront : readSwitches args = .ok (.tokens verbose ("compile" :: rest)))
    (hread : Arguments.read disk rest = .ok (.compile request)) (h : request.source ≠ childrenPath) :
    ¬ Compiles disk args childrenPath := by
  rintro ⟨other, further, asked, hother, hasked, hsource⟩
  rw [hfront] at hother
  simp only [Except.ok.injEq, Front.tokens.injEq, List.cons.injEq, true_and] at hother
  obtain ⟨-, rfl⟩ := hother
  rw [hread] at hasked
  simp only [Except.ok.injEq, Arguments.Reading.compile.injEq] at hasked
  exact h (hasked ▸ hsource)

theorem secrets_hidden :
    (confiding (some "secret") "a").silent true = (confiding none "b").silent true ∧
    Exit.SameForUser
      (run (confidingWorld (some "secret") "a") ["compile", "-.cql", "-c", "rejecting:c"])
      (run (confidingWorld none "b") ["compile", "-.cql", "-c", "rejecting:c"]) ∧
    Exit.SameForUser
      (run (confidingWorld (some "secret") "a") ["compile", "-.cql", "-c", "missing:c"])
      (run (confidingWorld none "b") ["compile", "-.cql", "-c", "missing:c"]) ∧
    (run (confidingWorld (some "secret") "a")
      ["compile", "-.cql", "-c", "rejecting:c"]).records.length = 1 ∧
    (run (confidingWorld none "b") ["compile", "-.cql", "-c", "rejecting:c"]).records = [] := by
  have hsilent := confiding_silent true (some "secret") none "a" "b"
  have hrejecting : ¬ Compiles (confidingWorld (some "secret") "a").disk
      ["compile", "-.cql", "-c", "rejecting:c"] childrenPath :=
    not_compiles_childrenPath rfl rfl (by decide)
  have hmissing : ¬ Compiles (confidingWorld (some "secret") "a").disk
      ["compile", "-.cql", "-c", "missing:c"] childrenPath :=
    not_compiles_childrenPath rfl rfl (by decide)
  exact ⟨hsilent, (details_hidden hsilent fun _ => hrejecting).2,
    (details_hidden hsilent fun _ => hmissing).2, rfl, rfl⟩

end Group

end FactIntake
