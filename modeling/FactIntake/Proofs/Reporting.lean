import FactIntake.Command.Exit
import FactIntake.Proofs.Boundary
import FactIntake.Proofs.Lookup
import FactIntake.Proofs.Results

/-!
What the compile command tells of a failure. Bad settings and a compiler that cannot be found end the
command before anything is read; a failure of the source ends it before anything is written. The message
is that of the failure with a line for each place that led to it, and the exit code tells an unreadable
source from one that is rejected.
-/

namespace FactIntake.Ending

open Fault

/-- A line for each item, after what comes first. -/
theorem intercalate_lines (first : String) (lines : List String) :
    "\n".intercalate (first :: lines) = first ++ String.join (lines.map ("\n" ++ ·)) := by
  induction lines generalizing first with
  | nil => simp
  | cons line lines ih =>
    rw [String.intercalate_cons_cons, ih]
    simp [String.append_assoc]

theorem ofMisconfiguration_eq {fault : Fault} (h : fault.isA "ConfigurationError") :
    ofMisconfiguration fault = .ended (fault.message ++ "\n\n" ++ compilerHint) userError := by
  have hfacts : fault.isA "FactsError" := isA_trans h (by decide)
  simp [ofMisconfiguration, userMessage, hfacts, told, bind, Except.bind, pure, Except.pure]

/-- A failure is told with its own text and its trail; what it wraps decides about the exit code. -/
theorem ofFailure_eq {failure original : Fault} (h : failure.isA "CompileFailure")
    (horiginal : failure.original? = some original) :
    ofFailure failure = .ended (failure.message ++
        String.join (failure.trail.map fun mark => "\n  at " ++ mark.display))
      (if original.isA "SourceIOError" then systemError else userError) := by
  have hfacts : failure.isA "FactsError" := isA_trans h (by decide)
  have hlines : trailLines failure = .ok (failure.trail.map fun mark => "  at " ++ mark.display) := by
    simp [trailLines, h]
  simp only [ofFailure, userMessage, hfacts, hlines, wrapped, horiginal, if_true, bind, Except.bind,
    pure, Except.pure, told, exitCodeOf, intercalate_lines, List.map_map]
  congr 3

end FactIntake.Ending

namespace FactIntake.Exit

open Fault

/-- A message that ends the command leaves the command line as it is. -/
theorem conclude_of_ended {run : Run} {message : String} {code : Int}
    (h : run.result = .error (.ended message code)) :
    (conclude run).fault = some (.ended message code) ∧ (conclude run).exitCode = code := by
  have hinterruption : isInterruption (.ended message code) = false := by
    show (isKindOf "CLIError" "KeyboardInterrupt" || isKindOf "CLIError" "EOFError") = false
    decide
  have hpipe : isBrokenPipe (.ended message code) = false := by
    have hsystem : (ended message code).isA "OSError" = false := by
      show isKindOf "CLIError" "OSError" = false
      decide
    simp [isBrokenPipe, hsystem]
  have hleaving : leaving (.ended message code) = .ended message code := by
    simp [leaving, hinterruption, hpipe]
  simp only [conclude, h, withFault, hleaving]
  split <;> exact ⟨rfl, rfl⟩

end FactIntake.Exit

namespace FactIntake.Compile

open Fault

variable (world : World) {request : Arguments.Compile}

/-- The values that options give. -/
def given (request : Arguments.Compile) : Given :=
  [("compiler", textGiven request.compiler), ("encoding", textGiven request.encoding)]

theorem loaderFault_of_misconfigured {fault : Fault} (h : fault.isA "ConfigurationError") :
    loaderFault fault = .ended (fault.message ++ "\n\n" ++ Ending.compilerHint) Ending.userError := by
  -- Bad settings are of a class of their own, so the fault is not taken for them.
  have hbare : ∀ issues, fault.bare ≠ .invalid issues := by
    intro issues hinvalid
    rw [← isA_bare, hinvalid] at h
    have hother : isKindOf "ValidationError" "ConfigurationError" = false := by decide
    exact absurd (hother.symm.trans h) (by decide)
  unfold loaderFault
  split
  · rename_i issues hinvalid
    exact absurd hinvalid (hbare issues)
  · rw [if_pos h, Ending.ofMisconfiguration_eq h]

variable [Codecs]

theorem settingsFor_eq (environment : Environment) (request : Arguments.Compile) :
    settingsFor environment request =
      (Settings.fromEnvironment environment (given request)).mapError Ending.ofIssues := rfl

/-- A command that has ended in a fault before anything was shown or written. -/
structure Stopped (world : World) (run : Run) (fault : Fault) : Prop where
  result : run.result = .error fault
  output : run.output = ""
  disk : run.world.disk = world.disk

/-- Settings that are refused end the command at once. -/
theorem perform_of_refused {issues : List Issue}
    (h : Settings.fromEnvironment world.environment (given request) = .error issues) :
    perform world request = world.stop (.error (Ending.ofIssues issues)) := by
  simp only [perform, settingsFor_eq, h, Results.mapError_error]

/-- A loader that cannot be settled ends the command with what is said of it. Nothing but settling the
loader has been done. -/
theorem perform_of_unsettled {settings : Settings} {fault : Fault}
    (hsettings : Settings.fromEnvironment world.environment (given request) = .ok settings)
    (h : (Loader.create world.registry none settings world.imports).1.result = .error fault) :
    Stopped world (perform world request) (loaderFault fault) ∧
      (perform world request).calls =
        (Loader.create world.registry none settings world.imports).1.calls ∧
      (perform world request).world.stdin = world.stdin := by
  simp only [perform, settingsFor_eq, hsettings, Results.mapError_ok, h]
  exact ⟨⟨rfl, rfl, rfl⟩, List.append_nil _, rfl⟩

/-- A settled loader compiles the source, after what was called to settle it. -/
theorem perform_of_settled {settings : Settings} {prepared : Loader.Prepared}
    (hsettings : Settings.fromEnvironment world.environment (given request) = .ok settings)
    (hprepared : (Loader.create world.registry none settings world.imports).1.result = .ok prepared) :
    ∃ journal imports records, perform world request =
      (compileSource { world with imports := imports, journal := journal }
        (prepared.loader (Loader.create world.registry none settings world.imports).2) request).after
        (Loader.create world.registry none settings world.imports).1.calls records := by
  simp only [perform, settingsFor_eq, hsettings, Results.mapError_ok, hprepared, World.logged]
  exact ⟨_, _, _, rfl⟩

theorem compileSource_of_failed {loader : Loader} {fault : Fault}
    (h : (loader.compileFile world.disk world.stdin request.source).1.result = .error fault) :
    Stopped world (compileSource world loader request) (sourceFault fault) := by
  cases hcompile : loader.compileFile world.disk world.stdin request.source with
  | mk report stdin =>
    have hresult : report.result = .error fault := by simpa only [hcompile] using h
    simp only [compileSource, hcompile, hresult]
    exact ⟨rfl, rfl, rfl⟩

/-- A fault of the source ends the command with what is said of it, and nothing is written. -/
theorem perform_of_failed {settings : Settings} {prepared : Loader.Prepared} {imports : Imports}
    {fault : Fault}
    (hsettings : Settings.fromEnvironment world.environment (given request) = .ok settings)
    (hprepared : (Loader.create world.registry none settings world.imports).1.result = .ok prepared)
    (himports : (Loader.create world.registry none settings world.imports).2 = imports)
    (h : ((prepared.loader imports).compileFile world.disk world.stdin request.source).1.result =
      .error fault) :
    Stopped world (perform world request) (sourceFault fault) := by
  obtain ⟨journal, changed, records, hperform⟩ := perform_of_settled world hsettings hprepared
  obtain ⟨hresult, houtput, hdisk⟩ :=
    compileSource_of_failed { world with imports := changed, journal := journal } h
  rw [hperform, himports]
  exact ⟨hresult, houtput, hdisk⟩

end FactIntake.Compile

namespace FactIntake.Group

variable {world : World} {args rest : List String} {verbose : Bool} {request : Arguments.Compile}

/-- Configuring the log changes nothing but the journal. -/
theorem configured_eq (world : World) (verbose : Bool) :
    ∃ journal, configured world verbose = { world with journal := journal } := by
  unfold configured
  cases world.journal.configure (logOptions verbose) with
  | none => exact ⟨world.journal, rfl⟩
  | some entry => exact ⟨entry.2, rfl⟩

/-- A command line with the name of the compile command runs that command. -/
theorem run_eq [Codecs] (hfront : readSwitches args = .ok (.tokens verbose ("compile" :: rest)))
    (hrest : Arguments.read world.disk rest = .ok (.compile request)) :
    run world args = Compile.perform (configured world verbose) request := by
  have hname : subcommands.lookup "compile" = some .compile := by decide
  obtain ⟨journal, hconfigured⟩ := configured_eq world verbose
  simp only [run, hfront, hname, runSubcommand, Compile.run, hconfigured, hrest]

/-- But for the journal that command starts in the world of the command line. -/
theorem run_eq_perform [Codecs] (hfront : readSwitches args = .ok (.tokens verbose ("compile" :: rest)))
    (hrest : Arguments.read world.disk rest = .ok (.compile request)) :
    ∃ journal, run world args = Compile.perform { world with journal := journal } request := by
  obtain ⟨journal, hconfigured⟩ := configured_eq world verbose
  exact ⟨journal, by rw [run_eq hfront hrest, hconfigured]⟩

/-- A run ends with a message and an exit code. -/
structure EndsWith (run : Run) (message : String) (code : Int) : Prop where
  fault : (Exit.conclude run).fault = some (.ended message code)
  exitCode : (Exit.conclude run).exitCode = code

theorem endsWith_of_result {run : Run} {message : String} {code : Int}
    (h : run.result = .error (.ended message code)) : EndsWith run message code :=
  ⟨(Exit.conclude_of_ended h).1, (Exit.conclude_of_ended h).2⟩

/-- What the command line tells of settings that are refused, of a compiler that cannot be found and of
a source that cannot be compiled, and what it leaves alone by then. While a compiler is looked for, only
the modules that its reference is looked up in can call anything. -/
theorem run_reports [Codecs] (hfront : readSwitches args = .ok (.tokens verbose ("compile" :: rest)))
    (hrest : Arguments.read world.disk rest = .ok (.compile request)) :
    (∀ issues,
      Settings.fromEnvironment world.environment (Compile.given request) = .error issues →
      EndsWith (run world args) (Issue.report issues) 1 ∧ (run world args).calls = [] ∧
        (run world args).world.stdin = world.stdin ∧ (run world args).world.disk = world.disk) ∧
    (∀ settings fault,
      Settings.fromEnvironment world.environment (Compile.given request) = .ok settings →
      (Loader.create world.registry none settings world.imports).1.result = .error fault →
      fault.isA "ConfigurationError" →
      EndsWith (run world args) (fault.message ++ "\n\n" ++ Ending.compilerHint) 1 ∧
        Reference.LooksUp world.registry settings.compiler world.imports (run world args).calls ∧
        (Reference.CallsNothing world.registry → (run world args).calls = []) ∧
        (run world args).world.stdin = world.stdin ∧ (run world args).world.disk = world.disk) ∧
    (∀ settings prepared imports failure,
      Settings.fromEnvironment world.environment (Compile.given request) = .ok settings →
      (Loader.create world.registry none settings world.imports).1.result = .ok prepared →
      (Loader.create world.registry none settings world.imports).2 = imports →
      ((prepared.loader imports).compileFile world.disk world.stdin request.source).1.result =
        .error failure →
      failure.isA "CompileFailure" →
      ∃ original, failure.original? = some original ∧
        EndsWith (run world args)
          (failure.message ++ String.join (failure.trail.map fun mark => "\n  at " ++ mark.display))
          (if original.isA "SourceIOError" then 2 else 1) ∧
        (run world args).world.disk = world.disk) := by
  obtain ⟨journal, hrun⟩ := run_eq_perform hfront hrest
  refine ⟨fun issues hissues => ?refused, fun settings fault hsettings hcreate hclass => ?unsettled,
    fun settings prepared imports failure hsettings hprepared himports hfailure hclass => ?failed⟩
  case refused =>
    have hrefused : run world args =
        World.stop { world with journal := journal } (.error (Ending.ofIssues issues)) :=
      hrun.trans (Compile.perform_of_refused _ hissues)
    rw [hrefused]
    exact ⟨endsWith_of_result rfl, rfl, rfl, rfl⟩
  case unsettled =>
    obtain ⟨⟨hresult, -, hdisk⟩, hcalls, hstdin⟩ :=
      Compile.perform_of_unsettled { world with journal := journal } hsettings hcreate
    rw [← hrun] at hresult hcalls hdisk hstdin
    rw [Compile.loaderFault_of_misconfigured hclass] at hresult
    have hlooked : Reference.LooksUp world.registry settings.compiler world.imports (run world args).calls := by
      rw [hcalls]
      exact Loader.create_looksUp _ _ _
    exact ⟨endsWith_of_result hresult, hlooked, fun hnothing => hlooked.eq_nil hnothing, hstdin, hdisk⟩
  case failed =>
    obtain ⟨original, horiginal⟩ := Loader.original_of_compileFile hfailure hclass
    obtain ⟨hresult, -, hdisk⟩ := Compile.perform_of_failed { world with journal := journal }
      hsettings hprepared himports hfailure
    rw [← hrun] at hresult hdisk
    rw [Compile.sourceFault, if_pos hclass, Ending.ofFailure_eq hclass horiginal] at hresult
    exact ⟨original, horiginal, endsWith_of_result hresult, hdisk⟩

/-- A world with nothing in it but modules to import. -/
def modulesOnly (registry : Registry) : World :=
  ⟨registry, .empty, ⟨[], []⟩, ⟨none, none⟩, .nothing, .fresh⟩

theorem unconfigured_reported :
    EndsWith (run (modulesOnly fun _ => none) ["compile", "m.cql"])
      ("No compiler configured. Pass a compiler factory or set a compiler reference" ++
        " (setting FACTS_COMPILER)\n\n" ++ Ending.compilerHint) 1 ∧
    (run (modulesOnly fun _ => none) ["compile", "m.cql"]).calls = [] := by
  have hfront : readSwitches ["compile", "m.cql"] =
      .ok (.tokens false ["compile", "m.cql"]) := rfl
  have hrest : Arguments.read (modulesOnly fun _ => none).disk ["m.cql"] =
      .ok (.compile ⟨"m.cql", none, none, none, false⟩) := rfl
  obtain ⟨hends, -, hcalls, -⟩ :=
    (run_reports hfront hrest).2.1 Settings.default _ rfl rfl (by decide)
  exact ⟨hends, hcalls Reference.callsNothing_nowhere⟩

/-- A module that is asked for the attributes that it lacks. -/
def hooked : Registry := fun name =>
  if name == "fx" then some ⟨false, [("__getattr__", ⟨"echo", none, [], some Samples.echo⟩)], .quiet⟩
  else none

/-- A module that builds a compiler with its own factory as it is loaded. -/
def eager : Registry := fun name =>
  if name == "fx" then some ⟨false, [("Compiler", ⟨"echo", none, [], some Samples.echo⟩)],
    ⟨[.build "probe"], .succeed ()⟩⟩
  else none

/-- A compiler is built although the loader is refused: the module of the reference was asked for it,
and gave a compiler where a factory was wanted; or the module built one as it was loaded. -/
theorem called_for_refused :
    (EndsWith (run (modulesOnly hooked) ["compile", "m.cql", "-c", "fx:nope"])
        ("Compiler 'fx:nope' is not callable (setting FACTS_COMPILER)\n\n" ++ Ending.compilerHint) 1 ∧
      (∃ fault, (Loader.create hooked none ⟨Settings.sourceExtensions, "utf-8", some "fx:nope"⟩
          .empty).1.result = .error fault ∧ fault.isA "ConfigurationError") ∧
      (run (modulesOnly hooked) ["compile", "m.cql", "-c", "fx:nope"]).calls = [.build "nope"]) ∧
    EndsWith (run (modulesOnly eager) ["compile", "m.cql", "-c", "fx:nope"])
        ("Compiler 'fx:nope' not found in module 'fx' (setting FACTS_COMPILER)\n\n" ++ Ending.compilerHint) 1 ∧
      (∃ fault, (Loader.create eager none ⟨Settings.sourceExtensions, "utf-8", some "fx:nope"⟩
          .empty).1.result = .error fault ∧ fault.isA "ConfigurationError") ∧
      (run (modulesOnly eager) ["compile", "m.cql", "-c", "fx:nope"]).calls = [.build "probe"] := by
  refine ⟨⟨endsWith_of_result rfl, ⟨_, rfl, by decide⟩, rfl⟩, endsWith_of_result rfl, ⟨_, rfl, by decide⟩, rfl⟩

end FactIntake.Group
