import FactIntake.Proofs.InputIsolation
import FactIntake.Proofs.NormalSettings
import FactIntake.Proofs.Reporting
import FactIntake.Proofs.TokenPartition

/-!
The command line and the loader agree on what designates standard input. The settings of the compile
command always recognise the extensions that the command line goes by, whatever the options and the
variables say. So a token that is moved behind two hyphens and becomes the source is read from standard
input, and a source that does not end in such a name has nothing to do with standard input: the command
runs the same with another one, and leaves that as it is.
-/

namespace FactIntake

namespace Sentinel

/-- A path designates standard input exactly if its last component is a hyphen, a point and an
extension. -/
theorem isStdin_iff_isLastComponent {path : String} {extensions : List String} :
    isStdin path extensions ↔
      ∃ extension ∈ extensions, IsLastComponent path.toList ('-' :: '.' :: extension.toList) := by
  simp only [isStdin_iff, baseName_eq_iff]

/-- Neither the order of the extensions nor how often they are given matters. -/
theorem isStdin_congr {path : String} {extensions others : List String}
    (h : ∀ extension, extension ∈ extensions ↔ extension ∈ others) :
    isStdin path extensions = isStdin path others := by
  rw [Bool.eq_iff_iff, isStdin_iff, isStdin_iff]
  simp only [h]

end Sentinel

/-- The world with another standard input. -/
def World.fed (world : World) (stdin : Stream) : World := { world with stdin := stdin }

/-- A run that leaves the world with another standard input. -/
def Run.fed (run : Run) (stdin : Stream) : Run := { run with world := run.world.fed stdin }

theorem Run.after_fed (run : Run) (calls : List Call) (records : List Record) (stdin : Stream) :
    (run.after calls records).fed stdin = (run.fed stdin).after calls records := rfl

theorem Run.bind_calls {run : Run} {next : World → Run} (h : run.calls = [])
    (hnext : ∀ world, (next world).calls = []) : (run.bind next).calls = [] := by
  unfold bind
  cases run.result with
  | error fault => exact h
  | ok done => simp [h, hnext run.world]

namespace Compile

variable (world : World) {request : Arguments.Compile}

theorem writeModel_calls (path : String) (model : Model) : (writeModel world path model).calls = [] := by
  unfold writeModel
  simp only
  split
  · rfl
  · rfl
  · split
    · rfl
    · split <;> rfl

/-- Nothing is called once there is a model. -/
theorem finish_calls (model : Model) : (finish world request model).calls = [] := by
  have hprint : ∀ (world : World) (line : Console.Printed), (world.printLine line).calls = [] := by
    intro world line
    unfold World.printLine
    cases line.text <;> rfl
  apply Run.bind_calls
  · cases houtput : request.output with
    | none => rfl
    | some path => exact writeModel_calls world path model
  · intro world
    split
    · exact hprint world _
    · apply Run.bind_calls (hprint world _)
      intro world
      cases request.output with
      | none => rfl
      | some path => exact hprint world _

theorem finish_stdin (model : Model) : (finish world request model).world.stdin = world.stdin := by
  have hsame : finish world request model = (finish world request model).elsewhere world :=
    finish_elsewhere rfl request model
  rw [hsame]
  rfl

theorem finish_fed (stdin : Stream) (request : Arguments.Compile) (model : Model) :
    finish (world.fed stdin) request model = (finish world request model).fed stdin :=
  finish_changed (World.fed · stdin) (fun _ _ => rfl) world request model

variable [Codecs]

/-- Whatever the options and the variables say, the extensions are those that the command line goes by. -/
theorem extensions_of_given {environment : Environment} {settings : Settings}
    (h : Settings.fromEnvironment environment (given request) = .ok settings) :
    settings.extensions = Settings.sourceExtensions := by
  have hnames : ((given request).map Prod.fst).Nodup := by simp [given]
  obtain ⟨-, hkeeps⟩ := Settings.isNormal_of_check h
  rw [Settings.lookup_extensions_putAll environment hnames] at hkeeps
  exact hkeeps

/-- What is read of standard input is read by compiling the source, and nothing is called afterwards. -/
theorem compileSource_spends (loader : Loader) (request : Arguments.Compile) :
    (compileSource world loader request).calls =
        (loader.compileFile world.disk world.stdin request.source).1.calls ∧
      (compileSource world loader request).world.stdin =
        (loader.compileFile world.disk world.stdin request.source).2 := by
  simp only [compileSource]
  split
  · exact ⟨List.append_nil _, rfl⟩
  · refine ⟨?_, finish_stdin _ _⟩
    show _ ++ (finish _ request _).calls = _
    rw [finish_calls, List.append_nil]

/-- Once there is a model, what the command shows and writes depends on the files alone. -/
theorem compileSource_of_model {loader : Loader} {model : Model}
    (h : (loader.compileFile world.disk world.stdin request.source).1.result = .ok model) :
    (compileSource world loader request).result = (finish world request model).result ∧
      (compileSource world loader request).output = (finish world request model).output ∧
      (compileSource world loader request).world.disk = (finish world request model).world.disk := by
  have hfinish : ∀ other : World, other.disk = world.disk →
      finish other request model = (finish world request model).elsewhere other :=
    fun other hdisk => finish_elsewhere hdisk request model
  simp only [compileSource, h]
  rw [hfinish]
  · exact ⟨rfl, rfl, rfl⟩
  · rfl

/-- A source that is a file is compiled the same with another standard input, which stays as it is. -/
theorem compileSource_fed {loader : Loader} (stdin : Stream)
    (hfile : Sentinel.isStdin request.source loader.settings.extensions = false) :
    compileSource (world.fed stdin) loader request = (compileSource world loader request).fed stdin := by
  have hthere : loader.compileFile (world.fed stdin).disk (world.fed stdin).stdin request.source =
      ((loader.compileFile world.disk world.stdin request.source).1, stdin) :=
    Prod.ext (Loader.compileFile_of_file hfile world.disk stdin world.stdin).1
      (Loader.compileFile_of_file hfile world.disk stdin stdin).2
  simp only [compileSource, World.logged]
  rw [hthere]
  cases hresult : (loader.compileFile world.disk world.stdin request.source).1.result with
  | error fault => rfl
  | ok model =>
    simp only
    rw [Run.after_fed, ← finish_fed]
    rfl

/-- Nothing is read by a command of which the loader is not settled. -/
theorem perform_stdin_of_unsettled
    (h : ∀ settings prepared, Settings.fromEnvironment world.environment (given request) = .ok settings →
      (Loader.create world.registry none settings world.imports).1.result ≠ .ok prepared) :
    (perform world request).world.stdin = world.stdin := by
  cases hsettings : Settings.fromEnvironment world.environment (given request) with
  | error issues =>
    rw [perform_of_refused world hsettings]
    rfl
  | ok settings =>
    cases hprepared : (Loader.create world.registry none settings world.imports).1.result with
    | ok prepared => exact absurd hprepared (h settings prepared hsettings)
    | error fault => exact (perform_of_unsettled world hsettings hprepared).2.2

/-- The loader that the settings lead to recognises the extensions that the command line goes by. -/
theorem extensions_of_settled {settings : Settings} {prepared : Loader.Prepared}
    (hsettings : Settings.fromEnvironment world.environment (given request) = .ok settings)
    (hprepared : (Loader.create world.registry none settings world.imports).1.result = .ok prepared) :
    prepared.settings.extensions = Settings.sourceExtensions := by
  obtain ⟨factory, -, rfl⟩ | ⟨reference, value, -, -, rfl⟩ := Loader.create_eq_ok hprepared
  · exact extensions_of_given hsettings
  · exact extensions_of_given hsettings

theorem perform_fed (stdin : Stream) (hfile : Sentinel.isStdin request.source Settings.sourceExtensions = false) :
    perform (world.fed stdin) request = (perform world request).fed stdin := by
  unfold perform
  cases hsettings : Settings.fromEnvironment world.environment (given request) with
  | error issues =>
    simp only [World.fed, settingsFor_eq, hsettings, Results.mapError_error]
    rfl
  | ok settings =>
    simp only [World.logged, World.fed, settingsFor_eq, hsettings, Results.mapError_ok]
    cases hprepared : (Loader.create world.registry none settings world.imports).1.result with
    | error fault => rfl
    | ok prepared =>
      rw [← extensions_of_settled world hsettings hprepared] at hfile
      simp only
      rw [Run.after_fed, ← compileSource_fed _ stdin hfile]
      rfl

end Compile

namespace Group

open Arguments

variable {world : World} {args rest : List String} {verbose : Bool} {request : Arguments.Compile}

theorem configured_fed (world : World) (stdin : Stream) (verbose : Bool) :
    configured (world.fed stdin) verbose = (configured world verbose).fed stdin := by
  unfold configured
  rw [show (world.fed stdin).journal = world.journal from rfl]
  cases world.journal.configure (logOptions verbose) <;> rfl

section

variable [Codecs]

/-- The source is read from standard input to its end: its text is compiled, and what the command comes
to is what becomes of that. -/
structure ReadsStdin (world : World) (request : Arguments.Compile) (created : Report Loader.Prepared × Imports)
    (loader : Loader) (run : Run) : Prop where
  source : ∀ disk, loader.compileFile disk world.stdin request.source =
    (Loader.intercept request.source ((loader.compileStream world.stdin Loader.stdinLabel).1.after
      [.sourceResolved Loader.stdinLabel .stdin]), world.stdin.drain.2)
  calls : run.calls = created.1.calls ++ (loader.compileStream world.stdin Loader.stdinLabel).1.calls
  stdin : run.world.stdin = world.stdin.drain.2
  model : ∀ model, (loader.compileFile world.disk world.stdin request.source).1.result = .ok model →
    run.result = (Compile.finish world request model).result ∧
      run.output = (Compile.finish world request model).output ∧
      run.world.disk = (Compile.finish world request model).world.disk
  fault : ∀ fault, (loader.compileFile world.disk world.stdin request.source).1.result = .error fault →
    run.result = .error (Compile.sourceFault fault) ∧ run.world.disk = world.disk

/-- Standard input is left alone: whatever it is, the command runs the same, and leaves it as it is. -/
structure LeavesStdin (world : World) (args : List String) : Prop where
  stdin : (run world args).world.stdin = world.stdin
  fed : ∀ stdin, run (world.fed stdin) args = (run world args).fed stdin

/-- With a settled loader a command line comes to compiling its source with that. -/
theorem run_of_settled (hfront : readSwitches args = .ok (.tokens verbose ("compile" :: rest)))
    (hrest : Arguments.read world.disk rest = .ok (.compile request)) {settings : Settings}
    {prepared : Loader.Prepared}
    (hsettings : Settings.fromEnvironment world.environment (Compile.given request) = .ok settings)
    (hprepared : (Loader.create world.registry none settings world.imports).1.result = .ok prepared) :
    ∃ journal imports records, run world args =
      (Compile.compileSource { world with imports := imports, journal := journal }
        (prepared.loader (Loader.create world.registry none settings world.imports).2) request).after
        (Loader.create world.registry none settings world.imports).1.calls records := by
  obtain ⟨journal, hrun⟩ := run_eq_perform hfront hrest
  obtain ⟨later, imports, records, hperform⟩ :=
    Compile.perform_of_settled { world with journal := journal } hsettings hprepared
  exact ⟨later, imports, records, hrun.trans hperform⟩

theorem readsStdin_of_isStdin (hfront : readSwitches args = .ok (.tokens verbose ("compile" :: rest)))
    (hrest : Arguments.read world.disk rest = .ok (.compile request))
    (hstdin : Sentinel.isStdin request.source Settings.sourceExtensions) {settings : Settings}
    {prepared : Loader.Prepared}
    (hsettings : Settings.fromEnvironment world.environment (Compile.given request) = .ok settings)
    (hprepared : (Loader.create world.registry none settings world.imports).1.result = .ok prepared) :
    ReadsStdin world request (Loader.create world.registry none settings world.imports)
      (prepared.loader (Loader.create world.registry none settings world.imports).2) (run world args) := by
  obtain ⟨journal, imports, records, hrun⟩ := run_of_settled hfront hrest hsettings hprepared
  rw [← Compile.extensions_of_settled world hsettings hprepared] at hstdin
  generalize Loader.create world.registry none settings world.imports = created at hrun ⊢
  let later : World := { world with imports := imports, journal := journal }
  obtain ⟨hcalls, hleft⟩ := Compile.compileSource_spends later (prepared.loader created.2) request
  have hsource : ∀ disk, (prepared.loader created.2).compileFile disk world.stdin request.source =
      (Loader.intercept request.source
        (((prepared.loader created.2).compileStream world.stdin Loader.stdinLabel).1.after
          [.sourceResolved Loader.stdinLabel .stdin]), world.stdin.drain.2) := by
    intro disk
    simp only [Loader.compileFile, Loader.compileSource, Loader.Prepared.loader, hstdin, if_true]
    rfl
  rw [hrun]
  refine ⟨hsource, ?_, ?_, fun model hmodel => ?_, fun fault hfault => ?_⟩
  · show created.1.calls ++ (Compile.compileSource later _ request).calls = _
    rw [hcalls, hsource, Loader.intercept_calls, Report.after_calls]
  · exact hleft.trans (congrArg Prod.snd (hsource world.disk))
  · obtain ⟨hresult, houtput, hdisk⟩ := Compile.compileSource_of_model later hmodel
    have hfiles : later.disk = world.disk := rfl
    have hsame := Compile.finish_elsewhere hfiles request model
    rw [hsame] at hresult houtput hdisk
    exact ⟨hresult, houtput, hdisk⟩
  · obtain ⟨hresult, -, hdisk⟩ := Compile.compileSource_of_failed later hfault
    exact ⟨hresult, hdisk⟩

theorem run_stdin_of_unsettled (hfront : readSwitches args = .ok (.tokens verbose ("compile" :: rest)))
    (hrest : Arguments.read world.disk rest = .ok (.compile request))
    (h : ∀ settings prepared,
      Settings.fromEnvironment world.environment (Compile.given request) = .ok settings →
      (Loader.create world.registry none settings world.imports).1.result ≠ .ok prepared) :
    (run world args).world.stdin = world.stdin := by
  obtain ⟨journal, hrun⟩ := run_eq_perform hfront hrest
  rw [hrun]
  exact Compile.perform_stdin_of_unsettled { world with journal := journal } h

theorem leavesStdin_of_file (hfront : readSwitches args = .ok (.tokens verbose ("compile" :: rest)))
    (hrest : Arguments.read world.disk rest = .ok (.compile request))
    (hfile : Sentinel.isStdin request.source Settings.sourceExtensions = false) : LeavesStdin world args := by
  have hfed : ∀ stdin, run (world.fed stdin) args = (run world args).fed stdin := by
    intro stdin
    have hthere : run (world.fed stdin) args = Compile.perform (configured (world.fed stdin) verbose) request :=
      run_eq hfront hrest
    rw [hthere, run_eq hfront hrest, configured_fed]
    exact Compile.perform_fed (configured world verbose) stdin hfile
  refine ⟨?_, hfed⟩
  have hsame : world.fed world.stdin = world := rfl
  rw [← hsame, hfed]
  rfl

/-- A path designates standard input exactly if its last component is a hyphen, a point and a recognised
extension, in whatever order and number the extensions are given. The command line and the loader that
it settles agree on that: a token that is moved and becomes the source is read from standard input, and
a source with another last component leaves that alone. -/
theorem sentinel_detection_exact :
    (∀ path extensions, Sentinel.isStdin path extensions ↔
      ∃ extension ∈ extensions, Sentinel.IsLastComponent path.toList ('-' :: '.' :: extension.toList)) ∧
    (∀ path extensions others, (∀ extension, extension ∈ extensions ↔ extension ∈ others) →
      Sentinel.isStdin path extensions = Sentinel.isStdin path others) ∧
    (∀ environment request settings token,
      Settings.fromEnvironment environment (Compile.given request) = .ok settings →
      (isSentinel token ↔ token.toList.head? = some '-' ∧ Sentinel.isStdin token settings.extensions)) ∧
    ∀ world args verbose rest request, readSwitches args = .ok (.tokens verbose ("compile" :: rest)) →
      Arguments.read world.disk rest = .ok (.compile request) →
      ((∃ i, rest[i]? = some request.source ∧ MovesAt rest i) →
        (∀ settings prepared,
          Settings.fromEnvironment world.environment (Compile.given request) = .ok settings →
          (Loader.create world.registry none settings world.imports).1.result = .ok prepared →
          ReadsStdin world request (Loader.create world.registry none settings world.imports)
            (prepared.loader (Loader.create world.registry none settings world.imports).2) (run world args)) ∧
        ((∀ settings prepared,
          Settings.fromEnvironment world.environment (Compile.given request) = .ok settings →
          (Loader.create world.registry none settings world.imports).1.result ≠ .ok prepared) →
          (run world args).world.stdin = world.stdin)) ∧
      ((¬ ∃ extension ∈ Settings.sourceExtensions,
          Sentinel.IsLastComponent request.source.toList ('-' :: '.' :: extension.toList)) →
        LeavesStdin world args) := by
  refine ⟨fun _ _ => Sentinel.isStdin_iff_isLastComponent, fun _ _ _ h => Sentinel.isStdin_congr h, ?agree,
    fun world args verbose rest request hfront hrest => ⟨?moved, fun hother => ?other⟩⟩
  case agree =>
    intro environment request settings token hsettings
    rw [Compile.extensions_of_given hsettings, isSentinel, Bool.and_eq_true, beq_iff_eq]
  case moved =>
    rintro ⟨i, htoken, hmoves⟩
    obtain ⟨token, hat, hdesignates, -⟩ := hmoves
    obtain rfl : request.source = token := Option.some.inj (htoken.symm.trans hat)
    have hstdin := Sentinel.isStdin_iff_isLastComponent.mpr hdesignates.2
    exact ⟨fun settings prepared => readsStdin_of_isStdin hfront hrest hstdin,
      run_stdin_of_unsettled hfront hrest⟩
  case other =>
    apply leavesStdin_of_file hfront hrest
    rw [← Bool.not_eq_true, Sentinel.isStdin_iff_isLastComponent]
    exact hother

end

/-- A module whose compilers compile a text to itself, and a text on standard input. -/
def echoWorld : World :=
  { modulesOnly (fun name =>
      if name == "fx" then some ⟨false, [("E", ⟨"echo", none, [], some Samples.echo⟩)], .quiet⟩ else none) with
    stdin := .holding (.text "A") }

/-- A sentinel behind the value of an option is read from standard input, a path without a hyphen is
not. -/
theorem sentinel_read_file_not :
    Sentinel.isStdin "-.tar.gz" ["gz", "tar.gz"] = Sentinel.isStdin "-.tar.gz" ["tar.gz", "gz", "tar.gz"] ∧
    (isSentinel "-.cql" ↔ "-.cql".toList.head? = some '-' ∧
      Sentinel.isStdin "-.cql" Settings.default.extensions) ∧
    (run echoWorld ["compile", "-c", "fx:E", "-.cql"]).calls =
      [.build "<standard input>", .compile "<standard input>" "A"] ∧
    (run echoWorld ["compile", "-c", "fx:E", "-.cql"]).world.stdin = .holding (.text "") ∧
    (run echoWorld ["compile", "-.cql"]).world.stdin = .holding (.text "A") ∧
    (run echoWorld ["compile", "a/m.cql"]).world.stdin = .holding (.text "A") := by
  obtain ⟨-, hsame, hagree, hrun⟩ := sentinel_detection_exact
  have hmoved : MovesAt ["-c", "fx:E", "-.cql"] 2 := by decide
  have hread := ((hrun echoWorld ["compile", "-c", "fx:E", "-.cql"] false ["-c", "fx:E", "-.cql"]
    ⟨"-.cql", some "fx:E", none, none, false⟩ rfl rfl).1 ⟨2, rfl, hmoved⟩).1
    ⟨Settings.sourceExtensions, "utf-8", some "fx:E"⟩ _ rfl rfl
  have hunsettled := ((hrun echoWorld ["compile", "-.cql"] false ["-.cql"]
    ⟨"-.cql", none, none, none, false⟩ rfl rfl).1 ⟨0, rfl, by decide⟩).2
  have hfile := (hrun echoWorld ["compile", "a/m.cql"] false ["a/m.cql"]
    ⟨"a/m.cql", none, none, none, false⟩ rfl rfl).2
  refine ⟨hsame _ _ _ (by simp), hagree ⟨none, none⟩ ⟨"-.cql", none, none, none, false⟩ _ _ rfl,
    hread.calls, hread.stdin, hunsettled ?_, (hfile ?_).stdin⟩
  · intro settings prepared hsettings hprepared
    obtain rfl := Except.ok.inj hsettings
    cases hprepared
  · rw [← Sentinel.isStdin_iff_isLastComponent]
    decide

end Group

end FactIntake
