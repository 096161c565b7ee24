import FactIntake.Command.Exit
import FactIntake.Proofs.DiskAlone
import FactIntake.Proofs.Reporting
import FactIntake.Proofs.SentinelTokens

/-!
Options and environment variables. The compiler and the encoding may be given as options or as
variables; the settings are the same, and where both are given the options win. So a command line with
both options comes to the same, whatever the variables say, as the one without them where the variables
give these values. Values that look like options, sentinels or the end mark are values all the same
behind the name of an option.
-/

namespace FactIntake

namespace Entries

variable {κ α : Type} [BEq κ] [LawfulBEq κ]

/-- The last of what is put under a key is found there. -/
theorem lookup_putAll (start entries : List (κ × α)) (key : κ) :
    (putAll start entries).lookup key = (entries.reverse.lookup key).or (start.lookup key) := by
  induction entries generalizing start with
  | nil => rfl
  | cons entry rest ih =>
    obtain ⟨put, value⟩ := entry
    show (putAll (Entries.put start put value) rest).lookup key = _
    rw [ih, List.reverse_cons, List.lookup_append, Option.or_assoc]
    congr 1
    by_cases hkey : key = put
    · subst hkey
      rw [lookup_put_self]
      simp
    · have hother : (key == put) = false := by simpa using hkey
      rw [lookup_put_of_ne _ _ hkey]
      simp [List.lookup_cons, hother]

omit [LawfulBEq κ] in
theorem key_mem_of_mem_put {entries : List (κ × α)} {entry : κ × α} {key : κ} {value : α}
    (h : entry ∈ put entries key value) : entry.1 = key ∨ entry.1 ∈ entries.map Prod.fst := by
  induction entries with
  | nil => exact Or.inl (by rw [List.mem_singleton.mp h])
  | cons first rest ih =>
    rw [put] at h
    split at h
    · rcases List.mem_cons.mp h with rfl | h
      · exact Or.inr (.head _)
      · exact Or.inr (.tail _ (List.mem_map_of_mem h))
    · rcases List.mem_cons.mp h with rfl | h
      · exact Or.inr (.head _)
      · exact (ih h).imp_right (.tail _)

end Entries

/-- The variables give known fields only. -/
theorem Environment.mem_fieldNames_of_given {environment : Environment} {entry : String × Model}
    (h : entry ∈ environment.given) : entry.1 ∈ Settings.fieldNames ∧ entry.1 ≠ "extensions" := by
  rcases List.mem_append.mp h with h | h
  all_goals
    simp only at h
    split at h
    · split at h
      · cases h
      · rw [List.mem_singleton.mp h]
        simp [Settings.fieldNames]
    · cases h

namespace Settings

theorem unknownIssues_eq_nil {given : Given} (h : ∀ entry ∈ given, entry.1 ∈ fieldNames) :
    unknownIssues given = [] := by
  have hnone : given.filter (fun entry => !fieldNames.contains entry.1) = [] := by
    rw [List.filter_eq_nil_iff]
    intro entry hentry
    simpa using h entry hentry
  rw [unknownIssues, hnone, List.map_nil]

theorem mem_fieldNames_of_putAll {start entries : Given} (hstart : ∀ entry ∈ start, entry.1 ∈ fieldNames)
    (hentries : ∀ entry ∈ entries, entry.1 ∈ fieldNames) :
    ∀ entry ∈ Entries.putAll start entries, entry.1 ∈ fieldNames := by
  induction entries generalizing start with
  | nil => exact hstart
  | cons first rest ih =>
    refine ih (fun entry hmem => ?_) fun entry hmem => hentries entry (.tail _ hmem)
    rcases Entries.key_mem_of_mem_put hmem with hkey | hold
    · exact hkey ▸ hentries first (.head _)
    · obtain ⟨old, hold, hkey⟩ := List.mem_map.mp hold
      exact hkey ▸ hstart old hold

variable [Codecs]

/-- Settings go by what is found under their names, and by unknown names. -/
theorem check_congr {given other : Given}
    (hlookup : ∀ field ∈ fieldNames, given.lookup field = other.lookup field)
    (hunknown : unknownIssues given = unknownIssues other) : check given = check other := by
  unfold check
  rw [hlookup "extensions" (by decide), hlookup "encoding" (by decide), hlookup "compiler" (by decide),
    hunknown]

/-- The values of the options win over those of the variables, whatever these are. -/
theorem fromEnvironment_of_options (environment : Environment) (compiler encoding : String) :
    fromEnvironment environment [("compiler", .text compiler), ("encoding", .text encoding)] =
      check [("compiler", .text compiler), ("encoding", .text encoding)] := by
  have hgiven : environment.given.lookup "extensions" = none := by
    rw [List.lookup_eq_none_iff]
    intro entry hentry
    simpa using (Environment.mem_fieldNames_of_given hentry).2.symm
  have hoptions : ∀ entry ∈ [("compiler", Model.text compiler), ("encoding", Model.text encoding)],
      entry.1 ∈ fieldNames := by
    simp [fieldNames]
  apply check_congr
  · intro field hfield
    rw [Entries.lookup_putAll]
    obtain rfl | rfl | rfl : field = "extensions" ∨ field = "encoding" ∨ field = "compiler" := by
      simpa [fieldNames] using hfield
    · exact hgiven
    · rfl
    · rfl
  · rw [unknownIssues_eq_nil hoptions]
    apply unknownIssues_eq_nil
    apply mem_fieldNames_of_putAll _ hoptions
    intro entry hentry
    exact (Environment.mem_fieldNames_of_given hentry).1

/-- Without options the settings are made of the variables that are not empty. -/
theorem fromEnvironment_of_variables {compiler encoding : String} (hcompiler : compiler ≠ "")
    (hencoding : encoding ≠ "") :
    fromEnvironment ⟨some compiler, some encoding⟩ [("compiler", .null), ("encoding", .null)] =
      check [("compiler", .text compiler), ("encoding", .text encoding)] := by
  have hgiven : Environment.given ⟨some compiler, some encoding⟩ =
      [("compiler", .text compiler), ("encoding", .text encoding)] := by
    simp [Environment.given, hcompiler, hencoding]
  exact congrArg check hgiven

end Settings

namespace Arguments

open Options

theorem not_looksLikeOption {token : String} (h : token.toList.head? ≠ some '-') : ¬ looksLikeOption token := by
  simp [looksLikeOption, h]

/-- A line of which no token is moved is read as it stands. -/
theorem read_of_moved_eq_nil (disk : Disk) {args : List String} (h : (sortAfter none args).moved = []) :
    read disk args = readPlain disk args := by
  have hprepared : prepared args = args := by
    rw [prepared, shift_eq, if_pos h, ite_self]
  rw [read, hprepared]

/-- Behind a source, options are read as they would be read on their own. -/
theorem parse_source {source : String} (hsource : source.toList.head? ≠ some '-') {options : List String}
    {parsed : Parsed CompileOption} (h : parse specs true options = .ok parsed) :
    parse specs true (source :: options) = .ok (parsed.addPositional source) := by
  have hoption := not_looksLikeOption hsource
  have hmark : ¬ source == endMark := by
    rw [beq_iff_eq]
    rintro rfl
    exact hsource rfl
  rw [parse, if_neg hmark, if_neg hoption, if_pos rfl, h]
  rfl

variable (disk : Disk) {source : String} (hsource : source.toList.head? ≠ some '-')

include hsource

theorem isMoved_source : isMoved none source = false := by
  rw [isMoved, not_isSentinel_of_operand (not_looksLikeOption hsource), Bool.false_and]

theorem read_source :
    read disk [source] = (checkSource [source]).map fun source => .compile ⟨source, none, none, none, false⟩ := by
  have hmoved : (sortAfter none [source]).moved = [] := by
    simp only [sortAfter, isMoved_source hsource, Bool.false_eq_true, if_false]
  have hnone : parse specs true [] = .ok ⟨[], []⟩ := rfl
  have hparse : parse specs true [source] = .ok ⟨[], [source]⟩ := parse_source hsource hnone
  rw [read_of_moved_eq_nil disk hmoved, readPlain, hparse]
  rfl

/-- Behind the name of its option a value is a value, whatever it looks like. -/
theorem read_source_options (compiler encoding : String) :
    read disk [source, "-c", compiler, "--encoding", encoding] =
      (checkSource [source]).map fun source => .compile ⟨source, some compiler, none, some encoding, false⟩ := by
  have hmoved : (sortAfter none [source, "-c", compiler, "--encoding", encoding]).moved = [] := by
    have hcompiler : isMoved (some "-c") compiler = false := by
      rw [isMoved, show namesOption (some "-c") = true by decide, Bool.not_true, Bool.and_false]
    have hencoding : isMoved (some "--encoding") encoding = false := by
      rw [isMoved, show namesOption (some "--encoding") = true by decide, Bool.not_true, Bool.and_false]
    have hnames : ∀ previous, isMoved previous "-c" = false ∧ isMoved previous "--encoding" = false := by
      intro previous
      rw [isMoved, isMoved, not_isSentinel_of_name "-c" (by decide),
        not_isSentinel_of_name "--encoding" (by decide)]
      exact ⟨rfl, rfl⟩
    simp only [sortAfter, isMoved_source hsource, hnames, hcompiler, hencoding, Bool.false_eq_true, if_false]
  have hoptions : parse specs true ["-c", compiler, "--encoding", encoding] =
      .ok ⟨[(.compiler, some compiler), (.encoding, some encoding)], []⟩ := rfl
  have hparse : parse specs true [source, "-c", compiler, "--encoding", encoding] =
      .ok ⟨[(.compiler, some compiler), (.encoding, some encoding)], [source]⟩ :=
    parse_source hsource hoptions
  rw [read_of_moved_eq_nil disk hmoved, readPlain, hparse]
  rfl

end Arguments

/-- The world with other environment variables. -/
def World.under (world : World) (environment : Environment) : World := { world with environment := environment }

/-- A run that leaves the world with other environment variables. -/
def Run.under (run : Run) (environment : Environment) : Run :=
  { run with world := run.world.under environment }

theorem Run.after_under (run : Run) (calls : List Call) (records : List Record) (environment : Environment) :
    (run.after calls records).under environment = (run.under environment).after calls records := rfl

namespace Compile

variable (world : World) (environment : Environment) (request : Arguments.Compile)

/-- The request for a source with other values for the settings. -/
def withSettings (compiler encoding : Option String) : Arguments.Compile :=
  { request with compiler := compiler, encoding := encoding }

/-- Once there is a model, neither the variables nor the options for the settings count. -/
theorem finish_under (model : Model) (compiler encoding : Option String) :
    (finish world request model).under environment =
      finish (world.under environment) (withSettings request compiler encoding) model :=
  (finish_changed (World.under · environment) (fun _ _ => rfl) world request model).symm

variable [Codecs]

theorem compileSource_under (loader : Loader) (compiler encoding : Option String) :
    (compileSource world loader request).under environment =
      compileSource (world.under environment) loader (withSettings request compiler encoding) := by
  simp only [compileSource, World.logged]
  cases hresult : (loader.compileFile world.disk world.stdin request.source).1.result with
  | error fault => simp only [World.under, withSettings, hresult]; rfl
  | ok model =>
    simp only [Run.after_under, finish_under _ environment request model compiler encoding]
    simp only [World.under, withSettings, hresult]

/-- The command goes the same way with the same settings, wherever they come from. -/
theorem perform_under {compiler encoding : Option String}
    (h : settingsFor environment (withSettings request compiler encoding) =
      settingsFor world.environment request) :
    (perform world request).under environment =
      perform (world.under environment) (withSettings request compiler encoding) := by
  have hsettings : settingsFor (world.under environment).environment (withSettings request compiler encoding) =
      settingsFor world.environment request := h
  unfold perform
  rw [hsettings]
  cases settingsFor world.environment request with
  | error fault => rfl
  | ok settings =>
    simp only [World.logged]
    cases hcreated : (Loader.create world.registry none settings world.imports).1.result with
    | error fault => simp only [World.under, hcreated]; rfl
    | ok prepared =>
      simp only [Run.after_under, compileSource_under _ environment request _ compiler encoding]
      simp only [World.under, hcreated]

/-- Options and variables that are not empty make the same settings. -/
theorem settingsFor_of_options (environment : Environment) {compiler encoding : String}
    (hcompiler : compiler ≠ "") (hencoding : encoding ≠ "") :
    settingsFor environment (withSettings request (some compiler) (some encoding)) =
      settingsFor ⟨some compiler, some encoding⟩ (withSettings request none none) := by
  have hoptions := Settings.fromEnvironment_of_options environment compiler encoding
  have hvariables := Settings.fromEnvironment_of_variables hcompiler hencoding
  exact congrArg (Except.mapError Ending.ofIssues) (hoptions.trans hvariables.symm)

/-- The options come to the same as the variables, whatever else is asked for. -/
theorem perform_of_options {compiler encoding : String} (hcompiler : compiler ≠ "") (hencoding : encoding ≠ "") :
    perform (world.under environment) (withSettings request (some compiler) (some encoding)) =
      (perform (world.under ⟨some compiler, some encoding⟩) (withSettings request none none)).under
        environment :=
  (perform_under (world.under ⟨some compiler, some encoding⟩) environment (withSettings request none none)
    (settingsFor_of_options request environment hcompiler hencoding)).symm

end Compile

namespace Group

/-- The name of the compile command has it run on the rest of the line. -/
theorem run_compile [Codecs] (world : World) (args : List String) :
    run world ("compile" :: args) = Compile.run (configured world false) args := by
  have hfront : readSwitches ("compile" :: args) = .ok (.tokens false ("compile" :: args)) := rfl
  have hname : subcommands.lookup "compile" = some .compile := by decide
  simp only [run, hfront, hname, runSubcommand]

theorem configured_under (world : World) (environment : Environment) (verbose : Bool) :
    configured (world.under environment) verbose = (configured world verbose).under environment := by
  have hjournal : (world.under environment).journal = world.journal := rfl
  unfold configured
  rw [hjournal]
  cases world.journal.configure (logOptions verbose) <;> rfl

/-- A command line that gives the compiler and the encoding as options comes to the same, whatever the
variables say, as one without them where the variables give these values. -/
theorem options_replace_variables [Codecs] (world : World) (environment : Environment)
    {source compiler encoding : String} (hsource : source.toList.head? ≠ some '-') (hcompiler : compiler ≠ "")
    (hencoding : encoding ≠ "") :
    let byVariables := run (world.under ⟨some compiler, some encoding⟩) ["compile", source]
    let byOptions := run (world.under environment)
      ["compile", source, "-c", compiler, "--encoding", encoding]
    Exit.conclude byOptions = Exit.conclude byVariables ∧ byOptions.calls = byVariables.calls ∧
      byOptions.world = byVariables.world.under environment := by
  intro byVariables byOptions
  have hsame : byOptions = byVariables.under environment := by
    simp only [byOptions, byVariables, run_compile, configured_under, Compile.run,
      Arguments.read_source _ hsource, Arguments.read_source_options _ hsource]
    cases Arguments.checkSource [source] with
    | error fault => rfl
    | ok source =>
      exact Compile.perform_of_options (configured world false) environment
        ⟨source, none, none, none, false⟩ hcompiler hencoding
  rw [hsame]
  exact ⟨rfl, rfl, rfl⟩

/-- A module whose compilers reject a source with the mark, such a source on standard input, and variables
that are not valid. -/
def misconfiguredWorld : World :=
  ⟨fun name =>
      if name == "fx" then some ⟨false, [("E", ⟨"words", none, [], some Samples.wordList⟩)], .quiet⟩ else none,
    .empty, ⟨[], []⟩, ⟨some ".", some "klingon"⟩, .holding (.text "((("), .fresh⟩

/-- Options are taken where the variables are not valid, whether the compiler is then called or the
options are not valid either. -/
theorem invalid_variables_replaced :
    let rejected := run misconfiguredWorld ["compile", "./-.cql", "-c", "fx:E", "--encoding", "latin-1"]
    let refused := run misconfiguredWorld ["compile", "m.cql", "-c", "-.cql", "--encoding", "--"]
    (Exit.conclude rejected).exitCode = 1 ∧
      rejected.calls = [.build "<standard input>", .compile "<standard input>" "((("] ∧
      (Exit.conclude refused).fault =
        some (.ended "Invalid configuration:\n  - encoding: Value error, unknown encoding: --" 1) := by
  obtain ⟨hrejected, hcalls, -⟩ :=
    options_replace_variables misconfiguredWorld misconfiguredWorld.environment
      (show "./-.cql".toList.head? ≠ some '-' by decide) (show "fx:E" ≠ "" by decide)
      (show "latin-1" ≠ "" by decide)
  obtain ⟨hrefused, -⟩ :=
    options_replace_variables misconfiguredWorld misconfiguredWorld.environment
      (show "m.cql".toList.head? ≠ some '-' by decide) (show "-.cql" ≠ "" by decide) (show "--" ≠ "" by decide)
  refine ⟨?_, hcalls, ?_⟩
  · exact (congrArg Exit.Concluded.exitCode hrejected).trans (endsWith_of_result rfl).exitCode
  · exact (congrArg Exit.Concluded.fault hrefused).trans (endsWith_of_result rfl).fault

end Group

end FactIntake
