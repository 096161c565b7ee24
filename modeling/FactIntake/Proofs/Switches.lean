import FactIntake.Proofs.HiddenDetails
import FactIntake.Proofs.JsonOutput

/-!
Switches in front of a subcommand. Those that set how much is logged and how it is coloured are read
before the subcommand is, and all that becomes of them is another journal. A command line comes to the
same with them as without: the same is called, printed and written, and the same fault leaves it. So
what a compiled model is shown as is one document, however much is logged.
-/

namespace FactIntake

namespace Group

open Options

/-- The switches that set the log and the colours. -/
def quietSwitches : List String := ["-v", "--verbose", "--no-color"]

/-- The switch that such a token is. -/
def quietSwitch (token : String) : Switch := if token = "--no-color" then .noColour else .verbose

theorem endingText_quietSwitch (token : String) (rest : List (Switch × Option String)) :
    endingText? ((quietSwitch token, none) :: rest) = endingText? rest := by
  unfold quietSwitch
  split <;> rfl

theorem endingText_of_quiet (front : List String) :
    endingText? (front.map fun token => (quietSwitch token, none)) = none := by
  induction front with
  | nil => rfl
  | cons token rest ih => rw [List.map_cons, endingText_quietSwitch, ih]

theorem readToken_of_quiet {token : String} (h : token ∈ quietSwitches) :
    readToken switches token = .ok ⟨[(quietSwitch token, none)], none⟩ := by
  obtain rfl | rfl | rfl : token = "-v" ∨ token = "--verbose" ∨ token = "--no-color" := by
    simpa [quietSwitches] using h
  all_goals rfl

theorem looksLikeOption_of_quiet : ∀ token ∈ quietSwitches, looksLikeOption token ∧ token ≠ endMark := by decide

/-- Such switches are read one after the other, up to the first token that is no option. -/
theorem parse_quiet {front : List String} (hfront : ∀ token ∈ front, token ∈ quietSwitches) {name : String}
    (hname : ¬ looksLikeOption name) (hmark : name ≠ endMark) (args : List String) :
    parse switches false (front ++ name :: args) =
      .ok ⟨front.map fun token => (quietSwitch token, none), name :: args⟩ := by
  induction front with
  | nil =>
    rw [List.nil_append, parse, if_neg (by simpa using hmark), if_neg hname]
    rfl
  | cons token rest ih =>
    obtain ⟨htoken, hrest⟩ := List.forall_mem_cons.mp hfront
    obtain ⟨hoption, hnext⟩ := looksLikeOption_of_quiet token htoken
    rw [List.cons_append, parse, if_neg (by simpa using hnext), if_pos hoption, readToken_of_quiet htoken]
    simp only [ih hrest]
    rfl

theorem readSwitches_quiet {front : List String} (hfront : ∀ token ∈ front, token ∈ quietSwitches) {name : String}
    (hname : ¬ looksLikeOption name) (hmark : name ≠ endMark) (args : List String) :
    ∃ verbose, readSwitches (front ++ name :: args) = .ok (.tokens verbose (name :: args)) := by
  refine ⟨Parsed.has ⟨front.map fun token => (quietSwitch token, none), name :: args⟩ .verbose, ?_⟩
  simp only [readSwitches, parse_quiet hfront hname hmark, Except.map, endingText_of_quiet]

/-- The console is without colours if they are forced off or a switch says so, and it is written to as a
terminal if one is attached and colours are on. -/
theorem consoleOf_quiet (attached forced : Bool) {front : List String}
    (hfront : ∀ token ∈ front, token ∈ quietSwitches) {name : String} (hname : ¬ looksLikeOption name)
    (hmark : name ≠ endMark) (args : List String) :
    let setup := consoleOf attached forced (front ++ name :: args)
    (setup.noColour = true ↔ forced = true ∨ "--no-color" ∈ front) ∧
      (setup.terminal = true ↔ attached = true ∧ setup.noColour = false) := by
  have hall : ((front.map fun token => (quietSwitch token, (none : Option String))).takeWhile
      fun given => (endingText? [given]).isNone) = front.map fun token => (quietSwitch token, none) := by
    rw [List.takeWhile_eq_self_iff]
    intro given hgiven
    obtain ⟨token, -, rfl⟩ := List.mem_map.mp hgiven
    rw [endingText_quietSwitch]
    rfl
  have hasked : (front.map fun token => (quietSwitch token, (none : Option String))).any (·.1 == .noColour) = true ↔
      "--no-color" ∈ front := by
    simp only [List.any_map, List.any_eq_true, Function.comp_apply, beq_iff_eq]
    constructor
    · rintro ⟨token, hmem, hswitch⟩
      by_cases htoken : token = "--no-color"
      · exact htoken ▸ hmem
      · rw [quietSwitch, if_neg htoken] at hswitch
        cases hswitch
    · exact fun hmem => ⟨_, hmem, rfl⟩
  simp only [consoleOf, parse_quiet hfront hname hmark, hall, Console.Setup.create, Bool.or_eq_true, hasked]
  constructor
  · exact or_comm
  · simp

theorem not_looksLikeOption_of_lookup {name : String} {subcommand : Subcommand}
    (h : subcommands.lookup name = some subcommand) : ¬ looksLikeOption name ∧ name ≠ endMark := by
  have hnames : ∀ entry ∈ subcommands, ¬ looksLikeOption entry.1 ∧ entry.1 ≠ endMark := by decide
  obtain ⟨before, after, hentries, -⟩ := List.lookup_eq_some_iff.mp h
  exact hnames (name, subcommand) (by simp [hentries])

/-- Whatever such switches come first, the subcommand is run, with some journal. -/
theorem run_of_quiet [Codecs] (world : World) {front : List String}
    (hfront : ∀ token ∈ front, token ∈ quietSwitches)
    {name : String} {subcommand : Subcommand} (hname : subcommands.lookup name = some subcommand)
    (args : List String) :
    ∃ journal, run world (front ++ name :: args) =
      runSubcommand { world with journal := journal } args subcommand := by
  obtain ⟨hoption, hmark⟩ := not_looksLikeOption_of_lookup hname
  obtain ⟨verbose, hread⟩ := readSwitches_quiet hfront hoption hmark args
  obtain ⟨journal, hconfigured⟩ := configured_eq world verbose
  exact ⟨journal, by simp only [run, hread, hname, hconfigured]⟩

end Group

namespace Compile

theorem finish_result {world other : World} (hdisk : other.disk = world.disk) (request : Arguments.Compile)
    (model : Model) : (finish other request model).result = (finish world request model).result := by
  rw [finish_elsewhere hdisk]
  rfl

theorem compileSource_result [Codecs] {world other : World} (hdisk : other.disk = world.disk)
    (hstdin : other.stdin = world.stdin) (loader : Loader) (request : Arguments.Compile) :
    (compileSource other loader request).result = (compileSource world loader request).result := by
  simp only [compileSource, World.logged, hdisk, hstdin]
  cases (loader.compileFile world.disk world.stdin request.source).1.result with
  | error fault => rfl
  | ok model =>
    show (finish _ request model).result = (finish _ request model).result
    apply finish_result
    rfl

theorem perform_result [Codecs] (world : World) (request : Arguments.Compile) (journal other : Journal) :
    (perform { world with journal := journal } request).result =
      (perform { world with journal := other } request).result := by
  simp only [perform, World.logged]
  cases settingsFor world.environment request with
  | error fault => rfl
  | ok settings =>
    simp only
    cases (Loader.create world.registry none settings world.imports).1.result with
    | error fault => rfl
    | ok prepared =>
      show (compileSource _ _ request).result = (compileSource _ _ request).result
      apply compileSource_result <;> rfl

/-- A command that is asked for the document and is done has shown one with the value of the model's. -/
theorem finish_shows {world : World} {request : Arguments.Compile} {model : Model} (hjson : request.json = true)
    (h : (finish world request model).result = .ok ()) :
    ∃ written value, document model = .ok written ∧ Json.read Console.documentLimits written = .ok value ∧
      (finish world request model).output = value.write .raw ++ "\n" := by
  have hfinish : finish world request model =
      (writeOutput world request.output model).bind fun world => printModel world model := by
    simp only [finish, hjson, if_true]
  cases hwritten : (writeOutput world request.output model).result with
  | error fault =>
    rw [hfinish, bind_of_error hwritten, hwritten] at h
    cases h
  | ok done =>
    obtain ⟨hlast, houtputs, -⟩ := bind_of_ok (fun world => printModel world model) hwritten
    rcases printModel_cases (writeOutput world request.output model).world model with
      ⟨fault, hfault, -⟩ | ⟨written, value, hdocument, hread, hprint⟩
    · rw [hfinish, hlast, hfault] at h
      cases h
    · refine ⟨written, value, hdocument, hread, ?_⟩
      rw [hfinish, houtputs, writeOutput_output, hprint]
      exact String.empty_append

end Compile

namespace Exit

/-- What leaves the command line is decided by how the run ends. -/
theorem fault_of_result {run other : Run} (h : run.result = other.result) :
    (conclude run).fault = (conclude other).fault := by
  have hfault : ∀ (run : Run) (fault : Fault), (withFault run fault).fault = some (leaving fault) := by
    intro run fault
    unfold withFault
    simp only
    split <;> rfl
  unfold conclude
  rw [h]
  cases other.result with
  | ok done => rfl
  | error fault => exact (hfault run fault).trans (hfault other fault).symm

theorem result_of_fault_eq_none {run : Run} (h : (conclude run).fault = none) : run.result = .ok () := by
  cases hresult : run.result with
  | ok done => rfl
  | error fault => exact absurd h (fault_ne_none hresult)

end Exit

namespace Group

section

variable [Codecs]

/-- A subcommand comes to the same with another journal. -/
theorem runSubcommand_journal (world : World) (args : List String) (subcommand : Subcommand)
    (journal other : Journal) :
    let first := runSubcommand { world with journal := journal } args subcommand
    let second := runSubcommand { world with journal := other } args subcommand
    first.Alike second ∧ first.result = second.result := by
  cases subcommand with
  | extensions =>
    have hsame : runExtensions { world with journal := other } args =
        (runExtensions { world with journal := journal } args).within world.registry other :=
      runExtensions_within { world with journal := journal } world.registry other args
    simp only [runSubcommand, hsame]
    exact ⟨Run.alike_within _ world.registry other, rfl⟩
  | compile =>
    constructor
    · have hsilent : world.registry.silent false = world.registry.silent false := rfl
      exact Compile.run_alike hsilent fun _ _ hlenient => by cases hlenient
    · simp only [runSubcommand, Compile.run]
      cases Arguments.read world.disk args with
      | error fault => rfl
      | ok reading =>
        cases reading with
        | help => rfl
        | compile request => exact Compile.perform_result world request journal other

/-- What is shown is one document, with the value of the document of the model. -/
def ShowsDocument (world : World) (request : Arguments.Compile) (run : Run) : Prop :=
  ∃ model written shown value, Compile.Returns world request model ∧
    Compile.document model = .ok written ∧ run.output = shown ++ "\n" ∧
    Json.read Console.documentLimits written = .ok value ∧ Json.read Console.documentLimits shown = .ok value

theorem showsDocument_of_ok {world : World} {request : Arguments.Compile} (hjson : request.json = true)
    (h : (Compile.perform world request).result = .ok ()) :
    ShowsDocument world request (Compile.perform world request) := by
  rcases Compile.perform_cases world request with ⟨fault, hstopped⟩ | ⟨model, hreturns⟩
  · rw [hstopped.result] at h
    cases h
  · obtain ⟨begun, calls, records, -, hperform⟩ := Compile.perform_of_returns hreturns
    rw [hperform] at h
    obtain ⟨written, value, hdocument, hread, houtput⟩ := Compile.finish_shows hjson h
    refine ⟨model, written, value.write .raw, value, hreturns, hdocument, ?_, hread,
      Json.read_write_of_read .raw hread⟩
    rw [hperform]
    exact houtput

/-- Switches that set the log and the colours make no difference but to what is logged, however the
command line ends. A document that is asked for is all that is shown. -/
theorem switches_make_no_difference (world : World) {front : List String}
    (hfront : ∀ token ∈ front, token ∈ quietSwitches) {name : String} (hname : (subcommands.lookup name).isSome)
    (args : List String) :
    let switched := run world (front ++ name :: args)
    let plain := run world (name :: args)
    Exit.SameForUser switched plain ∧ (Exit.conclude switched).fault = (Exit.conclude plain).fault ∧
      ∀ request, name = "compile" → Arguments.read world.disk args = .ok (.compile request) →
        request.json = true → (Exit.conclude switched).fault = none → ShowsDocument world request switched := by
  intro switched plain
  obtain ⟨subcommand, hsubcommand⟩ := Option.isSome_iff_exists.mp hname
  obtain ⟨journal, hswitched⟩ := run_of_quiet world hfront hsubcommand args
  obtain ⟨other, hplain⟩ := run_of_quiet world (List.forall_mem_nil _) hsubcommand args
  obtain ⟨halike, hresult⟩ := runSubcommand_journal world args subcommand journal other
  have hplain : plain = runSubcommand { world with journal := other } args subcommand := hplain
  rw [← hplain, ← hswitched] at halike hresult
  refine ⟨Exit.sameForUser_of_alike halike, Exit.fault_of_result hresult, ?_⟩
  rintro request rfl hread hjson hfault
  obtain rfl : subcommand = .compile := Option.some.inj (hsubcommand.symm.trans (by decide))
  have hperform : switched = Compile.perform { world with journal := journal } request := by
    simp only [switched, hswitched, runSubcommand, Compile.run, hread]
  have hdone := Exit.result_of_fault_eq_none hfault
  rw [hperform] at hdone ⊢
  exact showsDocument_of_ok hjson hdone

end

def shownArgs : List String := ["-.cql", "-c", "fx:make", "--json"]

def shownRequest : Arguments.Compile := ⟨"-.cql", some "fx:make", none, none, true⟩

/-- Of a model whose two keys are spelled alike one document is shown, with every switch. -/
theorem document_shown_with_switches :
    let switched := run spelledAlikeWorld (["-v", "--no-color", "--verbose"] ++ "compile" :: shownArgs)
    (Exit.conclude switched).fault = none ∧ ShowsDocument spelledAlikeWorld shownRequest switched := by
  intro switched
  have hfront : readSwitches ("compile" :: shownArgs) = .ok (.tokens false ("compile" :: shownArgs)) := rfl
  have hrest : Arguments.read spelledAlikeWorld.disk shownArgs = .ok (.compile shownRequest) := rfl
  have hread : Json.read Console.documentLimits (spelledAlikeJson.write .ascii) = .ok _ :=
    Json.read_write .ascii ⟨_, rfl, trivial, trivial, trivial⟩
  have hreturns : Compile.Returns spelledAlikeWorld shownRequest spelledAlike := ⟨_, _, _, rfl, rfl, rfl, rfl⟩
  have hplain : (Exit.conclude (run spelledAlikeWorld ("compile" :: shownArgs))).fault = none := by
    obtain ⟨begun, calls, records, -, hrun⟩ := run_of_returns hfront hrest hreturns
    have hdone : (Compile.finish begun shownRequest spelledAlike).result = .ok () := by
      simp only [Compile.finish, Compile.writeOutput, shownRequest, World.stop, Run.bind, if_true,
        Compile.printModel, spelledAlike_document, bind, Except.bind, Console.printJson, hread, World.printLine,
        Console.Printed.plain, World.print]
    have hresult : ((Compile.finish begun shownRequest spelledAlike).after calls records).result = .ok () := hdone
    rw [hrun, Exit.conclude_of_ok hresult]
  obtain ⟨-, hfault, hshows⟩ :=
    switches_make_no_difference spelledAlikeWorld
      (show ∀ token ∈ ["-v", "--no-color", "--verbose"], token ∈ quietSwitches by decide)
      (show (subcommands.lookup "compile").isSome by decide) shownArgs
  exact ⟨hfault.trans hplain, hshows shownRequest rfl hrest rfl (hfault.trans hplain)⟩

end Group

end FactIntake
