import FactIntake.Proofs.OutputFile
import FactIntake.Proofs.ReadDocuments
import FactIntake.Proofs.SentinelPlaces
import FactIntake.Proofs.Utf8Text

/-!
What the compile command shows of a model that it has written. The console reads the document that is
in the file and writes its value again, with other escapes and without repeated keys; what it shows is
one document with the value that the file holds, and nothing else is shown. A fault may ask for a good end
of the process as well; such a fault has come before there was a model.
-/

namespace FactIntake.Exit

variable {run : Run} {fault : Fault}

theorem conclude_of_ok (h : run.result = .ok ()) :
    conclude run = ⟨none, 0, run.output, run.records, none⟩ := by
  simp only [conclude, h]

theorem bad_leaving (h : Bad fault) : Bad (leaving fault) := by
  unfold leaving
  split
  · exact bad_of_one rfl rfl
  · split
    · exact bad_of_one rfl rfl
    · exact h

/-- A fault that counts as a bad end does not end a run well. -/
theorem exitCode_ne_zero (h : run.result = .error fault) (hbad : Bad fault) :
    (conclude run).exitCode ≠ 0 := by
  simp only [conclude, h, withFault]
  split <;> exact (bad_leaving hbad).code

theorem bad_markupFault (flaw : Console.MarkupFault) : Bad (Console.markupFault flaw) := by
  cases flaw <;> exact bad_of_one rfl rfl

/-- That a line cannot be shown counts as a bad end. -/
theorem bad_of_unshown {broken : Fault} (h : (shown fault).text = .error broken) : Bad broken := by
  have herror : ∀ message, (Console.error message).text = .error broken → Bad broken := by
    intro message herror
    unfold Console.error Console.markupLine at herror
    obtain ⟨flaw, -, rfl⟩ := Results.mapError_eq_error_iff.mp herror
    exact bad_markupFault flaw
  unfold shown at h
  split at h
  · exact herror _ h
  · cases h

/-- A fault with which a process ends well asks for that itself, and its line is all that it shows. -/
theorem asks_of_status_zero (h : run.result = .error fault) (hstatus : (conclude run).status = 0) :
    (conclude run).fault = some (leaving fault) ∧ statusOf (leaving fault) = 0 ∧
      ∃ line, (shown (leaving fault)).text = .ok line ∧ (conclude run).output = run.output ++ line := by
  simp only [conclude, h, withFault, Concluded.status] at hstatus ⊢
  cases htext : (shown (leaving fault)).text with
  | ok line =>
    simp only [htext] at hstatus ⊢
    exact ⟨trivial, hstatus, line, rfl, rfl⟩
  | error broken =>
    simp only [htext] at hstatus
    exact absurd hstatus (bad_of_unshown htext).status

theorem fault_ne_none (h : run.result = .error fault) : (conclude run).fault ≠ none := by
  simp only [conclude, h, withFault]
  split <;> simp

end FactIntake.Exit

namespace FactIntake.Compile

open PlainPath

theorem bad_documentFault (document : String) (unread : Json.Unread) :
    Exit.Bad (Console.documentFault document unread) := by
  cases unread <;> exact Exit.bad_of_one rfl rfl

/-- The console shows the value of the document of a model, or ends the command. -/
theorem printModel_cases (world : World) (model : Model) :
    (∃ fault, (printModel world model).result = .error fault ∧ Exit.Bad fault) ∨
    ∃ text value, document model = .ok text ∧ Json.read Console.documentLimits text = .ok value ∧
      printModel world model = world.print (value.write .raw ++ "\n") := by
  cases hdocument : document model with
  | error fault =>
    refine Or.inl ⟨fault, ?_, bad_of_document hdocument⟩
    simp only [printModel, hdocument, bind, Except.bind, World.printLine, Console.Printed.plain]
    rfl
  | ok text =>
    cases hread : Json.read Console.documentLimits text with
    | error unread =>
      refine Or.inl ⟨_, ?_, bad_documentFault text unread⟩
      simp only [printModel, hdocument, bind, Except.bind, World.printLine, Console.Printed.plain,
        Console.printJson, hread]
      rfl
    | ok value =>
      refine Or.inr ⟨text, value, rfl, hread, ?_⟩
      simp only [printModel, hdocument, bind, Except.bind, World.printLine, Console.Printed.plain,
        Console.printJson, hread, List.map_nil]
      rfl

/-- A command that is done has shown the value of the document that it has written. -/
structure ShowsWritten (run : Run) (path : PlainPath) (model : Model) (text : String) (value : Json) :
    Prop where
  result : run.result = .ok ()
  document : document model = .ok text
  written : run.world.disk.read path.display = .ok (Encoding.Utf8.encode text.toList)
  holds : Json.read Console.documentLimits text = .ok value
  output : run.output = value.write .raw ++ "\n"

theorem bind_of_ok {run : Run} (next : World → Run) (h : run.result = .ok ()) :
    (run.bind next).result = (next run.world).result ∧
      (run.bind next).output = run.output ++ (next run.world).output ∧
      (run.bind next).world = (next run.world).world := by
  simp [Run.bind, h]

theorem bind_of_error {run : Run} {next : World → Run} {fault : Fault} (h : run.result = .error fault) :
    run.bind next = run := by
  simp only [Run.bind, h]

theorem finish_cases (world : World) {request : Arguments.Compile} {path : String}
    (houtput : request.output = some path) (hjson : request.json = true) (model : Model) :
    (∃ fault, (finish world request model).result = .error fault ∧ Exit.Bad fault) ∨
    ∃ text value, ShowsWritten (finish world request model) (ofString path) model text value := by
  have hfinish : finish world request model =
      (writeModel world path model).bind fun world => printModel world model := by
    simp only [finish, writeOutput, houtput, hjson, if_true]
  rw [hfinish]
  rcases writeModel_cases world path model with ⟨fault, hresult, hcode, -⟩ |
    ⟨text, hresult, hsilent, hdocument, -, hwrite⟩
  · exact Or.inl ⟨fault, by rw [bind_of_error hresult, hresult], hcode⟩
  · obtain ⟨hlast, houtputs, hworld⟩ := bind_of_ok (fun world => printModel world model) hresult
    rcases printModel_cases (writeModel world path model).world model with ⟨fault, hprint, hcode⟩ |
      ⟨shown, value, hshown, hvalue, hprint⟩
    · exact Or.inl ⟨fault, hlast.trans hprint, hcode⟩
    · -- The file and the console are given the same document.
      obtain rfl : text = shown := Except.ok.inj (hdocument.symm.trans hshown)
      rw [hprint] at hlast houtputs hworld
      refine Or.inr ⟨text, value, hlast, hdocument, ?_, hvalue, ?_⟩
      · rw [hworld]
        exact Disk.read_of_write hwrite
      · rw [houtputs, hsilent]
        exact String.empty_append

/-- Nothing else hinders a command whose file can be written and whose document can be read. -/
theorem finish_of_written {world : World} {request : Arguments.Compile} {path : String} {model : Model}
    (houtput : request.output = some path) (hjson : request.json = true)
    (hmade : (make world.disk (ofString path).parent).result = .ok ()) {text : String}
    (hdocument : document model = .ok text) {after : Disk}
    (hwrite : (make world.disk (ofString path).parent).disk.write (ofString path).display
      (Encoding.Utf8.encode text.toList) = .ok after)
    {value : Json} (hread : Json.read Console.documentLimits text = .ok value) :
    (finish world request model).result = .ok () := by
  simp only [finish, writeOutput, houtput, writeModel, hmade, hdocument, hwrite, hjson, if_true,
    World.stop, Run.bind, printModel, bind, Except.bind, Console.printJson, hread, World.printLine,
    Console.Printed.plain, World.print]

end FactIntake.Compile

namespace FactIntake.Group

open PlainPath

variable {world : World} {args rest : List String} {verbose : Bool} {request : Arguments.Compile}
  {path : String}

/-- With a model a command line goes on to write and to show it. -/
theorem run_of_returns [Codecs] (hfront : readSwitches args = .ok (.tokens verbose ("compile" :: rest)))
    (hrest : Arguments.read world.disk rest = .ok (.compile request))
    {model : Model} (hreturns : Compile.Returns world request model) :
    ∃ begun calls records, begun.disk = world.disk ∧
      run world args = (Compile.finish begun request model).after calls records := by
  obtain ⟨journal, hrun⟩ := run_eq_perform hfront hrest
  have hreturned : Compile.Returns { world with journal := journal } request model := hreturns
  obtain ⟨begun, calls, records, hdisk, hperform⟩ := Compile.perform_of_returns hreturned
  exact ⟨begun, calls, records, hdisk, hrun.trans hperform⟩

/-- A command line that asks for a file and for the document itself, and of which the process ends well.
Without a fault there is a model; and whatever the model, all that is shown is one document, and that
has the value of the document in the file. A fault asks for such an end itself; it has come before there
was a model, nothing is written, and its own line is all that is shown. -/
theorem run_shows_written [Codecs] (hfront : readSwitches args = .ok (.tokens verbose ("compile" :: rest)))
    (hrest : Arguments.read world.disk rest = .ok (.compile request))
    (houtput : request.output = some path) (hjson : request.json = true)
    (hstatus : (Exit.conclude (run world args)).status = 0) :
    ((Exit.conclude (run world args)).fault = none →
      ∃ model, Compile.Returns world request model ∧
        ∃ bytes written shown value, Compile.document model = .ok written ∧
          (run world args).world.disk.read (ofString path).display = .ok bytes ∧
          Encoding.Utf8.decode bytes = .ok written.toList ∧
          (Exit.conclude (run world args)).output = shown ++ "\n" ∧
          Json.read Console.documentLimits written = .ok value ∧
          Json.read Console.documentLimits shown = .ok value) ∧
    ∀ fault, (Exit.conclude (run world args)).fault = some fault →
      Exit.statusOf fault = 0 ∧ (∀ model, ¬ Compile.Returns world request model) ∧
        (run world args).world.disk = world.disk ∧
        (Exit.shown fault).text = .ok (Exit.conclude (run world args)).output := by
  obtain ⟨journal, hrun⟩ := run_eq_perform hfront hrest
  -- A fault of writing or of showing is a bad end, so with a model both are done.
  have hdone : ∀ model, Compile.Returns world request model → ∃ text value,
      Compile.ShowsWritten (run world args) (ofString path) model text value := by
    intro model hreturns
    have hreturned : Compile.Returns { world with journal := journal } request model := hreturns
    obtain ⟨begun, calls, records, -, hperform⟩ := Compile.perform_of_returns hreturned
    rw [hrun, hperform] at hstatus ⊢
    rcases Compile.finish_cases begun houtput hjson model with ⟨fault, hresult, hbad⟩ | ⟨text, value, hshows⟩
    · have hleaves : ((Compile.finish begun request model).after calls records).result = .error fault := hresult
      exact absurd (Exit.asks_of_status_zero hleaves hstatus).2.1 (Exit.bad_leaving hbad).status
    · exact ⟨text, value, hshows.result, hshows.document, hshows.written, hshows.holds, hshows.output⟩
  constructor
  · intro hfault
    rcases Compile.perform_cases { world with journal := journal } request with
      ⟨fault, hstopped⟩ | ⟨model, hreturns⟩
    · rw [← hrun] at hstopped
      exact absurd hfault (Exit.fault_ne_none hstopped.result)
    · obtain ⟨text, value, hshows⟩ := hdone model hreturns
      refine ⟨model, hreturns, _, text, value.write .raw, value, hshows.document, hshows.written,
        Encoding.Utf8.decode_encode text.toList, ?_, hshows.holds, Json.read_write_of_read .raw hshows.holds⟩
      rw [Exit.conclude_of_ok hshows.result]
      exact hshows.output
  · intro fault hfault
    have hnone : ∀ model, ¬ Compile.Returns world request model := by
      intro model hreturns
      obtain ⟨text, value, hshows⟩ := hdone model hreturns
      rw [Exit.conclude_of_ok hshows.result] at hfault
      cases hfault
    rcases Compile.perform_cases { world with journal := journal } request with
      ⟨met, hstopped⟩ | ⟨model, hreturns⟩
    · rw [← hrun] at hstopped
      obtain ⟨hleaves, hasks, line, hline, hshown⟩ := Exit.asks_of_status_zero hstopped.result hstatus
      obtain rfl := Option.some.inj (hleaves.symm.trans hfault)
      rw [hstopped.output, String.empty_append] at hshown
      exact ⟨hasks, hnone, hstopped.disk, hline.trans (congrArg Except.ok hshown.symm)⟩
    · exact absurd hreturns (hnone model)

/-- A model whose two keys are spelled alike. -/
def spelledAlike : Model := .mapping [(.int 1, .float .nan), (.text "1", .text "é")]

def spelledAlikeJson : Json := .object [("1", .float .nan), ("1", .text "é")]

def spelledAlikeOnly : Registry := fun name =>
  if name == "fx" then
    some ⟨false, [("make", ⟨"constant", none, [], some (Samples.constant spelledAlike)⟩)], .quiet⟩
  else none

def spelledAlikeWorld : World := modulesOnly spelledAlikeOnly

def spelledAlikeArgs : List String := ["compile", "-.cql", "-c", "fx:make", "-o", "model.json", "--json"]

def spelledAlikeRequest : Arguments.Compile := ⟨"-.cql", some "fx:make", some "model.json", none, true⟩

theorem spelledAlike_document : Compile.document spelledAlike = .ok (spelledAlikeJson.write .ascii) := rfl

theorem spelledAlike_vacant : spelledAlikeWorld.disk.find true "model.json" = .ok (.vacant [] "model.json") := by
  have hsteps : Disk.steps "model.json" = ["model.json"] := by decide
  rw [Disk.find, if_neg (by decide), if_neg (by decide), hsteps, Disk.walk]
  rfl

theorem spelledAlike_checkOutput :
    Arguments.checkOutput spelledAlikeWorld.disk (some "model.json") = .ok () := by
  have hfile : spelledAlikeWorld.disk.isDirectory "model.json" = false := by
    simp only [Disk.isDirectory, spelledAlike_vacant]
  simp only [Arguments.checkOutput, hfile]
  rfl

/-- The file holds the key twice, the console shows it once, and both mean the last of the two values. -/
theorem spelled_alike_shown_written :
    (Exit.conclude (run spelledAlikeWorld spelledAlikeArgs)).status = 0 ∧
    ∃ model, Compile.Returns spelledAlikeWorld spelledAlikeRequest model ∧
      ∃ bytes written shown value, Compile.document model = .ok written ∧
        (run spelledAlikeWorld spelledAlikeArgs).world.disk.read "model.json" = .ok bytes ∧
        Encoding.Utf8.decode bytes = .ok written.toList ∧
        (Exit.conclude (run spelledAlikeWorld spelledAlikeArgs)).output = shown ++ "\n" ∧
        Json.read Console.documentLimits written = .ok value ∧
        Json.read Console.documentLimits shown = .ok value := by
  have hfront : readSwitches spelledAlikeArgs = .ok (.tokens false spelledAlikeArgs) := rfl
  have hrest : Arguments.read spelledAlikeWorld.disk spelledAlikeArgs.tail =
      .ok (.compile spelledAlikeRequest) :=
    Arguments.readPlain_eq_ok_iff.mpr
      ⟨_, rfl, Arguments.check_eq_compile_iff.mpr ⟨rfl, spelledAlike_checkOutput, rfl, rfl, rfl⟩⟩
  have hread : Json.read Console.documentLimits (spelledAlikeJson.write .ascii) = .ok _ :=
    Json.read_write .ascii ⟨_, rfl, trivial, trivial, trivial⟩
  have hreturns : Compile.Returns (configured spelledAlikeWorld false) spelledAlikeRequest spelledAlike :=
    ⟨_, _, _, rfl, rfl, rfl, rfl⟩
  have hresult : (run spelledAlikeWorld spelledAlikeArgs).result = .ok () := by
    obtain ⟨begun, calls, records, hdisk, hperform⟩ := Compile.perform_of_returns hreturns
    have hmade : make begun.disk (ofString "model.json").parent = ⟨.ok (), spelledAlikeWorld.disk⟩ := by
      rw [hdisk]
      rfl
    obtain ⟨after, hwrite⟩ : ∃ after, (make begun.disk (ofString "model.json").parent).disk.write "model.json"
        (Encoding.Utf8.encode (spelledAlikeJson.write .ascii).toList) = .ok after := by
      rw [hmade]
      exact ⟨_, Disk.write_of_vacant spelledAlike_vacant _⟩
    have hdone : (Compile.finish begun spelledAlikeRequest spelledAlike).result = .ok () :=
      Compile.finish_of_written rfl rfl (congrArg Attempt.result hmade) spelledAlike_document hwrite hread
    rw [run_eq hfront hrest, hperform]
    exact hdone
  have hconcluded := Exit.conclude_of_ok hresult
  have hstatus : (Exit.conclude (run spelledAlikeWorld spelledAlikeArgs)).status = 0 := by rw [hconcluded]; rfl
  have hfault : (Exit.conclude (run spelledAlikeWorld spelledAlikeArgs)).fault = none := by rw [hconcluded]
  exact ⟨hstatus, (run_shows_written hfront hrest rfl rfl hstatus).1 hfault⟩

/-- A module with a compiler that ends the program and asks for the status of one that went well. -/
def exitingOnly : Registry := fun name =>
  if name == "fx" then
    some ⟨false, [("make", ⟨"raise", none, [], some (Samples.failing (.general "SystemExit" [.int 0]))⟩)], .quiet⟩
  else none

/-- The process ends well, and still there is no document: neither on standard output nor in a file. -/
theorem ended_well_without_document :
    (Exit.conclude (run (modulesOnly exitingOnly) spelledAlikeArgs)).status = 0 ∧
    (∀ shown, (Exit.conclude (run (modulesOnly exitingOnly) spelledAlikeArgs)).output ≠ shown ++ "\n") ∧
    (run (modulesOnly exitingOnly) spelledAlikeArgs).world.disk = (modulesOnly exitingOnly).disk := by
  have hfront : readSwitches spelledAlikeArgs = .ok (.tokens false spelledAlikeArgs) := rfl
  have hrest : Arguments.read (modulesOnly exitingOnly).disk spelledAlikeArgs.tail =
      .ok (.compile spelledAlikeRequest) :=
    Arguments.readPlain_eq_ok_iff.mpr
      ⟨_, rfl, Arguments.check_eq_compile_iff.mpr ⟨rfl, spelledAlike_checkOutput, rfl, rfl, rfl⟩⟩
  obtain ⟨hresult, houtput, hdisk⟩ : Compile.Stopped (modulesOnly exitingOnly)
      (Compile.perform (configured (modulesOnly exitingOnly) false) spelledAlikeRequest)
      (.general "SystemExit" [.int 0]) := ⟨rfl, rfl, rfl⟩
  rw [run_eq hfront hrest]
  refine ⟨?_, fun shown hshown => ?_, hdisk⟩
  · simp only [Exit.conclude, hresult]
    rfl
  · have hempty : (Exit.conclude (Compile.perform (configured (modulesOnly exitingOnly) false)
        spelledAlikeRequest)).output = "" := by
      simp only [Exit.conclude, hresult, Exit.withFault, houtput]
      rfl
    rw [hempty] at hshown
    simpa using congrArg String.toList hshown

end FactIntake.Group
