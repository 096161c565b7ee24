import FactIntake.Proofs.DiskAlone
import FactIntake.Proofs.EntryPoints
import FactIntake.Proofs.JsonOutput
import FactIntake.Proofs.SuccessLines

/-!
What a command says that has compiled its source and written the model, if it is not asked for the
document. The paths are put into lines of good news, where they are markup like the rest of the line. So
what was done is told truly if and only if nothing in the paths is markup, is dropped by the console or
is filled up.
-/

namespace FactIntake

theorem Run.bind_stop (run : Run) : (run.bind fun world => world.stop (.ok ())) = run := by
  obtain ⟨result, output, calls, records, world⟩ := run
  cases result with
  | error fault => rfl
  | ok done => simp [bind, World.stop]

namespace Compile

open Console

variable {world : World} {request : Arguments.Compile} {model : Model} {lines : List String}

/-- What a command says when it is done. -/
def reports (request : Arguments.Compile) : List String :=
  ("Compiled " ++ request.source) :: (request.output.map ("Model written to " ++ ·)).toList

theorem printLine_of_shown {message line : String} (world : World) (h : (success message).text = .ok line) :
    (world.printLine (success message)).result = .ok () ∧ (world.printLine (success message)).output = line := by
  simp only [World.printLine, h]
  exact ⟨rfl, rfl⟩

/-- A line that cannot be shown ends the command. -/
theorem printLine_cases (world : World) (message : String) :
    (∃ line, (success message).text = .ok line) ∨
      ∃ fault, (world.printLine (success message)).result = .error fault ∧ Exit.Bad fault := by
  cases htext : (success message).text with
  | ok line => exact Or.inl ⟨line, rfl⟩
  | error fault =>
    refine Or.inr ⟨fault, by simp only [World.printLine, htext]; rfl, ?_⟩
    rw [success_eq, text_markupLine] at htext
    cases hrender : ((render (sign ++ ' ' :: message.toList)).run #[]).1 with
    | ok shown =>
      rw [hrender] at htext
      cases htext
    | error flaw =>
      rw [hrender] at htext
      obtain rfl := Except.error.inj htext
      exact Exit.bad_markupFault flaw

/-- Says messages one after the other. -/
def say (world : World) : List String → Run
  | [] => world.stop (.ok ())
  | message :: later => (world.printLine (success message)).bind fun world => say world later

theorem announce_eq_say (world : World) (request : Arguments.Compile) :
    announce world request = say world (reports request) := by
  unfold announce reports
  congr 1
  funext world
  cases request.output with
  | none => rfl
  | some path => exact (Run.bind_stop _).symm

theorem say_of_shown {messages : List String} (world : World) (h : ShownAs messages lines) :
    (say world messages).result = .ok () ∧ (say world messages).output = String.join lines := by
  induction h generalizing world with
  | nil => exact ⟨rfl, rfl⟩
  | cons hline _ ih =>
    obtain ⟨hresult, houtput⟩ := printLine_of_shown world hline
    obtain ⟨hlast, hall, -⟩ := bind_of_ok (say · _) hresult
    obtain ⟨hresultLater, houtputLater⟩ := ih (world.printLine (success _)).world
    refine ⟨hlast.trans hresultLater, ?_⟩
    rw [String.join_cons, ← houtput, ← houtputLater]
    exact hall

/-- All the messages are shown, or one of them ends the command. -/
theorem say_cases (world : World) (messages : List String) :
    (∃ lines, ShownAs messages lines) ∨
      ∃ fault, (say world messages).result = .error fault ∧ Exit.Bad fault := by
  induction messages generalizing world with
  | nil => exact Or.inl ⟨[], .nil⟩
  | cons message later ih =>
    rcases printLine_cases world message with ⟨line, hline⟩ | ⟨fault, hfault, hcode⟩
    · obtain ⟨hresult, -⟩ := printLine_of_shown world hline
      obtain ⟨hlast, -⟩ := bind_of_ok (say · later) hresult
      rcases ih (world.printLine (success message)).world with ⟨lines, hlines⟩ | ⟨fault, hfault, hcode⟩
      · exact Or.inl ⟨line :: lines, .cons hline hlines⟩
      · exact Or.inr ⟨fault, hlast.trans hfault, hcode⟩
    · exact Or.inr ⟨fault, by rw [say, bind_of_error hfault, hfault], hcode⟩

theorem finish_says (hjson : request.json = false)
    (hwritten : (writeOutput world request.output model).result = .ok ()) :
    ∃ later, (finish world request model).result = (say later (reports request)).result ∧
      (finish world request model).output = (say later (reports request)).output := by
  have hfinish : finish world request model =
      (writeOutput world request.output model).bind fun world => say world (reports request) := by
    simp only [finish, hjson, Bool.false_eq_true, if_false, announce_eq_say]
  obtain ⟨hresult, houtput, -⟩ := bind_of_ok (say · (reports request)) hwritten
  refine ⟨_, hfinish ▸ hresult, ?_⟩
  rw [hfinish, houtput, writeOutput_output]
  exact String.empty_append

/-- What is said of the paths if they are shown as they are. -/
def report (request : Arguments.Compile) : String :=
  "✓ Compiled " ++ request.source ++ "\n" ++
    match request.output with
    | some path => "✓ Model written to " ++ path ++ "\n"
    | none => ""

theorem verbatimLines_reports (request : Arguments.Compile) :
    verbatimLines (reports request) = report request := by
  unfold reports report
  apply String.toList_inj.mp
  cases request.output <;> simp [verbatimLines, verbatimLine]

/-- The words around the paths mean nothing to the console. -/
theorem verbatim_reports_iff (request : Arguments.Compile) :
    (∀ message ∈ reports request, Verbatim message.toList) ↔
      Verbatim request.source.toList ∧ ∀ path, request.output = some path → Verbatim path.toList := by
  have hsource : Verbatim ("Compiled " ++ request.source).toList ↔ Verbatim request.source.toList := by
    rw [String.toList_append]
    exact verbatim_append_iff (by decide) (by decide)
  have hpath : ∀ path : String, Verbatim ("Model written to " ++ path).toList ↔ Verbatim path.toList := by
    intro path
    rw [String.toList_append]
    exact verbatim_append_iff (by decide) (by decide)
  rw [reports, List.forall_mem_cons, hsource]
  refine and_congr_right' ?_
  cases request.output with
  | none => simp
  | some path =>
    simp only [Option.map_some, Option.toList_some, List.forall_mem_singleton, hpath, Option.some.injEq,
      forall_eq']

/-- A command with a model that it can write says what it has done, and ends well, exactly if its paths
are shown as they are. -/
theorem finish_reports_iff (hjson : request.json = false)
    (hwritten : (writeOutput world request.output model).result = .ok ()) (calls : List Call)
    (records : List Record) :
    ((Exit.conclude ((finish world request model).after calls records)).exitCode = 0 ∧
        (Exit.conclude ((finish world request model).after calls records)).output = report request) ↔
      Verbatim request.source.toList ∧ ∀ path, request.output = some path → Verbatim path.toList := by
  obtain ⟨later, hresult, houtput⟩ := finish_says hjson hwritten
  have hended : ((finish world request model).after calls records).result = (say later (reports request)).result :=
    hresult
  have hshown : ((finish world request model).after calls records).output = (say later (reports request)).output :=
    houtput
  rw [← verbatim_reports_iff, ← shown_verbatim_iff, verbatimLines_reports]
  constructor
  · rintro ⟨hcode, hreport⟩
    rcases say_cases later (reports request) with ⟨lines, hlines⟩ | ⟨fault, hfault, hbad⟩
    · obtain ⟨hok, hjoin⟩ := say_of_shown later hlines
      rw [Exit.conclude_of_ok (hended.trans hok)] at hreport
      exact ⟨lines, hlines, hjoin.symm.trans (hshown.symm.trans hreport)⟩
    · exact absurd hcode (Exit.exitCode_ne_zero (hended.trans hfault) hbad)
  · rintro ⟨lines, hlines, hreport⟩
    obtain ⟨hok, hjoin⟩ := say_of_shown later hlines
    rw [Exit.conclude_of_ok (hended.trans hok)]
    exact ⟨rfl, hshown.trans (hjoin.trans hreport)⟩

end Compile

namespace Group

variable {world : World} {args rest : List String} {verbose : Bool} {request : Arguments.Compile} {model : Model}

/-- A command line with a model that can be written ends well and tells what was compiled, and where to,
exactly if the console shows both paths as they are. -/
theorem reported_iff_verbatim [Codecs] (hfront : readSwitches args = .ok (.tokens verbose ("compile" :: rest)))
    (hrest : Arguments.read world.disk rest = .ok (.compile request)) (hjson : request.json = false)
    (hreturns : Compile.Returns world request model)
    (hwritten : ∀ path, request.output = some path → (Compile.writeModel world path model).result = .ok ()) :
    ((Exit.conclude (run world args)).exitCode = 0 ∧
        (Exit.conclude (run world args)).output = Compile.report request) ↔
      Console.Verbatim request.source.toList ∧
        ∀ path, request.output = some path → Console.Verbatim path.toList := by
  obtain ⟨begun, calls, records, hdisk, hrun⟩ := run_of_returns hfront hrest hreturns
  have hdone : (Compile.writeOutput begun request.output model).result = .ok () := by
    cases houtput : request.output with
    | none => rfl
    | some path =>
      rw [Compile.writeOutput_elsewhere hdisk]
      simp only [Run.elsewhere, Compile.writeOutput, hwritten path houtput]
  rw [hrun]
  exact Compile.finish_reports_iff hjson hdone calls records

def numberedArgs : List String := ["compile", "[1]/-.cql", "-c", "fx:make", "-o", "model.json"]

def numberedRequest : Arguments.Compile := ⟨"[1]/-.cql", some "fx:make", some "model.json", none, false⟩

/-- Brackets around a number are no tag. -/
theorem numbered_source_reported :
    (Exit.conclude (run spelledAlikeWorld numberedArgs)).exitCode = 0 ∧
    (Exit.conclude (run spelledAlikeWorld numberedArgs)).output =
      "✓ Compiled [1]/-.cql\n✓ Model written to model.json\n" := by
  have hfront : readSwitches numberedArgs = .ok (.tokens false numberedArgs) := rfl
  have hrest : Arguments.read spelledAlikeWorld.disk numberedArgs.tail = .ok (.compile numberedRequest) :=
    Arguments.readPlain_eq_ok_iff.mpr
      ⟨_, rfl, Arguments.check_eq_compile_iff.mpr ⟨rfl, spelledAlike_checkOutput, rfl, rfl, rfl⟩⟩
  have hreturns : Compile.Returns spelledAlikeWorld numberedRequest spelledAlike :=
    ⟨_, _, _, rfl, rfl, rfl, rfl⟩
  have hwritten : ∀ path, numberedRequest.output = some path →
      (Compile.writeModel spelledAlikeWorld path spelledAlike).result = .ok () := by
    intro path houtput
    obtain rfl : "model.json" = path := Option.some.inj houtput
    exact Compile.writeModel_of_written rfl spelledAlike_document (Disk.write_of_vacant spelledAlike_vacant _)
  have hverbatim : Console.Verbatim numberedRequest.source.toList ∧
      ∀ path, numberedRequest.output = some path → Console.Verbatim path.toList := by
    refine ⟨by decide, fun path houtput => ?_⟩
    obtain rfl : "model.json" = path := Option.some.inj houtput
    decide
  exact (reported_iff_verbatim hfront hrest rfl hreturns hwritten).mpr hverbatim

/-- A world with a compiler that echoes its input and with one file, whose name has a tag in it. -/
def taggedWorld : World :=
  ⟨fun name =>
      if name == "fx" then some ⟨false, [("E", ⟨"echo", none, [], some Samples.echo⟩)], .quiet⟩ else none,
    .empty, ⟨[], [(["m[a].cql"], .file [0x41])]⟩, ⟨none, none⟩, .nothing, .fresh⟩

def taggedArgs : List String := ["compile", "m[a].cql", "-c", "fx:E"]

def taggedRequest : Arguments.Compile := ⟨"m[a].cql", some "fx:E", none, none, false⟩

def taggedModel : Model := .mapping [(.text "label", .text "m[a].cql"), (.text "text", .text "A")]

def taggedLoader : Loader := ⟨Samples.echo, ⟨Settings.sourceExtensions, "utf-8", some "fx:E"⟩⟩

theorem tagged_returns : Compile.Returns taggedWorld taggedRequest taggedModel := by
  have hbytes : Loader.fileBytes taggedWorld.disk "m[a].cql" = .ok [0x41] :=
    Loader.fileBytes_alone (by decide) (by decide) (by decide) (by decide) [0x41]
  have htext : taggedLoader.fileText taggedWorld.disk "m[a].cql" = .ok "A" :=
    (Loader.fileText_of_ok hbytes).trans rfl
  refine ⟨_, _, _, rfl, rfl, rfl, ?_⟩
  show (Loader.intercept "m[a].cql" (taggedLoader.compileSource taggedWorld.disk .nothing "m[a].cql").1).result = _
  rw [Loader.compileSource_of_holds (.file rfl htext)]
  rfl

/-- The source is compiled, but the tag is not shown. -/
theorem tagged_source_misreported :
    readSwitches taggedArgs = .ok (.tokens false taggedArgs) ∧
    Arguments.read taggedWorld.disk taggedArgs.tail = .ok (.compile taggedRequest) ∧
    Compile.Returns taggedWorld taggedRequest taggedModel ∧
    ¬ ((Exit.conclude (run taggedWorld taggedArgs)).exitCode = 0 ∧
      (Exit.conclude (run taggedWorld taggedArgs)).output = "✓ Compiled m[a].cql\n") := by
  have hfront : readSwitches taggedArgs = .ok (.tokens false taggedArgs) := rfl
  have hrest : Arguments.read taggedWorld.disk taggedArgs.tail = .ok (.compile taggedRequest) := rfl
  refine ⟨hfront, hrest, tagged_returns, fun hreported => ?_⟩
  obtain ⟨begun, calls, records, -, hrun⟩ := run_of_returns hfront hrest tagged_returns
  rw [hrun] at hreported
  exact absurd ((Compile.finish_reports_iff rfl rfl calls records).mp hreported).1 (by decide)

end Group

end FactIntake
