import FactIntake.Compiler.Samples
import FactIntake.Proofs.DiskGrowth
import FactIntake.Proofs.Reporting
import FactIntake.Proofs.SentinelPlaces

/-!
What the compile command does to the disk. It writes only once there is a model, and then it changes
nothing but directories that were missing above the output path and the file at that path. The
document is made before the file is opened, so a file that is there keeps its content unless all of
the document takes its place.
-/

namespace FactIntake.Exit

/-- A fault that counts as a bad end for the command line and for the process alike. -/
structure Bad (fault : Fault) : Prop where
  code : codeOf fault ≠ 0
  status : statusOf fault ≠ 0

theorem bad_of_one {fault : Fault} (hcode : codeOf fault = 1) (hstatus : statusOf fault = 1) : Bad fault :=
  ⟨by simp [hcode], by simp [hstatus]⟩

end FactIntake.Exit

namespace FactIntake.PlainPath

open Disk

variable {disk : Disk} {here location : Location} {names : List String}

theorem leads_of_enter {there : Location} {name : String} (h : enter disk here name = .ok there) :
    Leads disk here [name] there := by
  unfold enter at h
  split at h
  · next found hwalk =>
    split at h
    · next hdirectory =>
      obtain rfl := Except.ok.inj h
      exact leads_of_walk hwalk (by simpa using hdirectory)
    · simp at h
  · simp at h
  · simp at h

theorem makeAlong_grows (disk : Disk) (here : Location) (names : List String) :
    Grows disk (makeAlong disk here names).disk := by
  fun_induction makeAlong disk here names with
  | case1 | case3 | case4 | case6 => exact .refl _
  | case2 _ _ _ _ _ ih => exact ih
  | case5 disk here name names hup hlong there hfree hdepth ih =>
    exact (Grows.put fun old hold => by simp [hfree] at hold).trans ih
  | case7 _ _ _ _ _ _ _ _ _ _ _ ih => exact ih

/-- A directory that was missing before, where the first names lead. -/
structure Made (before after : Disk) (here : Location) (names : List String) (location : Location) :
    Prop where
  missing : before.node? location = none
  directory : after.node? location = some .directory
  above : ∃ n, n ≤ names.length ∧ Leads after here (names.take n) location

theorem Made.of_grows {before after later : Disk} (hgrows : Grows after later)
    (h : Made before after here names location) : Made before later here names location := by
  obtain ⟨n, hn, hleads⟩ := h.above
  exact ⟨h.missing, hgrows.directory h.directory, n, hn, hleads.of_grows hgrows⟩

theorem made_of_changed (hnames : "." ∉ names)
    (h : (makeAlong disk here names).disk.node? location ≠ disk.node? location) :
    Made disk (makeAlong disk here names).disk here names location := by
  fun_induction makeAlong disk here names with
  | case1 | case3 | case4 | case6 => exact absurd rfl h
  | case2 disk here name names hup ih =>
    obtain rfl : name = ".." := by simpa using hup
    obtain ⟨hmissing, hdirectory, n, hn, hleads⟩ := ih (fun hmem => hnames (.tail _ hmem)) h
    exact ⟨hmissing, hdirectory, n + 1, by simpa using hn, .up hleads⟩
  | case5 disk here name names hup hlong there hfree hdepth ih =>
    have hname : name ≠ "." ∧ name ≠ ".." := ⟨fun heq => hnames (heq ▸ .head _), by simpa using hup⟩
    have hthere : (makeAlong (disk.put there .directory) there names).disk.node? there =
        some .directory :=
      (makeAlong_grows _ there names).directory (node?_put_self ..)
    by_cases heq : location = there
    · subst heq
      exact ⟨hfree, hthere, 1, by simp, .down hname hthere (.here _)⟩
    · have hput : (disk.put there .directory).node? location = disk.node? location :=
        node?_put_of_ne _ _ heq
      obtain ⟨hmissing, hdirectory, n, hn, hleads⟩ :=
        ih (fun hmem => hnames (.tail _ hmem)) (by rwa [hput])
      exact ⟨hput ▸ hmissing, hdirectory, n + 1, by simpa using hn, .down hname hthere hleads⟩
  | case7 disk here name names hup hlong on node hon there henter ih =>
    obtain ⟨hmissing, hdirectory, n, hn, hleads⟩ := ih (fun hmem => hnames (.tail _ hmem)) h
    have hfirst := (leads_of_enter henter).of_grows (makeAlong_grows disk there names)
    exact ⟨hmissing, hdirectory, n + 1, by simpa using hn, hfirst.append hleads⟩

theorem make_grows (disk : Disk) (path : PlainPath) : Grows disk (make disk path).disk := by
  unfold make
  split
  · exact .refl disk
  · exact makeAlong_grows ..

theorem made_of_make {path : PlainPath} (hnames : "." ∉ path.names)
    (h : (make disk path).disk.node? location ≠ disk.node? location) :
    Made disk (make disk path).disk (disk.start path.root) path.names location := by
  unfold make at h ⊢
  split at h
  · exact absurd rfl h
  · next hlength =>
    rw [if_neg hlength]
    exact made_of_changed hnames h

theorem no_stay_in_names (path : String) : "." ∉ (ofString path).names := by simp [ofString]

end FactIntake.PlainPath

namespace FactIntake.Compile

open PlainPath

/-- The file where a path leads, which was free or a file before, and holds the whole document of a
model now. All directories above it were there or have been made. -/
structure Written (before after : Disk) (path : PlainPath) (model : Model) (location : Location) :
    Prop where
  above : (make before path.parent).result = .ok ()
  place : before.node? location = none ∨ ∃ old, before.node? location = some (.file old)
  found : after.find true path.display = .ok (.node location)
  content : ∃ text, document model = .ok text ∧
    after.node? location = some (.file (Encoding.Utf8.encode text.toList))

/-- All that writing a model to a path may do to a disk. A path that led to a file still leads to that
file. -/
structure Writes (before after : Disk) (path : PlainPath) (model : Model) : Prop where
  grows : Disk.Grows before after
  leads : ∀ location content, before.find true path.display = .ok (.node location) →
    before.node? location = some (.file content) → after.find true path.display = .ok (.node location)
  changed : ∀ location, after.node? location ≠ before.node? location →
    Made before after (before.start path.root) path.parent.names location ∨
      Written before after path model location

theorem writes_of_grows {before after : Disk} {path : PlainPath} {model : Model}
    (hgrows : Disk.Grows before after)
    (hchanged : ∀ location, after.node? location ≠ before.node? location →
      Made before after (before.start path.root) path.parent.names location ∨
        Written before after path model location) : Writes before after path model := by
  refine ⟨hgrows, fun location content hfind hfile => ?_, hchanged⟩
  exact Disk.find_of_grows hgrows hfind fun hfree => by simp [Disk.Found.location, hfile] at hfree

variable (world : World) (path : String) (model : Model)

theorem bad_notWritable (path : String) : Exit.Bad (Ending.notWritable path) :=
  ⟨show (2 : Int) ≠ 0 by decide, show 2 ≠ 0 by decide⟩

theorem bad_unwritableFault (unwritable : Model.Unwritable) : Exit.Bad (unwritableFault unwritable) := by
  cases unwritable <;> exact Exit.bad_of_one rfl rfl

theorem bad_of_document {model : Model} {fault : Fault} (h : document model = .error fault) :
    Exit.Bad fault := by
  unfold document at h
  cases hwrite : model.write with
  | ok text => simp [hwrite] at h
  | error unwritable =>
    rw [hwrite] at h
    obtain rfl := Except.error.inj h
    exact bad_unwritableFault unwritable

/-- Writing ends in a fault before the file is opened, or with the whole document in it. -/
theorem writeModel_cases :
    (∃ fault, (writeModel world path model).result = .error fault ∧ Exit.Bad fault ∧
      (writeModel world path model).world.disk = (make world.disk (ofString path).parent).disk) ∨
    ∃ text, (writeModel world path model).result = .ok () ∧
      (writeModel world path model).output = "" ∧ document model = .ok text ∧
      (make world.disk (ofString path).parent).result = .ok () ∧
      (make world.disk (ofString path).parent).disk.write (ofString path).display
        (Encoding.Utf8.encode text.toList) = .ok (writeModel world path model).world.disk := by
  cases habove : make world.disk (ofString path).parent with
  | mk result disk =>
    cases result with
    | error hindrance =>
      cases hindrance with
      | fault fault =>
        simp only [writeModel, habove]
        exact Or.inl ⟨_, rfl, bad_notWritable path, rfl⟩
      | tooDeep =>
        simp only [writeModel, habove]
        exact Or.inl ⟨_, rfl, Exit.bad_of_one rfl rfl, rfl⟩
    | ok _ =>
      cases hdocument : document model with
      | error fault =>
        simp only [writeModel, habove, hdocument]
        exact Or.inl ⟨fault, rfl, bad_of_document hdocument, rfl⟩
      | ok text =>
        cases hwrite : disk.write (ofString path).display (Encoding.Utf8.encode text.toList) with
        | error fault =>
          simp only [writeModel, habove, hdocument, hwrite]
          exact Or.inl ⟨_, rfl, bad_notWritable path, rfl⟩
        | ok after =>
          simp only [writeModel, habove, hdocument, hwrite]
          exact Or.inr ⟨text, rfl, rfl, rfl, trivial, hwrite⟩

section Written

variable {world : World} {path text : String} {model : Model} {after : Disk}

theorem writeModel_of_written (hmade : (make world.disk (ofString path).parent).result = .ok ())
    (hdocument : document model = .ok text)
    (hwrite : (make world.disk (ofString path).parent).disk.write (ofString path).display
      (Encoding.Utf8.encode text.toList) = .ok after) : (writeModel world path model).result = .ok () := by
  simp only [writeModel, hmade, hdocument, hwrite]
  rfl

theorem writeModel_disk_of_written (hmade : (make world.disk (ofString path).parent).result = .ok ())
    (hdocument : document model = .ok text)
    (hwrite : (make world.disk (ofString path).parent).disk.write (ofString path).display
      (Encoding.Utf8.encode text.toList) = .ok after) : (writeModel world path model).world.disk = after := by
  simp only [writeModel, hmade, hdocument, hwrite]
  rfl

end Written

/-- Nothing is shown while a model is written. -/
theorem writeOutput_output (output : Option String) : (writeOutput world output model).output = "" := by
  cases output with
  | none => rfl
  | some path =>
    unfold writeOutput writeModel
    simp only
    split
    · rfl
    · rfl
    · split
      · rfl
      · split <;> rfl

theorem writeModel_writes :
    Writes world.disk (writeModel world path model).world.disk (ofString path) model := by
  have habove := make_grows world.disk (ofString path).parent
  have hnames : "." ∉ (ofString path).parent.names :=
    fun hmem => no_stay_in_names path (List.dropLast_subset _ hmem)
  rcases writeModel_cases world path model with ⟨-, -, -, hdisk⟩ | ⟨text, -, -, hdocument, hmade, hwrite⟩
  · rw [hdisk]
    exact writes_of_grows habove fun location hchanged => Or.inl (made_of_make hnames hchanged)
  · obtain ⟨file, hput, hfind, hplace⟩ := Disk.write_eq_ok hwrite
    have hgrows := Disk.write_grows hwrite
    refine writes_of_grows (habove.trans hgrows) fun location hchanged => ?_
    by_cases heq : location = file
    · subst heq
      -- What is made above the path are directories, so the place of the file was as it is before.
      have hsame : (make world.disk (ofString path).parent).disk.node? location =
          world.disk.node? location := by
        refine Classical.byContradiction fun hmade => ?_
        have hdirectory := (made_of_make hnames hmade).directory
        rcases hplace with hfree | ⟨old, hold⟩
        · simp [hfree] at hdirectory
        · simp [hold] at hdirectory
      refine Or.inr ⟨hmade, hsame ▸ hplace, hfind, text, hdocument, ?_⟩
      rw [hput, Disk.node?_put_self]
    · rw [hput, Disk.node?_put_of_ne _ _ heq] at hchanged
      exact Or.inl ((made_of_make hnames hchanged).of_grows hgrows)

theorem bind_disk {run : Run} {next : World → Run} (h : ∀ world, (next world).world.disk = world.disk) :
    (run.bind next).world.disk = run.world.disk := by
  unfold Run.bind
  cases run.result with
  | error fault => rfl
  | ok _ => exact h run.world

theorem printLine_disk (world : World) (line : Console.Printed) :
    (world.printLine line).world.disk = world.disk := by
  unfold World.printLine
  cases line.text <;> rfl

theorem after_after (run : Run) (calls later : List Call) (records more : List Record) :
    (run.after later more).after calls records = run.after (calls ++ later) (records ++ more) := by
  simp [Run.after]

theorem announce_disk (world : World) (request : Arguments.Compile) :
    (announce world request).world.disk = world.disk := by
  unfold announce
  rw [bind_disk, printLine_disk]
  intro world
  cases request.output with
  | none => rfl
  | some path => exact printLine_disk ..

/-- Once there is a model, only writing it changes the disk. -/
theorem finish_disk (world : World) (request : Arguments.Compile) (model : Model) :
    (finish world request model).world.disk = (writeOutput world request.output model).world.disk := by
  refine bind_disk fun world => ?_
  split
  · exact printLine_disk ..
  · exact announce_disk ..

variable [Codecs]

/-- The model that the source of a request gives in the world as it is. -/
def Returns (world : World) (request : Arguments.Compile) (model : Model) : Prop :=
  ∃ settings prepared imports,
    Settings.fromEnvironment world.environment (given request) = .ok settings ∧
    (Loader.create world.registry none settings world.imports).1.result = .ok prepared ∧
    (Loader.create world.registry none settings world.imports).2 = imports ∧
    ((prepared.loader imports).compileFile world.disk world.stdin request.source).1.result = .ok model

theorem compileSource_of_returned (world : World) {loader : Loader} {request : Arguments.Compile}
    {model : Model}
    (h : (loader.compileFile world.disk world.stdin request.source).1.result = .ok model) :
    ∃ begun calls records, begun.disk = world.disk ∧
      compileSource world loader request = (finish begun request model).after calls records := by
  cases hcompile : loader.compileFile world.disk world.stdin request.source with
  | mk report stdin =>
    have hresult : report.result = .ok model := by simpa only [hcompile] using h
    let begun : World := { world with stdin := stdin, imports := world.imports.change report.changes }
    simp only [compileSource, hcompile, hresult]
    exact ⟨(begun.logged report.events).2, report.calls, (begun.logged report.events).1, rfl, rfl⟩

/-- With a model the command goes on to write and to show it. -/
theorem perform_of_returns {world : World} {request : Arguments.Compile} {model : Model}
    (h : Returns world request model) :
    ∃ begun calls records, begun.disk = world.disk ∧
      perform world request = (finish begun request model).after calls records := by
  obtain ⟨settings, prepared, imports, hsettings, hprepared, himports, hcompiled⟩ := h
  obtain ⟨journal, changed, records, hperform⟩ := perform_of_settled world hsettings hprepared
  obtain ⟨begun, calls, later, hbegun, hfinish⟩ :=
    compileSource_of_returned { world with imports := changed, journal := journal } hcompiled
  rw [hperform, himports, hfinish, after_after]
  exact ⟨begun, _, _, hbegun, rfl⟩

/-- A request fails before anything is shown or written, or its source gives a model. -/
theorem perform_cases (world : World) (request : Arguments.Compile) :
    (∃ fault, Stopped world (perform world request) fault) ∨ ∃ model, Returns world request model := by
  cases hsettings : Settings.fromEnvironment world.environment (given request) with
  | error issues =>
    rw [perform_of_refused world hsettings]
    exact Or.inl ⟨_, rfl, rfl, rfl⟩
  | ok settings =>
    cases hprepared : (Loader.create world.registry none settings world.imports).1.result with
    | error fault => exact Or.inl ⟨_, (perform_of_unsettled world hsettings hprepared).1⟩
    | ok prepared =>
      generalize himports : (Loader.create world.registry none settings world.imports).2 = imports
      cases hcompiled :
        ((prepared.loader imports).compileFile world.disk world.stdin request.source).1.result with
      | error fault => exact Or.inl ⟨_, perform_of_failed world hsettings hprepared himports hcompiled⟩
      | ok model =>
        exact Or.inr ⟨model, settings, prepared, imports, hsettings, hprepared, himports, hcompiled⟩

/-- The disk stays as it is, or the source has given a model and that is written to the output path. -/
theorem perform_writes (world : World) (request : Arguments.Compile) :
    (perform world request).world.disk = world.disk ∨
    ∃ path model, request.output = some path ∧ Returns world request model ∧
      Writes world.disk (perform world request).world.disk (ofString path) model := by
  rcases perform_cases world request with ⟨fault, hstopped⟩ | ⟨model, hreturns⟩
  · exact Or.inl hstopped.disk
  · obtain ⟨begun, calls, records, hbegun, hrun⟩ := perform_of_returns hreturns
    have hdisk : (perform world request).world.disk = (writeOutput begun request.output model).world.disk := by
      rw [hrun]
      exact finish_disk begun request model
    rw [hdisk, ← hbegun]
    cases houtput : request.output with
    | none => exact Or.inl rfl
    | some path => exact Or.inr ⟨path, model, rfl, hreturns, writeModel_writes begun path model⟩

end FactIntake.Compile

namespace FactIntake.Group

theorem compile_of_lookup {name : String} (h : subcommands.lookup name = some .compile) :
    name = "compile" := by
  by_cases hcompile : name = "compile"
  · exact hcompile
  · have hcompile' : (name == "compile") = false := by simpa using hcompile
    cases hextensions : name == "extensions" <;>
      simp [subcommands, List.lookup_cons, hcompile', hextensions] at h

theorem runExtensions_disk (world : World) (args : List String) :
    (runExtensions world args).world.disk = world.disk := by
  unfold runExtensions
  split
  · rfl
  · split
    · rfl
    · split <;> rfl

/-- A command line that does not come to a request of the compile command leaves the disk alone. -/
theorem run_disk_of_no_request [Codecs] {world : World} {args : List String}
    (h : ∀ verbose rest request, readSwitches args = .ok (.tokens verbose ("compile" :: rest)) →
      Arguments.read world.disk rest ≠ .ok (.compile request)) :
    (run world args).world.disk = world.disk := by
  unfold run
  split
  · rfl
  · rfl
  · rfl
  · next verbose name rest hfront =>
    obtain ⟨journal, hconfigured⟩ := configured_eq world verbose
    split
    · next subcommand hname =>
      rw [hconfigured]
      cases subcommand with
      | extensions => exact runExtensions_disk ..
      | compile =>
        obtain rfl := compile_of_lookup hname
        show (Compile.run { world with journal := journal } rest).world.disk = world.disk
        unfold Compile.run
        split
        · rfl
        · rfl
        · next request hrest => exact absurd hrest (h verbose rest request hfront)
    · split <;> rfl

/-- The disk stays as it is unless the command line asks for an output file and its source has given a
model from the disk as it was before. Then directories are made that were missing above the path, and
the file at the path comes to hold the whole document of the model; nothing else changes, and the file
does not if there is no document or no way to it. -/
theorem run_writes [Codecs] (world : World) (args : List String) :
    (run world args).world.disk = world.disk ∨
    ∃ verbose rest request path model,
      readSwitches args = .ok (.tokens verbose ("compile" :: rest)) ∧
      Arguments.read world.disk rest = .ok (.compile request) ∧ request.output = some path ∧
      Compile.Returns world request model ∧
      Compile.Writes world.disk (run world args).world.disk (PlainPath.ofString path) model := by
  by_cases hasked : ∃ verbose rest request,
      readSwitches args = .ok (.tokens verbose ("compile" :: rest)) ∧
        Arguments.read world.disk rest = .ok (.compile request)
  · obtain ⟨verbose, rest, request, hfront, hrest⟩ := hasked
    obtain ⟨journal, hrun⟩ := run_eq_perform hfront hrest
    rw [hrun]
    rcases Compile.perform_writes { world with journal := journal } request with
      hdisk | ⟨path, model, houtput, hreturns, hwrites⟩
    · exact Or.inl hdisk
    · exact Or.inr ⟨verbose, rest, request, path, model, hfront, hrest, houtput, hreturns, hwrites⟩
  · refine Or.inl (run_disk_of_no_request fun verbose rest request hfront hrest => hasked ?_)
    exact ⟨verbose, rest, request, hfront, hrest⟩

/-- A module whose compiler returns one text. -/
def namingOnly : Registry := fun name =>
  if name == "fx" then
    some ⟨false, [("make", ⟨"constant", none, [], some (Samples.constant (.text "Person"))⟩)], .quiet⟩
  else none

def namingArgs : List String := ["compile", "-.cql", "-c", "fx:make", "-o", "out/model.json"]

def namingRequest : Arguments.Compile := ⟨"-.cql", some "fx:make", some "out/model.json", none, false⟩

theorem naming_steps : Disk.steps "out/model.json" = ["out", "model.json"] := by decide

theorem naming_checkOutput :
    Arguments.checkOutput (modulesOnly namingOnly).disk (some "out/model.json") = .ok () := by
  have hfree : (modulesOnly namingOnly).disk.isDirectory "out/model.json" = false := by
    rw [Disk.isDirectory, Disk.find, if_neg (by decide), if_neg (by decide), naming_steps, Disk.walk]
    rfl
  simp only [Arguments.checkOutput, hfree]
  rfl

theorem naming_vacant : (⟨[], [(["out"], .directory)]⟩ : Disk).find true "out/model.json" =
    .ok (.vacant ["out"] "model.json") := by
  rw [Disk.find, if_neg (by decide), if_neg (by decide), naming_steps]
  simp only [Disk.walk, Disk.start]
  rfl

/-- On an empty disk the directory above the path is made, and the file in it holds the document. -/
theorem naming_written :
    (run (modulesOnly namingOnly) namingArgs).world.disk.nodes =
        [(["out"], .directory), (["out", "model.json"], .file (Encoding.Utf8.encode "\"Person\"".toList))] ∧
      ∃ verbose rest request path model,
        readSwitches namingArgs = .ok (.tokens verbose ("compile" :: rest)) ∧
        Arguments.read (modulesOnly namingOnly).disk rest = .ok (.compile request) ∧ request.output = some path ∧
        Compile.Returns (modulesOnly namingOnly) request model ∧
        Compile.Writes (modulesOnly namingOnly).disk (run (modulesOnly namingOnly) namingArgs).world.disk
          (PlainPath.ofString path) model := by
  have hfront : readSwitches namingArgs = .ok (.tokens false namingArgs) := rfl
  have hrest : Arguments.read (modulesOnly namingOnly).disk namingArgs.tail = .ok (.compile namingRequest) :=
    Arguments.readPlain_eq_ok_iff.mpr
      ⟨_, rfl, Arguments.check_eq_compile_iff.mpr ⟨rfl, naming_checkOutput, rfl, rfl, rfl⟩⟩
  have hreturns : Compile.Returns (configured (modulesOnly namingOnly) false) namingRequest (.text "Person") :=
    ⟨_, _, _, rfl, rfl, rfl, rfl⟩
  have hwritten : (run (modulesOnly namingOnly) namingArgs).world.disk =
      Disk.put ⟨[], [(["out"], .directory)]⟩ ["out", "model.json"]
        (.file (Encoding.Utf8.encode "\"Person\"".toList)) := by
    obtain ⟨begun, calls, records, hdisk, hperform⟩ := Compile.perform_of_returns hreturns
    have hmade : PlainPath.make begun.disk (PlainPath.ofString "out/model.json").parent =
        ⟨.ok (), ⟨[], [(["out"], .directory)]⟩⟩ := by
      rw [hdisk]
      rfl
    rw [run_eq hfront hrest, hperform]
    refine (Compile.finish_disk begun namingRequest (.text "Person")).trans ?_
    refine Compile.writeModel_disk_of_written (congrArg PlainPath.Attempt.result hmade) rfl ?_
    rw [hmade]
    exact Disk.write_of_vacant naming_vacant _
  refine ⟨by rw [hwritten]; rfl, ?_⟩
  rcases run_writes (modulesOnly namingOnly) namingArgs with hsame | hwrites
  · rw [hwritten] at hsame
    cases hsame
  · exact hwrites

end FactIntake.Group
