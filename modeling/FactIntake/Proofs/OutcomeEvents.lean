import FactIntake.Proofs.QuietCollaborators

/-!
Events tell how a call ends. A call for a path opens with the event that says where its source comes
from; then come the events of those that it works with, the stream, the factory and the compiler; and it
closes with at most one event more. That tells of a model if and only if there is one, and of a failure
if and only if an ordinary fault was raised inside. A call for a stream or a text only tells of its
model. Where nothing else is heard of the component that compiles sources, these are all its events;
that is so for every call of a session whose collaborators are quiet.
-/

namespace FactIntake

/-- The events of the component that compiles sources. -/
def sourceEvents (events : List Event) : List Event := events.filter (·.component = .source)

theorem sourceEvents_append (first later : List Event) :
    sourceEvents (first ++ later) = sourceEvents first ++ sourceEvents later := List.filter_append first later

theorem sourceEvents_of_quiet {events : List Event} (h : Quiet events) : sourceEvents events = [] := by
  rw [sourceEvents, List.filter_eq_nil_iff]
  intro event hevent
  simpa using h event hevent

/-- Faults that are given the path: exceptions, but not those of memory and recursion. -/
def Fault.Ordinary (fault : Fault) : Prop :=
  fault.isA "Exception" ∧ ¬ fault.isA "MemoryError" ∧ ¬ fault.isA "RecursionError"

namespace Loader

variable {loader : Loader}

theorem passes_eq_false_iff {fault : Fault} : passes fault = false ↔ fault.Ordinary := by
  rw [← Bool.not_eq_true, passes_iff, Fault.Ordinary, not_or, not_or, Decidable.not_not, ← and_assoc, and_comm]

/-- What collaborators log on the way to a model: the stream as it is read, then the factory and the
compiler, which see no text without a label. -/
def overheard (loader : Loader) (name : String) (reading : List Event) : Except Fault String → List Event
  | .ok text => reading ++ (if name = "" then [] else (loader.factory.run name text).events)
  | .error _ => reading

/-- A call with the events that open it and the one that closes it, which tells of a model if there is
one and of none otherwise. -/
structure Tells (loader : Loader) (name : String) (opening reading : List Event) (given : Except Fault String)
    (report : Report Model) (closing : Option Event) : Prop where
  events : report.events = opening ++ loader.overheard name reading given ++ closing.toList
  compiled : ∀ model, report.result = .ok model →
    ∃ text, given = .ok text ∧ (loader.factory.run name text).result = .ok model ∧
      closing = some (.sourceCompiled name text.length)
  uncompiled : ∀ fault, report.result = .error fault →
    ∀ other length, closing ≠ some (.sourceCompiled other length)
  source : ∀ event ∈ closing, event.component = .source

/-- A text with a label tells of its model, and of nothing else. -/
theorem compileText_tells (loader : Loader) (text name : String) (opening reading : List Event) :
    ∃ closing, Tells loader name opening reading (.ok text)
        ((loader.compileText text name).after (opening ++ reading)) closing ∧
      ∀ fault, (loader.compileText text name).result = .error fault → closing = none := by
  by_cases hname : name = ""
  · subst hname
    refine ⟨none, ⟨?_, fun model hmodel => ?_, by simp, by simp⟩, fun _ _ => rfl⟩
    · simp [compileText, overheard, Report.fail]
    · simp [compileText, Report.fail] at hmodel
  · rw [compileText_eq hname]
    cases hrun : (loader.factory.run name text).result with
    | error fault =>
      rw [Report.bind_of_error hrun]
      exact ⟨none, ⟨by simp [overheard, hname], by simp, by simp, by simp⟩, fun _ _ => rfl⟩
    | ok model =>
      rw [Report.bind_of_ok hrun]
      refine ⟨some (.sourceCompiled name text.length), ⟨?_, fun other hother => ?_, ?_, ?_⟩, ?_⟩
      · simp [overheard, hname, Report.log, Report.bind, Report.succeed]
      · obtain rfl : model = other := by simpa [Report.log, Report.bind, Report.succeed] using hother
        exact ⟨text, rfl, hrun, rfl⟩
      · simp [Report.log, Report.bind, Report.succeed]
      · simp [Event.component]
      · simp [Report.log, Report.bind, Report.succeed]

/-- What is compiled as its text if it has one, and fails otherwise, tells of its model. -/
theorem tells_of_given {name : String} {opening reading : List Event} {given : Except Fault String}
    {report : Report Model}
    (htext : ∀ text, given = .ok text → report = (loader.compileText text name).after (opening ++ reading))
    (hfault : ∀ fault, given = .error fault → report = (Report.fail fault).after (opening ++ reading)) :
    ∃ closing, Tells loader name opening reading given report closing ∧
      ∀ fault, report.result = .error fault → closing = none := by
  cases given with
  | ok text =>
    rw [htext text rfl]
    exact compileText_tells loader text name opening reading
  | error fault =>
    rw [hfault fault rfl]
    exact ⟨none, ⟨by simp [overheard, Report.fail], by simp [Report.fail], by simp, by simp⟩, fun _ _ => rfl⟩

/-- Where the collaborators log nothing of the component, it has no other events than those that open
and close the call. -/
theorem Tells.sourceEvents {name : String} {opening reading : List Event} {given : Except Fault String}
    {report : Report Model} {closing : Option Event}
    (h : Tells loader name opening reading given report closing)
    (hquiet : Quiet (loader.overheard name reading given))
    (hopening : ∀ event ∈ opening, event.component = .source) :
    FactIntake.sourceEvents report.events = opening ++ closing.toList := by
  have hkept : ∀ {events : List Event}, (∀ event ∈ events, event.component = .source) →
      FactIntake.sourceEvents events = events := by
    intro events hevents
    rw [FactIntake.sourceEvents, List.filter_eq_self]
    intro event hevent
    simpa using hevents event hevent
  have hclosing : ∀ event ∈ closing.toList, event.component = .source := by
    intro event hevent
    exact h.source event (Option.mem_toList.mp hevent)
  rw [h.events, sourceEvents_append, sourceEvents_append, sourceEvents_of_quiet hquiet, hkept hopening,
    hkept hclosing, List.append_nil]

theorem overheard_quiet {name : String} {reading : List Event} (hfactory : loader.factory.Quiet)
    (hreading : Quiet reading) (given : Except Fault String) : Quiet (loader.overheard name reading given) := by
  cases given with
  | error fault => exact hreading
  | ok text =>
    refine quiet_append_iff.mpr ⟨hreading, ?_⟩
    split
    · exact quiet_nil
    · exact hfactory.run name text

theorem resolved_component (loader : Loader) (path : String) : (loader.resolved path).component = .source := by
  unfold resolved
  split <;> rfl

/-- What reading the source at a path has logged. -/
def heard (loader : Loader) (stdin : Stream) (path : String) : List Event :=
  if Sentinel.isStdin path loader.settings.extensions then stdin.drain.1.events else []

theorem heard_quiet (loader : Loader) {stdin : Stream} (h : stdin.Quiet) (path : String) :
    Quiet (loader.heard stdin path) := by
  unfold heard
  split
  · exact h
  · exact quiet_nil

variable [Codecs]

theorem compileStream_tells (loader : Loader) (stream : Stream) (name : String) :
    ∃ closing, Tells loader name [] stream.drain.1.events (loader.streamText stream)
        (loader.compileStream stream name).1 closing ∧
      ∀ fault, (loader.compileStream stream name).1.result = .error fault → closing = none :=
  tells_of_given (fun _ htext => compileStream_of_text htext name)
    fun _ hfault => compileStream_of_fault hfault name

section Path

variable (loader : Loader) (disk : Disk) (stdin : Stream) (path : String)

theorem compileSource_tells :
    ∃ closing, Tells loader (loader.label path) [loader.resolved path] (loader.heard stdin path)
        (loader.pathText disk stdin path) (loader.compileSource disk stdin path).1 closing ∧
      ∀ fault, (loader.compileSource disk stdin path).1.result = .error fault → closing = none := by
  cases hsentinel : Sentinel.isStdin path loader.settings.extensions with
  | true =>
    have hsource : (loader.compileSource disk stdin path).1 =
        (loader.compileStream stdin stdinLabel).1.after [loader.resolved path] := by
      simp only [compileSource, resolved, hsentinel, if_true]
    have hgiven : loader.pathText disk stdin path = loader.streamText stdin := by
      rw [pathText, if_pos hsentinel]
    have hlabel : loader.label path = stdinLabel := by rw [label, if_pos hsentinel]
    rw [hsource, hgiven, hlabel, heard, if_pos hsentinel]
    apply tells_of_given
    · intro text htext
      rw [compileStream_of_text htext]
      simp [Report.after]
    · intro fault hfault
      rw [compileStream_of_fault hfault]
      simp [Report.after]
  | false =>
    have hsource : (loader.compileSource disk stdin path).1 =
        ((Report.ofExcept (loader.fileText disk path)).bind fun text =>
          loader.compileText text path).after [loader.resolved path] := by
      simp only [compileSource, resolved, hsentinel, Bool.false_eq_true, if_false]
      rfl
    have hgiven : loader.pathText disk stdin path = loader.fileText disk path := by
      simp [pathText, hsentinel]
    have hlabel : loader.label path = path := label_of_file hsentinel
    have hheard : loader.heard stdin path = [] := by simp [heard, hsentinel]
    rw [hsource, hgiven, hlabel, hheard]
    apply tells_of_given
    · intro text htext
      rw [htext, Report.ofExcept_ok_bind, List.append_nil]
    · intro fault hfault
      rw [hfault, Report.ofExcept_error_bind, List.append_nil]

/-- The event that closes a call for a path tells of a failure if and only if an ordinary fault was
raised inside, and is left out if and only if another fault was. -/
structure TellsFailure (closing : Option Event) : Prop where
  failed : (∃ errorType, closing = some (.sourceFailed path errorType)) ↔
    ∃ stage fault logged, Raises loader disk stdin path stage fault logged ∧ fault.Ordinary
  passed : closing = none ↔
    ∃ stage fault logged, Raises loader disk stdin path stage fault logged ∧ ¬ fault.Ordinary

theorem not_raises_of_model {model : Model} (h : (loader.compileSource disk stdin path).1.result = .ok model)
    {stage : Stage} {fault : Fault} {logged : List Event} : ¬ Raises loader disk stdin path stage fault logged := by
  intro hraises
  rw [(compileSource_of_raises hraises).1] at h
  cases h

theorem compileFile_tells :
    ∃ closing, Tells loader (loader.label path) [loader.resolved path] (loader.heard stdin path)
        (loader.pathText disk stdin path) (loader.compileFile disk stdin path).1 closing ∧
      TellsFailure loader disk stdin path closing := by
  obtain ⟨inner, htells, hnone⟩ := compileSource_tells loader disk stdin path
  rw [compileFile_eq]
  cases hsource : (loader.compileSource disk stdin path).1.result with
  | ok model =>
    obtain ⟨text, -, -, hclosing⟩ := htells.compiled model hsource
    have hraises := @not_raises_of_model _ loader disk stdin path model hsource
    rw [intercept_of_ok path hsource]
    refine ⟨inner, htells, ⟨?_, ?_⟩⟩
    · simp [hclosing, hraises]
    · simp [hclosing, hraises]
  | error fault =>
    obtain ⟨stage, logged, hraises⟩ := raises_of_compileSource hsource
    -- What is raised inside is the fault that comes out of compiling the source, and no other.
    have honly : ∀ {stage other logged}, Raises loader disk stdin path stage other logged → other = fault := by
      intro stage other logged hother
      exact Except.error.inj ((compileSource_of_raises hother).1.symm.trans hsource)
    have hinner : inner = none := hnone fault hsource
    have hevents := htells.events
    rw [hinner, Option.toList_none, List.append_nil] at hevents
    by_cases hordinary : fault.Ordinary
    · obtain ⟨hresult, hcaught⟩ := intercept_of_caught path hsource (passes_eq_false_iff.mpr hordinary)
      refine ⟨some (.sourceFailed path (normalised path fault).className), ⟨?_, ?_, ?_, ?_⟩, ⟨?_, ?_⟩⟩
      · rw [hcaught, hevents, Option.toList_some]
      · intro model hmodel
        rw [hresult] at hmodel
        cases hmodel
      · simp
      · simp [Event.component]
      · exact iff_of_true ⟨_, rfl⟩ ⟨stage, fault, logged, hraises, hordinary⟩
      · refine iff_of_false (by simp) ?_
        rintro ⟨_, other, _, hother, hextraordinary⟩
        exact hextraordinary (honly hother ▸ hordinary)
    · have hpasses : passes fault := by
        rw [← Bool.not_eq_false, passes_eq_false_iff]
        exact hordinary
      rw [intercept_of_passes hsource hpasses]
      refine ⟨none, hinner ▸ htells, ⟨iff_of_false (by simp) ?_, iff_of_true rfl ?_⟩⟩
      · rintro ⟨_, other, _, hother, hnone⟩
        exact hordinary (honly hother ▸ hnone)
      · exact ⟨stage, fault, logged, hraises, hordinary⟩

end Path

end Loader

namespace Session

open Loader

section

variable [Codecs]

/-- What the collaborators of a request log: the stream that it reads, the factory and the compiler. -/
def overheard (now : Session) (loader : Loader) : SourceRequest → List Event
  | .file path =>
    loader.overheard (loader.label path) (loader.heard now.stdin path) (loader.pathText now.disk now.stdin path)
  | .stream source name =>
    loader.overheard name (now.opened source).drain.1.events (loader.streamText (now.opened source))
  | .text text name => loader.overheard name [] (.ok text)
  | .other _ => []

/-- What a call for a path logs tells how it ends; if its collaborators are quiet, it is all that is
told. -/
structure FileTold (now : Session) (loader : Loader) (path : String) (call : Report Model)
    (closing : Option Event) : Prop where
  tells : Tells loader (loader.label path) [loader.resolved path] (loader.heard now.stdin path)
    (loader.pathText now.disk now.stdin path) call closing
  failure : TellsFailure loader now.disk now.stdin path closing
  alone : FactIntake.Quiet (now.overheard loader (.file path)) →
    sourceEvents call.events = loader.resolved path :: closing.toList

/-- What a call for a text logs tells of its model, and of nothing else. -/
structure TextTold (loader : Loader) (name : String) (reading : List Event) (given : Except Fault String)
    (call : Report Model) (closing : Option Event) : Prop where
  tells : Tells loader name [] reading given call closing
  failure : ∀ fault, call.result = .error fault → closing = none
  alone : FactIntake.Quiet (loader.overheard name reading given) → sourceEvents call.events = closing.toList

section Answer

variable (now : Session) {entry : Entry} (loader : Loader)

theorem fileTold_of_request {path : String} (hrequest : entry.request = .file path) :
    ∃ closing, FileTold now loader path (now.answered entry loader).1 closing := by
  obtain ⟨closing, htells, hfailure⟩ := compileFile_tells loader now.disk now.stdin path
  rw [answered_report, hrequest]
  refine ⟨closing, htells, hfailure, fun hquiet => htells.sourceEvents hquiet ?_⟩
  simpa using resolved_component loader path

theorem textTold_of_stream {source : StreamSource} {name : String} (hrequest : entry.request = .stream source name) :
    ∃ closing, TextTold loader name (now.opened source).drain.1.events (loader.streamText (now.opened source))
      (now.answered entry loader).1 closing := by
  obtain ⟨closing, htells, hnone⟩ := compileStream_tells loader (now.opened source) name
  have hload : (now.load loader (.stream source name)).1 = (loader.compileStream (now.opened source) name).1 := by
    cases source <;> rfl
  rw [answered_report, hrequest, hload]
  exact ⟨closing, htells, hnone, fun hquiet => htells.sourceEvents hquiet (by simp)⟩

theorem textTold_of_text {text name : String} (hrequest : entry.request = .text text name) :
    ∃ closing, TextTold loader name [] (.ok text) (now.answered entry loader).1 closing := by
  obtain ⟨closing, htells, hnone⟩ := compileText_tells loader text name [] []
  have hload : (now.load loader (.text text name)).1 = (loader.compileText text name).after ([] ++ []) := rfl
  rw [answered_report, hrequest, hload]
  exact ⟨closing, htells, hnone, fun hquiet => htells.sourceEvents hquiet (by simp)⟩

end Answer

section Run

variable {session : Session} {actions : List Action} {n : Nat} {action : Action} {entry : Entry} {loader : Loader}

/-- Before logging is configured, what is recorded of a call is what was logged to get its loader and
then the events of the call. -/
theorem recorded_of_unconfigured (hfresh : session.journal = .fresh) (haction : actions[n]? = some action)
    (hunconfigured : latestConfiguration (actions.take n) = none) (hentry : action.entry? = some entry)
    (hreceived : ((session.reached actions n).received entry).1.result = .ok loader) :
    ∃ report records, (session.run actions).1[n]? = some (report, records) ∧
      report.result = ((session.reached actions n).answered entry loader).1.result.map .model ∧
      records = (((session.reached actions n).received entry).1.events ++
        ((session.reached actions n).answered entry loader).1.events).map .collected := by
  obtain ⟨hresult, -, hevents⟩ := step_of_received hentry hreceived
  have hcurrent : (session.reached actions n).journal.current = none :=
    (remembers hfresh actions n).current.trans hunconfigured
  have hrecords := step_records (session.reached actions n) action
  rw [Journal.recordAll_of_unconfigured hcurrent, hevents] at hrecords
  refine ⟨_, _, ?_, hresult, hrecords⟩
  rw [run_getElem?, haction, Option.map_some]

/-- In a run of quiet actions from a quiet session the collaborators of every request are quiet. -/
theorem overheard_of_quiet (hsession : session.Quiet) (hactions : ∀ action ∈ actions, action.Quiet)
    (haction : actions[n]? = some action) (hentry : action.entry? = some entry)
    (hreceived : ((session.reached actions n).received entry).1.result = .ok loader) :
    FactIntake.Quiet ((session.reached actions n).overheard loader entry.request) := by
  have hnow : (session.reached actions n).Quiet := hsession.reached hactions n
  have hfactory : loader.factory.Quiet := hnow.received hreceived
  cases hrequest : entry.request with
  | file path => exact overheard_quiet hfactory (heard_quiet loader hnow.stdin path) _
  | text text name => exact overheard_quiet hfactory quiet_nil (.ok text)
  | other typeName => exact quiet_nil
  | stream source name =>
    refine overheard_quiet hfactory ?_ _
    cases source with
    | named other => exact hnow.stream other
    | given stream => exact (hactions action (List.mem_of_getElem? haction)).given entry stream name hentry hrequest

/-- Before logging is configured, in any run, what is recorded of a call is what was logged to get its
loader and then the events of the call, which tell how it ends. -/
theorem events_tell_outcome (hfresh : session.journal = .fresh) (haction : actions[n]? = some action)
    (hunconfigured : latestConfiguration (actions.take n) = none) (hentry : action.entry? = some entry)
    (hreceived : ((session.reached actions n).received entry).1.result = .ok loader) :
    let now := session.reached actions n
    let call := (now.answered entry loader).1
    (∃ report records, (session.run actions).1[n]? = some (report, records) ∧
      report.result = call.result.map .model ∧
      records = ((now.received entry).1.events ++ call.events).map .collected) ∧
    (∀ path, entry.request = .file path → ∃ closing, FileTold now loader path call closing) ∧
    (∀ source name, entry.request = .stream source name → ∃ closing,
      TextTold loader name (now.opened source).drain.1.events (loader.streamText (now.opened source)) call
        closing) ∧
    (∀ text name, entry.request = .text text name → ∃ closing, TextTold loader name [] (.ok text) call closing) ∧
    (session.Quiet ∧ (∀ action ∈ actions, action.Quiet) →
      FactIntake.Quiet (now.overheard loader entry.request)) := by
  intro now call
  refine ⟨recorded_of_unconfigured hfresh haction hunconfigured hentry hreceived,
    fun path hrequest => fileTold_of_request now loader hrequest,
    fun source name hrequest => textTold_of_stream now loader hrequest,
    fun text name hrequest => textTold_of_text now loader hrequest, ?quiet⟩
  case quiet =>
    rintro ⟨hsession, hactions⟩
    exact overheard_of_quiet hsession hactions haction hentry hreceived

end Run

end

/-- A session with a loader that echoes, with text on standard input and no files. -/
def listening : Session :=
  { fresh (fun _ => none) ⟨none, none⟩ with
    stdin := .holding (.text "A")
    loader := some ⟨fun _ => Samples.echo, .default⟩ }

theorem echo_quiet : Samples.echo.Quiet := by
  intro label
  refine ⟨quiet_nil, fun compiler hcompiler => ?_⟩
  obtain rfl := Except.ok.inj hcompiler
  exact fun _ => quiet_nil

theorem listening_quiet : listening.Quiet := by
  refine ⟨?_, fun prepared hprepared => ?_, Stream.quiet_holding _, fun name => ?_⟩
  · rintro definition factory hdefines -
    induction hdefines with
    | member hfound => cases hfound
    | inner _ _ ih => exact ih
  · obtain rfl := Option.some.inj hprepared
    exact fun _ => echo_quiet
  · exact quiet_nil

/-- The path of standard input, then one where nothing can be read. -/
def visits : List Action := [.compileFile .current "-.cql", .load (.file "")]

theorem visits_quiet : ∀ action ∈ visits, action.Quiet := by
  intro action haction
  have hpath : ∃ receiver operation path, action.entry? = some ⟨receiver, operation, .file path⟩ := by
    simp only [visits, List.mem_cons, List.not_mem_nil, or_false] at haction
    rcases haction with rfl | rfl <;> exact ⟨_, _, _, rfl⟩
  obtain ⟨receiver, operation, path, hpath⟩ := hpath
  refine ⟨?_, ?_, ?_, fun entry stream label hentry hrequest => ?_⟩
  · rintro factory given rfl
    cases hpath
  · rintro name stream rfl
    cases hpath
  · rintro stream rfl
    cases hpath
  · obtain rfl := Option.some.inj (hpath.symm.trans hentry)
    cases hrequest

/-- Standard input becomes a model, and a path where nothing can be read fails. -/
theorem visits_told :
    sourceEvents (listening.answered ⟨.current, "readfile", .file "-.cql"⟩ ⟨Samples.echo, .default⟩).1.events =
      [.sourceResolved stdinLabel .stdin, .sourceCompiled stdinLabel 1] ∧
    ∃ errorType, sourceEvents ((listening.reached visits 1).answered ⟨.current, "load", .file ""⟩
        ⟨Samples.echo, .default⟩).1.events = [.sourceResolved "" .file, .sourceFailed "" errorType] := by
  have hquiet : listening.Quiet ∧ ∀ action ∈ visits, action.Quiet := ⟨listening_quiet, visits_quiet⟩
  constructor
  · obtain ⟨-, hread, -, -, hheard⟩ :=
      @events_tell_outcome _ listening visits 0 _ _ ⟨Samples.echo, .default⟩ rfl rfl rfl rfl rfl
    obtain ⟨closing, hread⟩ := hread "-.cql" rfl
    obtain ⟨text, htext, -, rfl⟩ := hread.tells.compiled _ rfl
    obtain rfl := Except.ok.inj htext
    exact hread.alone (hheard hquiet)
  · have hopen : ∀ disk, fileBytes disk "" = .error (diskFault "" .missing) := by
      intro disk
      simp [fileBytes, Disk.read, Disk.find, bind, Except.bind]
    obtain ⟨-, hmissing, -, -, hheard⟩ :=
      @events_tell_outcome _ listening visits 1 _ _ ⟨Samples.echo, .default⟩ rfl rfl rfl rfl rfl
    obtain ⟨closing, hmissing⟩ := hmissing "" rfl
    obtain ⟨errorType, rfl⟩ := hmissing.failure.failed.mpr
      ⟨.opening, _, [], .opening rfl (hopen _), by decide, by decide, by decide⟩
    exact ⟨errorType, hmissing.alone (hheard hquiet)⟩

end Session

end FactIntake
