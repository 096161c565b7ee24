import FactIntake.Proofs.Callables
import FactIntake.Proofs.EntryPoints
import FactIntake.Proofs.InputIsolation
import FactIntake.Proofs.Reporting

/-!
Calls over whole sessions. An action that makes a request submits at most one text under a label, and
contributes the calls for that text: none, a factory call with the label, or that call directly followed
by a compilation with what it built. Besides, an action that looks a reference up makes the calls of
that first, and a loader whose reference leads through a compiler may use that for the text.
-/

namespace FactIntake.Loader

open Import Reference

variable {loader : Loader}

theorem compileText_unlabelled (loader : Loader) (text : String) :
    (loader.compileText text "").calls = [] := rfl

theorem compileText_calls {name : String} (hname : name ≠ "") (text : String) :
    (loader.compileText text name).calls = (loader.factory.run name text).calls := by
  rw [compileText_eq hname]
  cases hrun : (loader.factory.run name text).result with
  | error fault => rw [Report.bind_of_error hrun]
  | ok model =>
    rw [Report.bind_of_ok hrun]
    simp [Report.bind, Report.log, Report.succeed]

/-- Where a loader comes from: the reference that it was built from, and what was imported before. -/
structure Origin where
  reference : String
  imports : Imports

/-- A loader that is built from settings comes from their reference. -/
def originFrom (reference? : Option String) (imports : Imports) : Option Origin := reference?.map (⟨·, imports⟩)

/-- The reference that a loader comes from leads through this compiler. -/
inductive Gives (registry : Registry) (origin? : Option Origin) (attr : String) (compiler : Compiler) : Prop
  | through {origin : Origin} (horigin : origin? = some origin)
      (hleads : LeadsThrough registry origin.reference origin.imports attr compiler)

/-- Whatever the modules have become, a loader compiles with what it builds and with what it was given. -/
def Prepared.Serves (given : String → Compiler → Prop) (prepared : Prepared) : Prop :=
  ∀ imports label text, Contributes given label text ((prepared.factory imports).run label text).calls

theorem Gives.givenFor {registry : Registry} {origin? : Option Origin} {attr : String} {compiler : Compiler}
    (h : Gives registry origin? attr compiler) : GivenFor registry attr compiler := by
  cases h with
  | through horigin hleads => exact hleads.givenFor

variable [Codecs]

/-- The text that is left on a stream, if it can be read and decoded. -/
def streamText (loader : Loader) (stream : Stream) : Except Fault String :=
  match stream.drain.1.result with
  | .ok content => loader.contentText content
  | .error fault => .error fault

/-- The text of the source at a path, if it can be opened, read and decoded. -/
def pathText (loader : Loader) (disk : Disk) (stdin : Stream) (path : String) :
    Except Fault String :=
  if Sentinel.isStdin path loader.settings.extensions then loader.streamText stdin
  else loader.fileText disk path

/-- A stream with a text is compiled as that is, after what reading it logs. -/
theorem compileStream_of_text {stream : Stream} {text : String} (h : loader.streamText stream = .ok text)
    (name : String) :
    (loader.compileStream stream name).1 = (loader.compileText text name).after stream.drain.1.events := by
  cases stream with
  | holding content =>
    have htext : loader.contentText content = .ok text := h
    rw [compileStream_holding, htext, Report.ofExcept_ok_bind]
    rfl
  | closed binary => simp [streamText, Stream.drain, Outcome.fail] at h
  | broken raised => simp [streamText, Stream.drain, Raised.outcome] at h

/-- A stream without a text is not compiled. -/
theorem compileStream_of_fault {stream : Stream} {fault : Fault} (h : loader.streamText stream = .error fault)
    (name : String) :
    (loader.compileStream stream name).1 = (Report.fail fault).after stream.drain.1.events := by
  cases stream with
  | holding content =>
    have htext : loader.contentText content = .error fault := h
    rw [compileStream_holding, htext, Report.ofExcept_error_bind]
    rfl
  | closed binary =>
    obtain rfl : Stream.closedFault binary = fault := Except.error.inj h
    rfl
  | broken raised =>
    obtain rfl : raised.fault = fault := Except.error.inj h
    exact congrArg (Report.mk _ _ · _) (List.append_nil raised.events).symm

theorem compileStream_calls_of_text {stream : Stream} {text : String}
    (h : loader.streamText stream = .ok text) (name : String) :
    (loader.compileStream stream name).1.calls = (loader.compileText text name).calls := by
  rw [compileStream_of_text h, Report.after_calls]

theorem compileStream_calls_of_fault {stream : Stream} {fault : Fault}
    (h : loader.streamText stream = .error fault) (name : String) :
    (loader.compileStream stream name).1.calls = [] := by
  rw [compileStream_of_fault h, Report.after_calls]
  rfl

section Path

variable {disk : Disk} {stdin : Stream} {path : String}

theorem compileFile_calls (path : String) : (loader.compileFile disk stdin path).1.calls =
    (loader.compileSource disk stdin path).1.calls := by
  rw [compileFile_eq, intercept_calls]

theorem compileFile_calls_of_text {text : String} (h : loader.pathText disk stdin path = .ok text) :
    (loader.compileFile disk stdin path).1.calls =
      (loader.compileText text (loader.label path)).calls := by
  rw [compileFile_calls]
  by_cases hstdin : Sentinel.isStdin path loader.settings.extensions = true
  · rw [pathText, if_pos hstdin] at h
    simp only [compileSource, label, hstdin, if_true, Report.after_calls]
    exact compileStream_calls_of_text h stdinLabel
  · rw [pathText, if_neg hstdin] at h
    have hholds : Holds loader disk stdin path text := .file (by simpa using hstdin) h
    rw [compileSource_of_holds hholds, Report.after_calls]

theorem compileFile_calls_of_fault {fault : Fault}
    (h : loader.pathText disk stdin path = .error fault) :
    (loader.compileFile disk stdin path).1.calls = [] := by
  rw [compileFile_calls]
  by_cases hstdin : Sentinel.isStdin path loader.settings.extensions = true
  · rw [pathText, if_pos hstdin] at h
    simp only [compileSource, hstdin, if_true, Report.after_calls]
    exact compileStream_calls_of_fault h stdinLabel
  · rw [pathText, if_neg hstdin] at h
    simp only [compileSource, if_neg hstdin, h, Report.after_calls]
    rfl

end Path

/-- A loader with a factory of its own was given nothing. -/
theorem create_given_serves {registry : Registry} {factory : Factory} {settings : Settings} {imports : Imports}
    {prepared : Prepared} (hrecord : Import.OnRecord registry) (hfactory : factory.OnRecord)
    (h : (create registry (some factory) settings imports).1.result = .ok prepared) :
    prepared.Serves (Gives registry none) := by
  intro later label text
  obtain rfl := Except.ok.inj h
  exact (hfactory.serves _ label).contributes hrecord (fun _ _ => Gives.givenFor) text

theorem create_serves {registry : Registry} {settings : Settings} {imports : Imports} {prepared : Prepared}
    (hrecord : Import.OnRecord registry)
    (h : (create registry none settings imports).1.result = .ok prepared) :
    prepared.Serves (Gives registry (originFrom settings.compiler imports)) := by
  intro later label text
  obtain ⟨given, hgiven, -⟩ | ⟨reference, value, hreference, hvalue, rfl⟩ := create_eq_ok h
  · simp at hgiven
  · rw [hreference]
    have hstems : Stems registry (Gives registry (originFrom (some reference) imports)) value :=
      (resolve_known hvalue).mono (fun _ _ => trivial) fun _ _ hleads => .through rfl hleads
    exact (apply_serves hrecord (fun _ _ => Gives.givenFor) hstems label).contributes hrecord
      (fun _ _ => Gives.givenFor) text

end FactIntake.Loader

namespace FactIntake

open Import Reference

/-- The reference that the environment configures, if its settings are accepted. -/
def Environment.reference? [Codecs] (environment : Environment) : Option String :=
  match Settings.fromEnvironment environment [] with
  | .ok settings => settings.compiler
  | .error _ => none

/-- The reference in settings that are given, if they are accepted. -/
def Settings.reference? [Codecs] : Option Given → Option String
  | none => Settings.default.compiler
  | some given =>
    match Settings.check given with
    | .ok settings => settings.compiler
    | .error _ => none

namespace Loader

variable {registry : Registry} {environment : Environment} {imports : Imports}

theorem fromEnvironment_serves [Codecs] {prepared : Prepared} (hrecord : Import.OnRecord registry)
    (h : (fromEnvironment registry environment imports).1.result = .ok prepared) :
    prepared.Serves (Gives registry (originFrom environment.reference? imports)) := by
  unfold fromEnvironment at h
  unfold Environment.reference?
  cases hsettings : Settings.fromEnvironment environment [] with
  | error issues => simp [hsettings, Settings.orFault, Report.fail] at h
  | ok settings =>
    rw [hsettings] at h
    exact create_serves hrecord h

theorem fromEnvironment_looksUp [Codecs] (registry : Registry) (environment : Environment) (imports : Imports) :
    LooksUp registry environment.reference? imports (fromEnvironment registry environment imports).1.calls := by
  unfold fromEnvironment Environment.reference?
  cases Settings.fromEnvironment environment [] with
  | error issues => exact looksUp_nil none
  | ok settings => exact create_looksUp registry settings imports

end Loader

/-- An action that goes to a loader which is built for it alone. -/
def Action.configures (action : Action) : Bool :=
  action.entry?.any fun entry => entry.receiver == .configured

theorem Action.configures_eq {action : Action} {entry : Entry} (h : action.entry? = some entry) :
    action.configures = (entry.receiver == .configured) := by
  rw [Action.configures, h, Option.any_some]

/-- An action that builds the loader that is the current one from then on. -/
def Action.builds : Action → Bool
  | .create _ _ | .createDefault => true
  | _ => false

/-- A factory that an action gives is on record. -/
def Action.OnRecord (action : Action) : Prop :=
  ∀ factory given, action = .create (some factory) given → factory.OnRecord

namespace Session

open Loader

variable {session : Session} {origin? : Option Origin} {action : Action} {entry : Entry} {loader : Loader}

theorem install_calls (built : Report Loader.Prepared) (imports : Imports) :
    (session.install built imports).1.calls = built.calls := by
  unfold install
  cases hbuilt : built.result with
  | error fault => simp only [Report.bind_of_error hbuilt]
  | ok prepared => simp [Report.bind_of_ok hbuilt, Report.succeed]

theorem restOf_calls (stream : Stream) : (restOf stream).1.calls = [] := by
  cases stream <;> rfl

theorem peekStdin_calls (session : Session) : session.peekStdin.1.calls = [] := by
  unfold peekStdin
  cases session.stdin with
  | holding content =>
    cases htext : asText content with
    | ok text => simp [Stream.drain, Report.bind_eq, Report.bind, Report.ofOutcome, Outcome.succeed,
        Report.ofExcept, htext, pure, Report.succeed]
    | error fault => simp [Stream.drain, Report.bind_eq, Report.bind, Report.ofOutcome, Outcome.succeed,
        Report.ofExcept, htext]
  | closed binary => rfl
  | broken raised => rfl

/-- Everything that the session can call is on record, and its loader comes from where it is said to. -/
structure OnRecord (session : Session) (origin? : Option Origin) : Prop where
  registry : Import.OnRecord session.registry
  loader : ∀ prepared, session.loader = some prepared → prepared.Serves (Gives session.registry origin?)

/-- The registry stays, and the loader afterwards comes from where it is said to. -/
structure Keeps (before : Session) (origin? : Option Origin) (after : Session) : Prop where
  registry : after.registry = before.registry
  loader : ∀ prepared, after.loader = some prepared → prepared.Serves (Gives before.registry origin?)

theorem Keeps.onRecord {other : Session} (h : Import.OnRecord session.registry)
    (hkeeps : Keeps session origin? other) : other.OnRecord origin? := by
  constructor
  · rw [hkeeps.registry]
    exact h
  · rw [hkeeps.registry]
    exact hkeeps.loader

theorem OnRecord.keeps {other : Session} (h : session.OnRecord origin?)
    (hregistry : other.registry = session.registry) (hloader : other.loader = session.loader) :
    Keeps session origin? other := by
  refine ⟨hregistry, fun prepared hprepared => ?_⟩
  exact h.loader prepared (hloader.symm.trans hprepared)

/-- Only a loader that is built takes the place of the current one. -/
theorem OnRecord.install {built : Report Loader.Prepared} {fresh? : Option Origin} (h : session.OnRecord origin?)
    (imports : Imports)
    (hbuilt : ∀ prepared, built.result = .ok prepared → prepared.Serves (Gives session.registry fresh?)) :
    Keeps session (if (session.install built imports).1.result.isOk then fresh? else origin?)
      (session.install built imports).2 := by
  unfold Session.install
  cases hresult : built.result with
  | error fault =>
    simp only [Report.bind_of_error hresult]
    exact h.keeps rfl rfl
  | ok prepared =>
    refine ⟨rfl, fun other hother => ?_⟩
    obtain rfl := Option.some.inj hother
    simp only [Report.bind_of_ok hresult]
    exact hbuilt _ hresult

section

variable [Codecs]

/-- The reference that an action looks up, if it builds a loader from one or resolves one. -/
def lookedUp (session : Session) : Action → Option String
  | .create none given => Settings.reference? given
  | .createDefault => session.environment.reference?
  | .resolve reference => some reference
  | action => if action.configures then session.environment.reference? else none

/-- Where the loader that an action goes to comes from, if that is where the current one does. -/
def originOf (session : Session) (origin? : Option Origin) (action : Action) : Option Origin :=
  if action.configures then originFrom session.environment.reference? session.imports else origin?

/-- Where the current loader comes from after an action. -/
def originAfter (session : Session) (origin? : Option Origin) (action : Action) : Option Origin :=
  if action.builds && (session.perform action).1.result.isOk then
    originFrom (session.lookedUp action) session.imports
  else origin?

def opened (session : Session) : StreamSource → Stream
  | .given stream => stream
  | .named name => session.stream name

/-- The label and the text that a request has compiled, or why there is no text. -/
def submitted (session : Session) (loader : Loader) : SourceRequest → Except Fault (String × String)
  | .file path =>
    (loader.pathText session.disk session.stdin path).map fun text => (loader.label path, text)
  | .stream source label => (loader.streamText (session.opened source)).map fun text => (label, text)
  | .text text label => .ok (label, text)
  | .other typeName => .error (unsupported typeName)

/-- An action has a text compiled under a label that is not empty. -/
structure Submits (session : Session) (action : Action) (label text : String) : Prop where
  request : ∃ entry loader, action.entry? = some entry ∧
    (session.received entry).1.result = .ok loader ∧
    session.submitted loader entry.request = .ok (label, text)
  labelled : label ≠ ""

theorem submitted_received (session : Session) (entry : Entry) (loader : Loader)
    (request : SourceRequest) :
    (session.received entry).2.submitted loader request = session.submitted loader request := by
  obtain ⟨imports, hsession⟩ := received_session session entry
  rw [hsession]
  cases request with
  | stream source label => cases source <;> rfl
  | _ => rfl

theorem load_calls_of_submitted {request : SourceRequest} {label text : String}
    (h : session.submitted loader request = .ok (label, text)) :
    (session.load loader request).1.calls = (loader.compileText text label).calls := by
  cases request with
  | file path =>
    cases htext : loader.pathText session.disk session.stdin path with
    | error fault => simp [submitted, htext, Except.map] at h
    | ok given =>
      simp only [submitted, htext, Except.map, Except.ok.injEq, Prod.mk.injEq] at h
      obtain ⟨rfl, rfl⟩ := h
      exact compileFile_calls_of_text htext
  | stream source name =>
    cases htext : loader.streamText (session.opened source) with
    | error fault => simp [submitted, htext, Except.map] at h
    | ok given =>
      simp only [submitted, htext, Except.map, Except.ok.injEq, Prod.mk.injEq] at h
      obtain ⟨rfl, rfl⟩ := h
      cases source with
      | given stream => exact compileStream_calls_of_text htext name
      | named stream => exact compileStream_calls_of_text htext name
  | text given name =>
    obtain ⟨rfl, rfl⟩ := Prod.mk.inj (Except.ok.inj h)
    rfl
  | other typeName => simp [submitted] at h

theorem load_calls_of_fault {request : SourceRequest} {fault : Fault}
    (h : session.submitted loader request = .error fault) :
    (session.load loader request).1.calls = [] := by
  cases request with
  | file path =>
    cases htext : loader.pathText session.disk session.stdin path with
    | ok given => simp [submitted, htext, Except.map] at h
    | error other => exact compileFile_calls_of_fault htext
  | stream source name =>
    cases htext : loader.streamText (session.opened source) with
    | ok given => simp [submitted, htext, Except.map] at h
    | error other =>
      cases source with
      | given stream => exact compileStream_calls_of_fault htext name
      | named stream => exact compileStream_calls_of_fault htext name
  | text given name => simp [submitted] at h
  | other typeName => rfl

/-- The calls of an action: those of looking up its reference, then those for the text that it submits,
if it submits one. -/
inductive Contribution (origin? : Option Origin) (session : Session) (action : Action) : List Call → Prop
  | looked {first : List Call}
      (hlooked : LooksUp session.registry (session.lookedUp action) session.imports first) :
      Contribution origin? session action first
  | submitted {first later : List Call} {label text : String}
      (hlooked : LooksUp session.registry (session.lookedUp action) session.imports first)
      (hsubmits : session.Submits action label text)
      (hlater : Contributes (Gives session.registry (session.originOf origin? action)) label text later) :
      Contribution origin? session action (first ++ later)

/-- The calls of an action where looking up a reference calls nothing. -/
inductive PlainContribution (session : Session) (action : Action) : List Call → Prop
  | nothing : PlainContribution session action []
  | built {label text : String} (hsubmits : session.Submits action label text) :
      PlainContribution session action [.build label]
  | compiled {label text : String} (hsubmits : session.Submits action label text) :
      PlainContribution session action [.build label, .compile label text]

theorem Contribution.plain {calls : List Call} (h : Contribution origin? session action calls)
    (hnothing : CallsNothing session.registry) : PlainContribution session action calls := by
  cases h with
  | looked hlooked =>
    rw [hlooked.eq_nil hnothing]
    exact .nothing
  | submitted hlooked hsubmits hlater =>
    rw [hlooked.eq_nil hnothing, List.nil_append]
    cases hlater with
    | nothing => exact .nothing
    | built => exact .built hsubmits
    | compiled => exact .compiled hsubmits
    | given hgives =>
      obtain ⟨factory, hhook, -⟩ := hgives.givenFor
      exact absurd hhook (hnothing.hook factory)

theorem lookedUp_of_entry (h : action.entry? = some entry) :
    session.lookedUp action = if action.configures then session.environment.reference? else none := by
  cases action with
  | create | createDefault | resolve => simp [Action.entry?] at h
  | _ => rfl

/-- A loader is there, or is built from the environment by looking its reference up. -/
theorem received_looksUp (h : action.entry? = some entry) :
    LooksUp session.registry (session.lookedUp action) session.imports (session.received entry).1.calls := by
  rw [lookedUp_of_entry h, Action.configures_eq h]
  unfold received receive
  cases entry.receiver with
  | configured =>
    have hcalls := fromEnvironment_looksUp session.registry session.environment session.imports
    simp only
    rw [Report.bind_calls_of_silent fun _ => rfl]
    exact hcalls
  | current => cases session.loader <;> exact looksUp_nil none

/-- The loader of a request compiles with what it builds and with what it was given. -/
theorem OnRecord.received (hsession : session.OnRecord origin?) (h : action.entry? = some entry)
    (hreceived : (session.received entry).1.result = .ok loader) (label text : String) :
    Contributes (Gives session.registry (session.originOf origin? action)) label text
      (loader.factory.run label text).calls := by
  obtain ⟨hcurrent, prepared, hprepared, rfl⟩ | ⟨hconfigured, prepared, hprepared, rfl⟩ :=
    received_eq_ok hreceived
  · have horigin : session.originOf origin? action = origin? := by
      simp [originOf, Action.configures_eq h, hcurrent]
    rw [horigin]
    exact hsession.loader prepared hprepared _ label text
  · have horigin : session.originOf origin? action =
        originFrom session.environment.reference? session.imports := by
      simp [originOf, Action.configures_eq h, hconfigured]
    rw [horigin]
    exact fromEnvironment_serves hsession.registry hprepared _ label text

theorem contribution_of_entry (hsession : session.OnRecord origin?) (h : action.entry? = some entry) :
    Contribution origin? session action (session.perform action).1.calls := by
  have hlooked : LooksUp session.registry (session.lookedUp action) session.imports
      (session.received entry).1.calls := received_looksUp h
  cases hreceived : (session.received entry).1.result with
  | error fault =>
    rw [perform_of_unreceived h hreceived, Report.bind_of_error hreceived]
    exact .looked hlooked
  | ok loader =>
    have hcalls : (session.perform action).1.calls =
        (session.received entry).1.calls ++ (session.answered entry loader).1.calls := by
      rw [perform_of_received h hreceived, Report.bind_of_ok hreceived]
      simp only
      rw [Report.bind_calls_of_silent fun _ => rfl]
    have hsame := submitted_received session entry loader entry.request
    rw [hcalls]
    cases hsubmitted : session.submitted loader entry.request with
    | error fault =>
      rw [answered, load_calls_of_fault (hsame.trans hsubmitted), List.append_nil]
      exact .looked hlooked
    | ok pair =>
      obtain ⟨label, text⟩ := pair
      rw [answered, load_calls_of_submitted (hsame.trans hsubmitted)]
      by_cases hlabel : label = ""
      · rw [hlabel, compileText_unlabelled, List.append_nil]
        exact .looked hlooked
      · rw [compileText_calls hlabel]
        exact .submitted hlooked ⟨⟨entry, loader, h, hreceived, hsubmitted⟩, hlabel⟩
          (hsession.received h hreceived label text)

theorem contribution_of_silent {calls : List Call} (h : calls = []) :
    Contribution origin? session action calls := .looked (Or.inl h)

theorem contribution_of_create (factory : Option Factory) (given : Option Given) :
    Contribution origin? session (.create factory given) (session.create factory given).1.calls := by
  cases factory with
  | some factory =>
    refine contribution_of_silent ?_
    unfold create
    simp only
    split
    · rfl
    · exact install_calls _ _
  | none =>
    refine .looked ?_
    unfold create lookedUp Settings.reference?
    cases given with
    | none =>
      simp only [install_calls]
      exact create_looksUp _ _ _
    | some given =>
      simp only
      cases Settings.check given with
      | error issues => exact looksUp_nil none
      | ok settings =>
        simp only [Settings.orFault, Results.mapError_ok, install_calls]
        exact create_looksUp _ _ _

theorem contribution_of_resolve (reference : String) :
    Contribution origin? session (.resolve reference) (session.perform (.resolve reference)).1.calls := by
  have hlooked := resolve_looked session.registry reference session.imports
  simp only [perform]
  rw [Report.bind_calls_of_silent fun _ => rfl]
  exact .looked (Or.inr ⟨reference, _, _, rfl, hlooked⟩)

/-- Actions that make no request call nothing but what is called on the way to a loader or a value. -/
theorem contribution_of_no_entry (h : action.entry? = none) :
    Contribution origin? session action (session.perform action).1.calls := by
  cases action with
  | create factory given => exact contribution_of_create factory given
  | createDefault =>
    refine .looked ?_
    simp only [perform, install_calls]
    exact fromEnvironment_looksUp _ _ _
  | resolve reference => exact contribution_of_resolve reference
  | settings | assign field value =>
    refine contribution_of_silent ?_
    cases hloader : session.loader <;> simp [perform, hloader, Report.succeed, Report.fail, Report.ofExcept]
  | peek name => exact contribution_of_silent (restOf_calls _)
  | peekStdin => exact contribution_of_silent (peekStdin_calls session)
  | configureLogging options =>
    refine contribution_of_silent ?_
    cases hlevel : session.journal.configure options <;> simp [perform, hlevel, Report.succeed, Report.fail]
  | compileFile | compileStream | compileText | load => simp [Action.entry?] at h
  | _ => exact contribution_of_silent rfl

/-- What a step calls is what its action contributes. -/
theorem step_contribution (hsession : session.OnRecord origin?) (action : Action) :
    Contribution origin? session action (session.step action).1.calls := by
  rw [step_report]
  cases hentry : action.entry? with
  | none => exact contribution_of_no_entry hentry
  | some entry => exact contribution_of_entry hsession hentry

theorem originAfter_of_no_loader (h : action.builds = false) : session.originAfter origin? action = origin? := by
  rw [originAfter, h, Bool.false_and, if_neg Bool.false_ne_true]

theorem OnRecord.create {factory : Option Factory} {given : Option Given} (h : session.OnRecord origin?)
    (haction : (Action.create factory given).OnRecord) :
    Keeps session (session.originAfter origin? (.create factory given)) (session.create factory given).2 := by
  have hserves : ∀ settings prepared, Settings.reference? given = settings.compiler →
      (Loader.create session.registry factory settings session.imports).1.result = .ok prepared →
      prepared.Serves (Gives session.registry
        (originFrom (session.lookedUp (.create factory given)) session.imports)) := by
    intro settings prepared hreference hprepared
    cases factory with
    | some factory => exact create_given_serves h.registry (haction factory given rfl) hprepared
    | none =>
      rw [lookedUp, hreference]
      exact create_serves h.registry hprepared
  simp only [originAfter, Action.builds, Bool.true_and, Session.perform]
  cases given with
  | none => exact h.install _ fun prepared => hserves Settings.default prepared rfl
  | some given =>
    cases hchecked : Settings.check given with
    | error issues =>
      simp only [Session.create, hchecked, Settings.orFault, Results.mapError_error]
      exact h.keeps rfl rfl
    | ok settings =>
      simp only [Session.create, hchecked, Settings.orFault, Results.mapError_ok]
      refine h.install _ fun prepared => hserves settings prepared ?_
      simp only [Settings.reference?, hchecked]

theorem OnRecord.perform (h : session.OnRecord origin?) (haction : action.OnRecord)
    (hentry : action.entry? = none) :
    Keeps session (session.originAfter origin? action) (session.perform action).2 := by
  cases action with
  | create factory given => exact h.create haction
  | createDefault =>
    simp only [originAfter, Action.builds, Session.perform, Bool.true_and]
    exact h.install _ fun prepared hprepared => fromEnvironment_serves h.registry hprepared
  | resolve reference =>
    rw [originAfter_of_no_loader rfl]
    simp only [Session.perform]
    exact h.keeps rfl rfl
  | settings | assign field value | configureLogging options =>
    rw [originAfter_of_no_loader rfl]
    simp only [Session.perform]
    split <;> exact h.keeps rfl rfl
  | compileFile | compileStream | compileText | load => simp [Action.entry?] at hentry
  | _ =>
    rw [originAfter_of_no_loader rfl]
    exact h.keeps rfl rfl

theorem originAfter_of_entry (h : action.entry? = some entry) : session.originAfter origin? action = origin? := by
  cases action with
  | create | createDefault => simp [Action.entry?] at h
  | _ => exact originAfter_of_no_loader rfl

/-- No action takes the registry away, and a loader that one builds comes from the reference that it
looks up. -/
theorem OnRecord.step (h : session.OnRecord origin?) (haction : action.OnRecord) :
    Keeps session (session.originAfter origin? action) (session.step action).2.2 := by
  cases hentry : action.entry? with
  | some entry =>
    have hkept : Kept session (session.step action).2.2 := kept_of_entry hentry
    rw [originAfter_of_entry hentry]
    exact h.keeps hkept.registry hkept.loader
  | none =>
    have hperform := h.perform haction hentry
    exact ⟨hperform.registry, hperform.loader⟩

/-- Each report of a run calls what its action contributes in the session that the actions before it
leave, with the loader that they built. -/
inductive Trace (contribution : Option Origin → Session → Action → List Call → Prop) :
    Option Origin → Session → List Action → List (Report Answer × List Record) → Prop
  | done {origin? : Option Origin} {session : Session} : Trace contribution origin? session [] []
  | next {origin? : Option Origin} {session : Session} {action : Action} {actions : List Action}
      {report : Report Answer} {records : List Record} {reports : List (Report Answer × List Record)}
      (h : contribution origin? session action report.calls)
      (hlater : Trace contribution (session.originAfter origin? action) (session.step action).2.2 actions reports) :
      Trace contribution origin? session (action :: actions) ((report, records) :: reports)

/-- What every step contributes to while everything is on record makes up a run. -/
theorem run_trace {contribution : Option Origin → Session → Action → List Call → Prop} {actions : List Action}
    (hsession : session.OnRecord origin?) (hactions : ∀ action ∈ actions, action.OnRecord)
    (hstep : ∀ origin? other action, other.OnRecord origin? → other.registry = session.registry →
      contribution origin? other action (other.step action).1.calls) :
    Trace contribution origin? session actions (session.run actions).1 := by
  induction actions generalizing session origin? with
  | nil => exact .done
  | cons action actions ih =>
    have hkeeps := hsession.step (hactions action List.mem_cons_self)
    refine .next (hstep origin? session action hsession rfl) (ih (hkeeps.onRecord hsession.registry) ?_ ?_)
    · intro other hother
      exact hactions other (List.mem_cons_of_mem _ hother)
    · intro later? other later hother hregistry
      exact hstep later? other later hother (hregistry.trans hkeeps.registry)

/-- Over a whole run each action contributes nothing, a factory call with the label of the text that it
submits, or that call directly followed by a compilation of that text. What else is called comes from
the modules that a reference is looked up in, first of all: they make calls as they are loaded, and are
asked for attributes that they lack. A loader whose reference leads through a compiler that is given
then may use that one instead. -/
theorem run_disciplined (session : Session) (origin? : Option Origin) (actions : List Action)
    (hsession : session.OnRecord origin?) (hactions : ∀ action ∈ actions, action.OnRecord) :
    Trace Contribution origin? session actions (session.run actions).1 ∧
    (CallsNothing session.registry →
      Trace (fun _ => PlainContribution) origin? session actions (session.run actions).1) := by
  refine ⟨run_trace hsession hactions fun _ _ action hother _ => step_contribution hother action,
    fun hnothing => run_trace hsession hactions fun _ other action hother hregistry => ?_⟩
  apply (step_contribution hother action).plain
  rw [hregistry]
  exact hnothing

end

/-- A session that has no loader yet and can import what the registry has. -/
def fresh (registry : Registry) (environment : Environment) : Session :=
  ⟨registry, .empty, ⟨[], []⟩, environment, .nothing, [], none, .fresh⟩

/-- A module with a factory. -/
def echoModule : Registry
  | "fx" => some ⟨false, [("Compiler", ⟨"echo", none, [], some Samples.echo⟩)], .quiet⟩
  | _ => none

theorem echoModule_defines {definition : Definition} (h : Defines echoModule definition) :
    definition = ⟨"echo", none, [], some Samples.echo⟩ := by
  induction h with
  | member hfound hmember =>
    unfold echoModule at hfound
    split at hfound
    · obtain rfl := Option.some.inj hfound
      rw [List.lookup_cons] at hmember
      split at hmember
      · exact (Option.some.inj hmember).symm
      · simp at hmember
    · simp at hfound
  | inner houter hinner ih =>
    subst ih
    simp at hinner

theorem callsNothing_echoModule : CallsNothing echoModule := by
  constructor
  · intro name found hfound
    unfold echoModule at hfound
    split at hfound
    · obtain rfl := Option.some.inj hfound
      rfl
    · simp at hfound
  · rintro factory ⟨name, found, definition, hfound, hmember, -⟩
    unfold echoModule at hfound
    split at hfound
    · obtain rfl := Option.some.inj hfound
      simp [List.lookup_cons] at hmember
    · simp at hfound

theorem echoModule_onRecord (environment : Environment) : (fresh echoModule environment).OnRecord none := by
  refine ⟨fun definition factory hdefines hfactory => ?_, fun prepared hprepared => ?_⟩
  · obtain rfl := echoModule_defines hdefines
    obtain rfl := Option.some.inj hfactory
    exact .recorded _
  · simp [fresh] at hprepared

/-- A text, a text without a label, a path that is empty, and a loader without a text. -/
def attempts : List Action :=
  [.compileText .configured "A" "m", .compileText .configured "A" "", .compileFile .configured "",
    .createDefault]

theorem attempts_disciplined :
    Trace (fun _ => PlainContribution) none (fresh echoModule ⟨some "fx:Compiler", none⟩) attempts
      ((fresh echoModule ⟨some "fx:Compiler", none⟩).run attempts).1 ∧
    ((fresh echoModule ⟨some "fx:Compiler", none⟩).run attempts).1.map (·.1.calls) =
      [[.build "m", .compile "m" "A"], [], [], []] := by
  refine ⟨(run_disciplined _ none attempts (echoModule_onRecord _) ?_).2 callsNothing_echoModule, rfl⟩
  intro action haction factory given hcreate
  subst hcreate
  simp [attempts] at haction

/-- Where the configuration fails, nothing is submitted. -/
theorem not_plainContribution_of_refused [Codecs] {registry : Registry} {fault : Fault} {call : Call}
    (hrefused : ((fresh registry ⟨some "fx:nope", none⟩).received
      ⟨.configured, "readstring", .text "A" "m"⟩).1.result = .error fault) :
    ¬ PlainContribution (fresh registry ⟨some "fx:nope", none⟩) (.compileText .configured "A" "m") [call] := by
  intro hplain
  cases hplain with
  | built hsubmits =>
    obtain ⟨entry, loader, hentry, hreceived, -⟩ := hsubmits.request
    obtain rfl := Option.some.inj hentry
    exact absurd (hrefused.symm.trans hreceived) (by simp)

/-- The configuration fails, and still a compiler is built: the module was asked for an attribute that
it lacks, and answered with a compiler where a factory was wanted, or it built one as it was loaded.
Where the reference leads through a compiler, that one compiles and not one that is built for the
label. -/
theorem called_unconfigured :
    ((∃ fault, ((fresh Group.hooked ⟨some "fx:nope", none⟩).step
        (.compileText .configured "A" "m")).1.result = .error fault ∧ fault.isA "ConfigurationError") ∧
      ((fresh Group.hooked ⟨some "fx:nope", none⟩).step (.compileText .configured "A" "m")).1.calls =
        [.build "nope"] ∧
      ¬ PlainContribution (fresh Group.hooked ⟨some "fx:nope", none⟩) (.compileText .configured "A" "m")
        [.build "nope"]) ∧
    ((∃ fault, ((fresh Group.eager ⟨some "fx:nope", none⟩).step
        (.compileText .configured "A" "m")).1.result = .error fault ∧ fault.isA "ConfigurationError") ∧
      ((fresh Group.eager ⟨some "fx:nope", none⟩).step (.compileText .configured "A" "m")).1.calls =
        [.build "probe"] ∧
      ¬ PlainContribution (fresh Group.eager ⟨some "fx:nope", none⟩) (.compileText .configured "A" "m")
        [.build "probe"]) ∧
    ((fresh Group.hooked ⟨some "fx:part.compile", none⟩).step (.compileText .configured "A" "m")).1.calls =
      [.build "part", .compile "part" "m"] :=
  ⟨⟨⟨_, rfl, by decide⟩, rfl, not_plainContribution_of_refused rfl⟩,
    ⟨⟨_, rfl, by decide⟩, rfl, not_plainContribution_of_refused rfl⟩, rfl⟩

end Session

end FactIntake
