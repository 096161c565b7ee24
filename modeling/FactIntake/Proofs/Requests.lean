import FactIntake.Session

/-!
Requests to compile a source. Four kinds of action make one, on the current loader or on one that is
built for the call; each of them first gets its loader and then has it answer the request. An action is
also looked at with other inputs in the session, to tell what its answer depends on.
-/

namespace FactIntake

/-- A request, the loader that it goes to, and the name of the operation that makes it. -/
structure Entry where
  receiver : Receiver
  operation : String
  request : SourceRequest

namespace Action

/-- The request that an action makes, if it is one that compiles a source. -/
def entry? : Action → Option Entry
  | .compileFile receiver path => some ⟨receiver, "readfile", .file path⟩
  | .compileStream receiver source label => some ⟨receiver, "read", .stream source label⟩
  | .compileText receiver text label => some ⟨receiver, "readstring", .text text label⟩
  | .load request => some ⟨.current, "load", request⟩
  | _ => none

end Action

namespace Session

variable [Codecs]

/-- The loader that a request goes to, or why there is none, with what was done to get it. -/
def received (session : Session) (entry : Entry) : Report Loader × Session :=
  session.receive entry.receiver entry.operation

/-- The answer to a request once its loader is there. -/
def answered (session : Session) (entry : Entry) (loader : Loader) : Report Model × Session :=
  (session.received entry).2.load loader entry.request

theorem perform_entry {session : Session} {action : Action} {entry : Entry}
    (h : action.entry? = some entry) :
    session.perform action = session.onLoader entry.receiver entry.operation fun session loader =>
      session.load loader entry.request := by
  cases action with
  | compileFile | compileStream | compileText | load =>
    obtain rfl := Option.some.inj h
    rfl
  | _ => simp [Action.entry?] at h

section Entry

variable {session : Session} {action : Action} {entry : Entry}

/-- Without a loader nothing else is done. -/
theorem perform_of_unreceived {fault : Fault} (h : action.entry? = some entry)
    (hreceived : (session.received entry).1.result = .error fault) :
    session.perform action =
      ((session.received entry).1.bind fun _ => .succeed .done, (session.received entry).2) := by
  have hreceive : (session.receive entry.receiver entry.operation).1.result = .error fault :=
    hreceived
  rw [perform_entry h]
  simp only [onLoader, received, hreceive]

theorem perform_of_received {loader : Loader} (h : action.entry? = some entry)
    (hreceived : (session.received entry).1.result = .ok loader) :
    session.perform action =
      ((session.received entry).1.bind fun _ =>
          (session.answered entry loader).1.bind fun model => .succeed (.model model),
        (session.answered entry loader).2) := by
  have hreceive : (session.receive entry.receiver entry.operation).1.result = .ok loader :=
    hreceived
  rw [perform_entry h]
  simp only [onLoader, received, answered, hreceive]

/-- A step with a loader reports what was done to get the loader, then what the loader answers. -/
theorem step_of_received {loader : Loader} (h : action.entry? = some entry)
    (hreceived : (session.received entry).1.result = .ok loader) :
    (session.step action).1.result = (session.answered entry loader).1.result.map .model ∧
      (session.step action).1.calls =
        (session.received entry).1.calls ++ (session.answered entry loader).1.calls ∧
      (session.step action).1.events =
        (session.received entry).1.events ++ (session.answered entry loader).1.events := by
  have hreport : (session.step action).1 = (session.received entry).1.bind fun _ =>
      (session.answered entry loader).1.bind fun model => .succeed (.model model) :=
    congrArg Prod.fst (perform_of_received h hreceived)
  rw [hreport, Report.bind_of_ok hreceived]
  cases hanswered : (session.answered entry loader).1.result with
  | error fault => simp [Report.bind_of_error hanswered, Except.map]
  | ok model => simp [Report.bind_of_ok hanswered, Report.succeed, Except.map]

/-- Getting a loader changes nothing but what is imported. -/
theorem received_session (session : Session) (entry : Entry) :
    ∃ imports, (session.received entry).2 = { session with imports := imports } := by
  unfold received receive
  cases entry.receiver with
  | configured => exact ⟨_, rfl⟩
  | current =>
    refine ⟨session.imports, ?_⟩
    cases hloader : session.loader <;> simp only [← hloader]

/-- An answer does not depend on what was imported to get the loader. -/
theorem answered_report (session : Session) (entry : Entry) (loader : Loader) :
    (session.answered entry loader).1 = (session.load loader entry.request).1 := by
  obtain ⟨imports, hsession⟩ := received_session session entry
  rw [answered, hsession]
  cases entry.request with
  | stream source label => cases source <;> rfl
  | _ => rfl

end Entry

section Step

variable (session : Session) (action : Action)

@[simp] theorem step_report : (session.step action).1 = (session.perform action).1 := rfl

@[simp] theorem step_disk : (session.step action).2.2.disk = (session.perform action).2.disk := rfl

@[simp] theorem step_environment :
    (session.step action).2.2.environment = (session.perform action).2.environment := rfl

@[simp] theorem step_stdin : (session.step action).2.2.stdin = (session.perform action).2.stdin := rfl

@[simp] theorem step_streams :
    (session.step action).2.2.streams = (session.perform action).2.streams := rfl

@[simp] theorem step_loader :
    (session.step action).2.2.loader = (session.perform action).2.loader := rfl

@[simp] theorem step_registry :
    (session.step action).2.2.registry = (session.perform action).2.registry := rfl

end Step

end Session

end FactIntake
