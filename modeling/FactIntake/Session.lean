import FactIntake.Disk.PlainPath
import FactIntake.Journal
import FactIntake.Loader

/-!
Sessions: one loader after the other, with the streams, the files, the environment and the imports
that their calls meet. Each action answers, or fails and leaves the loader as it was.
-/

namespace FactIntake

structure Session where
  registry : Registry
  imports : Imports
  disk : Disk
  environment : Environment
  stdin : Stream
  streams : List (String × Stream)
  loader : Option Loader.Prepared
  journal : Journal

/-- A stream of the session, or one that is made for a single call. -/
inductive StreamSource
  | named (name : String)
  | given (stream : Stream)

/-- The loader that a call goes to. -/
inductive Receiver
  | current
  /-- A loader built from the environment for this call alone. -/
  | configured
deriving DecidableEq, Repr

inductive SourceRequest
  | file (path : String)
  | stream (source : StreamSource) (label : String)
  | text (text label : String)
  | other (typeName : String)

inductive Action
  | create (factory : Option Factory) (given : Option Given)
  | createDefault
  | compileFile (receiver : Receiver) (path : String)
  | compileStream (receiver : Receiver) (source : StreamSource) (label : String)
  | compileText (receiver : Receiver) (text label : String)
  | load (request : SourceRequest)
  | resolve (reference : String)
  | settings
  | assign (field : String) (value : Model)
  | define (name : String) (stream : Stream)
  | peek (name : String)
  | peekStdin
  | replaceStdin (stream : Stream)
  | setVariable (name : String) (value : Option String)
  | place (path : String) (node : Node)
  | remove (path : String)
  | draft (draft : Draft)
  | configureLogging (options : LogOptions)

inductive Answer
  | done
  | model (model : Model)
  | settings (settings : Settings)
  | found (value : Import.Value)
  | level (level : Level)
  | rest (content : Content)
  | closed

namespace Session

variable [Codecs]

def noLoader (operation : String) : Fault :=
  .general "AttributeError" [.text ("'NoneType' object has no attribute " ++ Text.quoted operation)]

/-- The loader that a call goes to, and the session once it is there. -/
def receive (session : Session) (receiver : Receiver) (operation : String) :
    Report Loader × Session :=
  match receiver with
  | .configured =>
    let (built, imports) :=
      Loader.fromEnvironment session.registry session.environment session.imports
    (built.bind fun prepared => .succeed (prepared.loader imports),
      { session with imports := imports })
  | .current =>
    match session.loader with
    | some prepared => (.succeed (prepared.loader session.imports), session)
    | none => (.fail (noLoader operation), session)

/-- Makes a call on the loader of a receiver. -/
def onLoader (session : Session) (receiver : Receiver) (operation : String)
    (run : Session → Loader → Report Model × Session) : Report Answer × Session :=
  let (received, session) := session.receive receiver operation
  match received.result with
  | .error _ => (received.bind fun _ => .succeed .done, session)
  | .ok loader =>
    let (report, session) := run session loader
    (received.bind fun _ => report.bind fun model => .succeed (.model model), session)

def compileFile (session : Session) (loader : Loader) (path : String) : Report Model × Session :=
  let (report, stdin) := loader.compileFile session.disk session.stdin path
  (report, { session with stdin := stdin })

def stream (session : Session) (name : String) : Stream :=
  (session.streams.lookup name).getD .nothing

def putStream (session : Session) (name : String) (stream : Stream) : Session :=
  { session with streams := Entries.put session.streams name stream }

def compileStream (session : Session) (loader : Loader) (source : StreamSource) (label : String) :
    Report Model × Session :=
  match source with
  | .given stream => ((loader.compileStream stream label).1, session)
  | .named name =>
    let (report, stream) := loader.compileStream (session.stream name) label
    (report, session.putStream name stream)

def unsupported (typeName : String) : Fault :=
  Fault.typeFault ("unsupported source request: " ++ typeName)

/-- Compiles whichever source a request describes. -/
def load (session : Session) (loader : Loader) (request : SourceRequest) :
    Report Model × Session :=
  match request with
  | .file path => session.compileFile loader path
  | .stream source label => session.compileStream loader source label
  | .text text label => (loader.compileText text label, session)
  | .other typeName => (.fail (unsupported typeName), session)

/-- Builds a loader, which becomes the current one if that succeeds. -/
def install (session : Session) (built : Report Loader.Prepared) (imports : Imports) :
    Report Answer × Session :=
  let report := built.bind fun prepared => .succeed (.settings prepared.settings)
  let session := { session with imports := imports }
  match built.result with
  | .error _ => (report, session)
  | .ok prepared => (report, { session with loader := some prepared })

def create (session : Session) (factory : Option Factory) (given : Option Given) :
    Report Answer × Session :=
  let settings : Except Fault Settings := match given with
    | none => .ok Settings.default
    | some given => Settings.orFault (Settings.check given)
  match settings with
  | .error fault => (.fail fault, session)
  | .ok settings =>
    let (built, imports) := Loader.create session.registry factory settings session.imports
    session.install built imports

/-- What is unread of a stream, if it can be read. -/
def restOf (stream : Stream) : Report Answer × Stream :=
  match stream with
  | .closed binary => (.succeed .closed, .closed binary)
  | stream =>
    let (drained, stream) := stream.drain
    (Report.ofOutcome (drained.bind fun content => .succeed (.rest content)), stream)

/-- Standard input is looked at as text in UTF-8. -/
def asText : Content → Except Fault String
  | .text text => .ok text
  | .bytes bytes => Loader.textOf "utf-8" (Encoding.decodeFile .utf8 bytes)

def peekStdin (session : Session) : Report Answer × Session :=
  let (drained, stdin) := session.stdin.drain
  let report : Report Answer := do
    let content ← Report.ofOutcome drained
    let text ← Report.ofExcept (asText content)
    return .rest (.text text)
  (report, { session with stdin := stdin })

def perform (session : Session) : Action → Report Answer × Session
  | .create factory given => session.create factory given
  | .createDefault =>
    let (built, imports) :=
      Loader.fromEnvironment session.registry session.environment session.imports
    session.install built imports
  | .compileFile receiver path =>
    session.onLoader receiver "readfile" fun session loader => session.compileFile loader path
  | .compileStream receiver source label =>
    session.onLoader receiver "read" fun session loader => session.compileStream loader source label
  | .compileText receiver text label =>
    session.onLoader receiver "readstring" fun session loader =>
      (loader.compileText text label, session)
  | .load request =>
    session.onLoader .current "load" fun session loader => session.load loader request
  | .resolve reference =>
    let (resolved, imports) := Reference.resolve session.registry reference session.imports
    (resolved.bind fun value => .succeed (.found value), { session with imports := imports })
  | .settings =>
    match session.loader with
    | some loader => (.succeed (.settings loader.settings), session)
    | none => (.fail (noLoader "config"), session)
  | .assign field value =>
    match session.loader with
    | some _ => (.ofExcept ((Settings.assign field value).map fun _ => .done), session)
    | none => (.fail (noLoader "config"), session)
  | .define name stream => (.succeed .done, session.putStream name stream)
  | .peek name =>
    let (report, stream) := restOf (session.stream name)
    (report, session.putStream name stream)
  | .peekStdin => session.peekStdin
  | .replaceStdin stream => (.succeed .done, { session with stdin := stream })
  | .setVariable name value =>
    (.succeed .done, { session with environment := session.environment.set name value })
  | .place path node =>
    (.succeed .done,
      { session with disk := PlainPath.install session.disk (.ofString path) node })
  | .remove path =>
    (.succeed .done,
      { session with disk := PlainPath.remove session.disk (.ofString path) })
  | .draft draft =>
    (Report.ofOutcome (draft.build.bind fun _ => .succeed .done), session)
  | .configureLogging options =>
    match session.journal.configure options with
    | some (level, journal) => (.succeed (.level level), { session with journal := journal })
    | none => (.fail (Fault.valueFault ("unknown log level: " ++ options.level)), session)

/-- Performs an action, changes the loaded modules as it says and takes its events into the
journal. -/
def step (session : Session) (action : Action) : Report Answer × List Record × Session :=
  let (report, session) := session.perform action
  let (records, journal) := session.journal.recordAll report.events
  (report, records,
    { session with journal := journal, imports := session.imports.change report.changes })

/-- What each of several actions comes to, one after the other, and the session after the last. -/
def run (session : Session) : List Action → List (Report Answer × List Record) × Session
  | [] => ([], session)
  | action :: actions =>
    let (report, records, session) := session.step action
    let (later, session) := run session actions
    ((report, records) :: later, session)

end Session

end FactIntake
