import FactIntake.Proofs.Boundary
import FactIntake.Proofs.Settling

/-!
What a request does to the inputs of a session, however it ends. A path to a file touches neither
standard input nor a stream; a path that designates standard input reads all of that and nothing else; a
stream is read to its end and stays open; a text touches nothing, and so does a request without a loader.
An answer depends on what is read alone. The files, the environment and the loader stay as they are, over
any number of requests.
-/

namespace FactIntake

/-- What is left of a stream that was read: the empty text or no bytes, and the stream as it was if it
cannot be read. -/
structure ReadOut (before after : Stream) : Prop where
  text : ∀ rest, before = .holding (.text rest) → after = .holding (.text "")
  bytes : ∀ rest, before = .holding (.bytes rest) → after = .holding (.bytes [])
  unread : (∀ rest, before ≠ .holding rest) → after = before
  stillOpen : (∀ binary, before ≠ .closed binary) → ∀ binary, after ≠ .closed binary

theorem readOut_drain (stream : Stream) : ReadOut stream stream.drain.2 := by
  cases stream with
  | holding rest =>
    refine ⟨fun text htext => ?_, fun bytes hbytes => ?_, fun hunread => absurd rfl (hunread rest),
      fun _ binary => by simp [Stream.drain]⟩
    · obtain rfl := Stream.holding.inj htext
      rfl
    · obtain rfl := Stream.holding.inj hbytes
      rfl
  | closed binary => exact ⟨by simp, by simp, fun _ => rfl, fun hopen => absurd rfl (hopen binary)⟩
  | broken raised => exact ⟨by simp, by simp, fun _ => rfl, by simp [Stream.drain]⟩

theorem ReadOut.trans {first second third : Stream} (h : ReadOut first second)
    (hlater : ReadOut second third) : ReadOut first third := by
  refine ⟨fun rest hrest => hlater.text "" (h.text rest hrest),
    fun rest hrest => hlater.bytes [] (h.bytes rest hrest), fun hunread => ?_,
    fun hopen => hlater.stillOpen (h.stillOpen hopen)⟩
  have hsame : second = first := h.unread hunread
  rw [hlater.unread (by rwa [hsame]), hsame]

/-- A stream is as it was, or it was read. -/
def Spent (before after : Stream) : Prop := after = before ∨ ReadOut before after

theorem Spent.trans {first second third : Stream} (h : Spent first second)
    (hlater : Spent second third) : Spent first third := by
  rcases h with rfl | h
  · exact hlater
  · rcases hlater with rfl | hlater
    · exact Or.inr h
    · exact Or.inr (h.trans hlater)

namespace Loader

variable {loader : Loader} {path : String}

theorem compileFile_of_file [Codecs] (h : Sentinel.isStdin path loader.settings.extensions = false)
    (disk : Disk) (stdin other : Stream) :
    (loader.compileFile disk stdin path).1 = (loader.compileFile disk other path).1 ∧
      (loader.compileFile disk stdin path).2 = stdin := by
  simp [compileFile, compileSource, h]

theorem compileFile_of_stdin [Codecs] (h : Sentinel.isStdin path loader.settings.extensions = true)
    (disk other : Disk) (stdin : Stream) :
    (loader.compileFile disk stdin path).1 = (loader.compileFile other stdin path).1 ∧
      (loader.compileFile disk stdin path).2 = stdin.drain.2 := by
  simp [compileFile, compileSource, h, compileStream]

end Loader

namespace Session

open Loader

variable {session : Session} {action : Action} {entry : Entry} {loader : Loader}

/-- The session with other files, another standard input and other streams. -/
def withInputs (session : Session) (disk : Disk) (stdin : Stream)
    (streams : List (String × Stream)) : Session :=
  { session with disk := disk, stdin := stdin, streams := streams }

/-- What no request changes. -/
structure Kept (before after : Session) : Prop where
  disk : after.disk = before.disk
  environment : after.environment = before.environment
  loader : after.loader = before.loader
  registry : after.registry = before.registry

/-- Neither standard input nor a stream is touched. -/
structure Untouched (before after : Session) : Prop where
  stdin : after.stdin = before.stdin
  streams : after.streams = before.streams

theorem Kept.trans {first second third : Session} (h : Kept first second)
    (hlater : Kept second third) : Kept first third :=
  ⟨hlater.disk.trans h.disk, hlater.environment.trans h.environment, hlater.loader.trans h.loader,
    hlater.registry.trans h.registry⟩

theorem stream_putStream_self (session : Session) (name : String) (stream : Stream) :
    (session.putStream name stream).stream name = stream := by
  simp [Session.stream, putStream, Entries.lookup_put_self]

theorem stream_putStream_of_ne (session : Session) {name other : String} (stream : Stream)
    (hne : other ≠ name) : (session.putStream name stream).stream other = session.stream other := by
  simp [Session.stream, putStream, Entries.lookup_put_of_ne _ _ hne]

section

variable [Codecs]

/-- An action has the same answer in two sessions, and comes to the same records. -/
structure SameOutcome (session other : Session) (action : Action) : Prop where
  report : (other.step action).1 = (session.step action).1
  records : (other.step action).2.1 = (session.step action).2.1

theorem load_session (session : Session) (loader : Loader) (request : SourceRequest) :
    ∃ stdin streams, (session.load loader request).2 =
      { session with stdin := stdin, streams := streams } := by
  cases request with
  | stream source label => cases source <;> exact ⟨_, _, rfl⟩
  | _ => exact ⟨_, _, rfl⟩

/-- A request changes nothing but imports, standard input and streams. -/
theorem perform_entry_session (session : Session) (h : action.entry? = some entry) :
    ∃ imports stdin streams, (session.perform action).2 =
      { session with imports := imports, stdin := stdin, streams := streams } := by
  obtain ⟨imports, hreceived⟩ := received_session session entry
  cases hresult : (session.received entry).1.result with
  | error fault =>
    rw [perform_of_unreceived h hresult, hreceived]
    exact ⟨imports, _, _, rfl⟩
  | ok loader =>
    rw [perform_of_received h hresult, answered, hreceived]
    obtain ⟨stdin, streams, hload⟩ :=
      load_session { session with imports := imports } loader entry.request
    exact ⟨imports, stdin, streams, hload⟩

theorem kept_of_entry (h : action.entry? = some entry) : Kept session (session.step action).2.2 := by
  obtain ⟨imports, stdin, streams, hperform⟩ := perform_entry_session session h
  constructor <;> simp [hperform]

theorem sameOutcome_of_reports {other : Session} (h : action.entry? = some entry)
    (hjournal : other.journal = session.journal)
    (hreport : (other.perform action).1 = (session.perform action).1) :
    SameOutcome session other action := by
  obtain ⟨_, _, _, hperform⟩ := perform_entry_session session h
  obtain ⟨_, _, _, hother⟩ := perform_entry_session other h
  refine ⟨hreport, ?_⟩
  simp only [step, hreport, hperform, hother, hjournal]

/-- What is done to get a loader does not look at the inputs. -/
theorem received_withInputs (session : Session) (entry : Entry) (disk : Disk) (stdin : Stream)
    (streams : List (String × Stream)) :
    (session.withInputs disk stdin streams).received entry =
      ((session.received entry).1, (session.received entry).2.withInputs disk stdin streams) := by
  unfold received receive
  cases entry.receiver with
  | configured => rfl
  | current => cases hloader : session.loader <;> simp [withInputs, hloader]

theorem untouched_of_unreceived {fault : Fault} (h : action.entry? = some entry)
    (hreceived : (session.received entry).1.result = .error fault) :
    Untouched session (session.step action).2.2 := by
  obtain ⟨imports, hsession⟩ := received_session session entry
  constructor <;> simp [perform_of_unreceived h hreceived, hsession]

theorem sameOutcome_of_unreceived {fault : Fault} (h : action.entry? = some entry)
    (hreceived : (session.received entry).1.result = .error fault) (disk : Disk) (stdin : Stream)
    (streams : List (String × Stream)) :
    SameOutcome session (session.withInputs disk stdin streams) action := by
  have hother := received_withInputs session entry disk stdin streams
  refine sameOutcome_of_reports h rfl ?_
  rw [perform_of_unreceived h hreceived, perform_of_unreceived h (by rw [hother]; exact hreceived),
    hother]

/-- What is imported by then does not matter to the loader. -/
theorem load_imports (session : Session) (imports : Imports) (loader : Loader)
    (request : SourceRequest) :
    (({ session with imports := imports } : Session).load loader request).1 =
        (session.load loader request).1 ∧
      (({ session with imports := imports } : Session).load loader request).2.stdin =
        (session.load loader request).2.stdin ∧
      (({ session with imports := imports } : Session).load loader request).2.streams =
        (session.load loader request).2.streams := by
  cases request with
  | stream source label => cases source <;> exact ⟨rfl, rfl, rfl⟩
  | _ => exact ⟨rfl, rfl, rfl⟩

theorem inputs_of_received (h : action.entry? = some entry)
    (hreceived : (session.received entry).1.result = .ok loader) :
    (session.step action).2.2.stdin = (session.load loader entry.request).2.stdin ∧
      (session.step action).2.2.streams = (session.load loader entry.request).2.streams := by
  obtain ⟨imports, hsession⟩ := received_session session entry
  rw [step_stdin, step_streams, perform_of_received h hreceived, answered, hsession]
  exact (load_imports session imports loader entry.request).2

/-- An answer of the loader that does not look at some of the inputs makes for the same outcome. -/
theorem sameOutcome_of_load {disk : Disk} {stdin : Stream} {streams : List (String × Stream)}
    (h : action.entry? = some entry) (hreceived : (session.received entry).1.result = .ok loader)
    (hload : ((session.withInputs disk stdin streams).load loader entry.request).1 =
      (session.load loader entry.request).1) :
    SameOutcome session (session.withInputs disk stdin streams) action := by
  have hother := received_withInputs session entry disk stdin streams
  obtain ⟨imports, hsession⟩ := received_session session entry
  have hanswered : (((session.received entry).2.withInputs disk stdin streams).load loader
      entry.request).1 = ((session.received entry).2.load loader entry.request).1 := by
    rw [hsession, (load_imports session imports loader entry.request).1, ← hload]
    exact (load_imports (session.withInputs disk stdin streams) imports loader entry.request).1
  refine sameOutcome_of_reports h rfl ?_
  rw [perform_of_received h hreceived, perform_of_received h (by rw [hother]; exact hreceived)]
  simp only [answered, hother, hanswered]

/-- A path to a file reads no input, and its outcome does not depend on any. -/
theorem isolated_of_file {path : String} (h : action.entry? = some entry)
    (hreceived : (session.received entry).1.result = .ok loader)
    (hrequest : entry.request = .file path)
    (hfile : Sentinel.isStdin path loader.settings.extensions = false) :
    Untouched session (session.step action).2.2 ∧
      ∀ stdin streams, SameOutcome session (session.withInputs session.disk stdin streams) action := by
  have hcompile := Loader.compileFile_of_file hfile session.disk
  obtain ⟨hstdin, hstreams⟩ := inputs_of_received h hreceived
  rw [hrequest] at hstdin hstreams
  refine ⟨⟨?_, hstreams⟩, fun stdin streams => sameOutcome_of_load h hreceived ?_⟩
  · rw [hstdin]
    exact (hcompile session.stdin session.stdin).2
  · rw [hrequest]
    exact (hcompile stdin session.stdin).1

/-- A path that designates standard input reads all of that, and its outcome does not depend on
anything else. -/
theorem isolated_of_stdin {path : String} (h : action.entry? = some entry)
    (hreceived : (session.received entry).1.result = .ok loader)
    (hrequest : entry.request = .file path)
    (hstdin : Sentinel.isStdin path loader.settings.extensions = true) :
    ReadOut session.stdin (session.step action).2.2.stdin ∧
      (session.step action).2.2.streams = session.streams ∧
      ∀ disk streams, SameOutcome session (session.withInputs disk session.stdin streams) action := by
  have hcompile := fun disk => Loader.compileFile_of_stdin hstdin disk session.disk session.stdin
  obtain ⟨hafter, hstreams⟩ := inputs_of_received h hreceived
  rw [hrequest] at hafter hstreams
  refine ⟨?_, hstreams, fun disk streams => sameOutcome_of_load h hreceived ?_⟩
  · have hdrained : (session.step action).2.2.stdin = session.stdin.drain.2 :=
      hafter.trans (hcompile session.disk).2
    rw [hdrained]
    exact readOut_drain session.stdin
  · rw [hrequest]
    exact (hcompile disk).1

/-- A stream is read to its end, and the outcome does not depend on anything else. -/
theorem isolated_of_named {name label : String} (h : action.entry? = some entry)
    (hreceived : (session.received entry).1.result = .ok loader)
    (hrequest : entry.request = .stream (.named name) label) :
    ReadOut (session.stream name) ((session.step action).2.2.stream name) ∧
      (∀ other, other ≠ name → (session.step action).2.2.stream other = session.stream other) ∧
      (session.step action).2.2.stdin = session.stdin ∧
      ∀ disk stdin streams, (session.withInputs disk stdin streams).stream name =
          session.stream name →
        SameOutcome session (session.withInputs disk stdin streams) action := by
  obtain ⟨hstdin, hstreams⟩ := inputs_of_received h hreceived
  rw [hrequest] at hstdin hstreams
  have hstream : ∀ other, (session.step action).2.2.stream other =
      (session.putStream name (session.stream name).drain.2).stream other := by
    intro other
    rw [Session.stream, hstreams]
    rfl
  refine ⟨?_, fun other hne => ?_, hstdin, fun disk stdin streams hsame => ?_⟩
  · rw [hstream, stream_putStream_self]
    exact readOut_drain _
  · rw [hstream, stream_putStream_of_ne _ _ hne]
  · refine sameOutcome_of_load h hreceived ?_
    rw [hrequest]
    show (loader.compileStream ((session.withInputs disk stdin streams).stream name) label).1 = _
    rw [hsame]
    rfl

theorem isolated_of_given {stream : Stream} {label : String} (h : action.entry? = some entry)
    (hreceived : (session.received entry).1.result = .ok loader)
    (hrequest : entry.request = .stream (.given stream) label) :
    ReadOut stream (loader.compileStream stream label).2 ∧
      Untouched session (session.step action).2.2 ∧
      ∀ disk stdin streams,
        SameOutcome session (session.withInputs disk stdin streams) action := by
  obtain ⟨hstdin, hstreams⟩ := inputs_of_received h hreceived
  rw [hrequest] at hstdin hstreams
  refine ⟨readOut_drain stream, ⟨hstdin, hstreams⟩, fun disk stdin streams => ?_⟩
  refine sameOutcome_of_load h hreceived ?_
  rw [hrequest]
  rfl

/-- A text, and what is no source, touches no input. -/
theorem isolated_of_text (h : action.entry? = some entry)
    (hreceived : (session.received entry).1.result = .ok loader)
    (hrequest : (∃ text label, entry.request = .text text label) ∨
      ∃ typeName, entry.request = .other typeName) :
    Untouched session (session.step action).2.2 ∧
      ∀ disk stdin streams,
        SameOutcome session (session.withInputs disk stdin streams) action := by
  obtain ⟨hstdin, hstreams⟩ := inputs_of_received h hreceived
  rcases hrequest with ⟨text, label, hrequest⟩ | ⟨typeName, hrequest⟩
  all_goals
    rw [hrequest] at hstdin hstreams
    refine ⟨⟨hstdin, hstreams⟩, fun disk stdin streams => sameOutcome_of_load h hreceived ?_⟩
    rw [hrequest]
    rfl

/-- What one request does to the inputs. -/
theorem spent_of_entry (session : Session) (h : action.entry? = some entry) :
    Spent session.stdin (session.step action).2.2.stdin ∧
      ∀ name, Spent (session.stream name) ((session.step action).2.2.stream name) := by
  have huntouched : Untouched session (session.step action).2.2 →
      Spent session.stdin (session.step action).2.2.stdin ∧
        ∀ name, Spent (session.stream name) ((session.step action).2.2.stream name) := by
    intro hsame
    refine ⟨Or.inl hsame.stdin, fun name => Or.inl ?_⟩
    rw [Session.stream, hsame.streams]
    rfl
  cases hreceived : (session.received entry).1.result with
  | error fault => exact huntouched (untouched_of_unreceived h hreceived)
  | ok loader =>
    cases hrequest : entry.request with
    | file path =>
      cases hpath : Sentinel.isStdin path loader.settings.extensions with
      | false => exact huntouched (isolated_of_file h hreceived hrequest hpath).1
      | true =>
        obtain ⟨hread, hstreams, -⟩ := isolated_of_stdin h hreceived hrequest hpath
        refine ⟨Or.inr hread, fun name => Or.inl ?_⟩
        rw [Session.stream, hstreams]
        rfl
    | stream source label =>
      cases source with
      | given stream => exact huntouched (isolated_of_given h hreceived hrequest).2.1
      | named name =>
        obtain ⟨hread, hothers, hstdin, -⟩ := isolated_of_named h hreceived hrequest
        refine ⟨Or.inl hstdin, fun other => ?_⟩
        by_cases hname : other = name
        · subst hname
          exact Or.inr hread
        · exact Or.inl (hothers other hname)
    | text text label =>
      exact huntouched (isolated_of_text h hreceived (Or.inl ⟨text, label, hrequest⟩)).1
    | other typeName =>
      exact huntouched (isolated_of_text h hreceived (Or.inr ⟨typeName, hrequest⟩)).1

/-- A request for no path that designates standard input leaves that as it is. -/
theorem stdin_of_entry (h : action.entry? = some entry)
    (hpath : ∀ path, entry.request = .file path → Sentinel.isStdin path session.recognised = false) :
    (session.step action).2.2.stdin = session.stdin := by
  cases hreceived : (session.received entry).1.result with
  | error fault => exact (untouched_of_unreceived h hreceived).stdin
  | ok loader =>
    cases hrequest : entry.request with
    | file path =>
      have hfile := not_isStdin_of_received hreceived (hpath path hrequest)
      exact (isolated_of_file h hreceived hrequest hfile).1.stdin
    | stream source label =>
      cases source with
      | given stream => exact (isolated_of_given h hreceived hrequest).2.1.stdin
      | named name => exact (isolated_of_named h hreceived hrequest).2.2.1
    | text text label => exact (isolated_of_text h hreceived (Or.inl ⟨text, label, hrequest⟩)).1.stdin
    | other typeName => exact (isolated_of_text h hreceived (Or.inr ⟨typeName, hrequest⟩)).1.stdin

/-- What actions do to a session that only make requests. -/
structure Served (session : Session) (actions : List Action) (after : Session) : Prop where
  kept : Kept session after
  stdin : Spent session.stdin after.stdin
  stream : ∀ name, Spent (session.stream name) (after.stream name)
  stdinKept : (∀ action ∈ actions, ∀ entry path, action.entry? = some entry →
    entry.request = .file path → Sentinel.isStdin path session.recognised = false) →
    after.stdin = session.stdin

theorem run_served {actions : List Action} (h : ∀ action ∈ actions, action.entry?.isSome) :
    Served session actions (session.run actions).2 := by
  induction actions generalizing session with
  | nil => exact ⟨⟨rfl, rfl, rfl, rfl⟩, Or.inl rfl, fun _ => Or.inl rfl, fun _ => rfl⟩
  | cons action actions ih =>
    obtain ⟨entry, hentry⟩ := Option.isSome_iff_exists.mp (h action List.mem_cons_self)
    have hkept : Kept session (session.step action).2.2 := kept_of_entry hentry
    have hrecognised : (session.step action).2.2.recognised = session.recognised := by
      rw [recognised, hkept.loader]
      rfl
    obtain ⟨hstdin, hstream⟩ := spent_of_entry session hentry
    have hlater : Served (session.step action).2.2 actions ((session.step action).2.2.run actions).2 :=
      ih fun other hother => h other (List.mem_cons_of_mem _ hother)
    refine ⟨hkept.trans hlater.kept, hstdin.trans hlater.stdin,
      fun name => (hstream name).trans (hlater.stream name), fun hpaths => ?_⟩
    refine (hlater.stdinKept fun other hother => ?_).trans
      (stdin_of_entry hentry fun path => hpaths action List.mem_cons_self entry path hentry)
    rw [hrecognised]
    exact hpaths other (List.mem_cons_of_mem _ hother)

/-- However a request ends, it reads the input that it names and nothing else, and its outcome depends
on nothing else; what it reads is at its end, and open if it was. Files, environment and loader stay as
they are, over any number of requests. -/
theorem requests_isolated (session : Session) :
    (∀ action entry, action.entry? = some entry →
      Kept session (session.step action).2.2 ∧
      (∀ fault, (session.received entry).1.result = .error fault →
        Untouched session (session.step action).2.2 ∧
        ∀ disk stdin streams,
          SameOutcome session (session.withInputs disk stdin streams) action) ∧
      ∀ loader, (session.received entry).1.result = .ok loader →
        (∀ path, entry.request = .file path →
          Sentinel.isStdin path loader.settings.extensions = false →
          Untouched session (session.step action).2.2 ∧
          ∀ stdin streams,
            SameOutcome session (session.withInputs session.disk stdin streams) action) ∧
        (∀ path, entry.request = .file path →
          Sentinel.isStdin path loader.settings.extensions = true →
          ReadOut session.stdin (session.step action).2.2.stdin ∧
          (session.step action).2.2.streams = session.streams ∧
          ∀ disk streams,
            SameOutcome session (session.withInputs disk session.stdin streams) action) ∧
        (∀ name label, entry.request = .stream (.named name) label →
          ReadOut (session.stream name) ((session.step action).2.2.stream name) ∧
          (∀ other, other ≠ name →
            (session.step action).2.2.stream other = session.stream other) ∧
          (session.step action).2.2.stdin = session.stdin ∧
          ∀ disk stdin streams,
            (session.withInputs disk stdin streams).stream name = session.stream name →
            SameOutcome session (session.withInputs disk stdin streams) action) ∧
        (∀ stream label, entry.request = .stream (.given stream) label →
          ReadOut stream (loader.compileStream stream label).2 ∧
          Untouched session (session.step action).2.2 ∧
          ∀ disk stdin streams,
            SameOutcome session (session.withInputs disk stdin streams) action) ∧
        ∀ text label, entry.request = .text text label →
          Untouched session (session.step action).2.2 ∧
          ∀ disk stdin streams,
            SameOutcome session (session.withInputs disk stdin streams) action) ∧
    ∀ actions, (∀ action ∈ actions, action.entry?.isSome) →
      Served session actions (session.run actions).2 := by
  refine ⟨fun action entry h =>
    ⟨kept_of_entry h, fun fault hreceived => ?_, fun loader hreceived => ?_⟩, fun actions => run_served⟩
  · exact ⟨untouched_of_unreceived h hreceived, sameOutcome_of_unreceived h hreceived⟩
  · exact ⟨fun path => isolated_of_file h hreceived, fun path => isolated_of_stdin h hreceived,
      fun name label => isolated_of_named h hreceived,
      fun stream label => isolated_of_given h hreceived,
      fun text label hrequest => isolated_of_text h hreceived (Or.inl ⟨text, label, hrequest⟩)⟩

end

/-- A session with a loader whose compilers fail, with text on standard input and on a stream. -/
def stalled : Session :=
  { registry := fun _ => none, imports := .empty, disk := ⟨[], []⟩, environment := ⟨none, none⟩,
    stdin := .holding (.text "A"), streams := [("notes", .holding (.text "B"))],
    loader := some ⟨fun _ => Samples.failing Loader.unplaced, .default⟩, journal := .fresh }

/-- Standard input is read to its end though the compiler fails, a stream though its label is refused; a
path that is not there, a text and a loader that is not configured read nothing. -/
theorem stalled_isolated :
    (stalled.step (.compileFile .current "-.cql")).2.2.stdin = .holding (.text "") ∧
    (stalled.step (.compileFile .current "-.cql")).2.2.streams = stalled.streams ∧
    (stalled.step (.compileStream .current (.named "notes") "")).2.2.stream "notes" =
      .holding (.text "") ∧
    ((stalling unplaced).compileStream (.holding (.bytes [67])) "c").2 = .holding (.bytes []) ∧
    Untouched stalled (stalled.step (.compileFile .current "m.cql")).2.2 ∧
    Untouched stalled (stalled.step (.compileText .current "D" "d")).2.2 ∧
    Untouched stalled (stalled.step (.compileFile .configured "-.cql")).2.2 ∧
    Served stalled [.compileFile .current "m.cql", .load (.file "-.cql")]
      (stalled.run [.compileFile .current "m.cql", .load (.file "-.cql")]).2 := by
  obtain ⟨hentry, hrun⟩ := requests_isolated stalled
  have hstdin := ((hentry (.compileFile .current "-.cql") _ rfl).2.2 (stalling unplaced) rfl).2.1
    "-.cql" rfl (by decide)
  have hnamed := ((hentry (.compileStream .current (.named "notes") "") _ rfl).2.2
    (stalling unplaced) rfl).2.2.1 "notes" "" rfl
  have hgiven := ((hentry (.compileStream .current (.given (.holding (.bytes [67]))) "c") _ rfl).2.2
    (stalling unplaced) rfl).2.2.2.1 _ "c" rfl
  have hfile := ((hentry (.compileFile .current "m.cql") _ rfl).2.2 (stalling unplaced) rfl).1
    "m.cql" rfl (by decide)
  have htext := ((hentry (.compileText .current "D" "d") _ rfl).2.2 (stalling unplaced) rfl).2.2.2.2
    "D" "d" rfl
  exact ⟨hstdin.1.text "A" rfl, hstdin.2.1, hnamed.1.text "B" rfl, hgiven.1.bytes [67] rfl, hfile.1,
    htext.1, ((hentry (.compileFile .configured "-.cql") _ rfl).2.1 _ rfl).1, hrun _ (by decide)⟩

end Session

end FactIntake
