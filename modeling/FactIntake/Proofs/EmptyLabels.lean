import FactIntake.Proofs.CallDiscipline

/-!
Empty labels. A text with an empty label is refused at once, and no compiler is built for one. A stream
is read and decoded before its label is looked at: what was unread is gone when the label is refused,
and what goes wrong with reading or decoding comes out instead. The label alone is refused, and the
stream left as it was, if nothing was unread, or if the stream fails with that very fault by itself.
-/

namespace FactIntake

/-- An open stream that has been read to its end. -/
def Stream.AtEnd (stream : Stream) : Prop := stream = .holding (.text "") ∨ stream = .holding (.bytes [])

theorem Stream.atEnd_iff {stream : Stream} :
    stream.AtEnd ↔ ∃ rest, stream = .holding rest ∧ rest.emptied = rest := by
  constructor
  · rintro (rfl | rfl)
    · exact ⟨_, rfl, rfl⟩
    · exact ⟨_, rfl, rfl⟩
  · rintro ⟨rest, rfl, hempty⟩
    cases rest with
    | text => exact Or.inl (congrArg holding hempty.symm)
    | bytes => exact Or.inr (congrArg holding hempty.symm)

namespace Loader

variable {loader : Loader} {stream : Stream}

theorem closedFault_ne_emptyLabel (binary : Bool) : Stream.closedFault binary ≠ emptyLabel := by
  cases binary <;> simp [Stream.closedFault, emptyLabel, Fault.valueFault]

variable [Codecs]

/-- Nothing is the empty text in every encoding. -/
theorem contentText_of_emptied {rest : Content} (h : rest.emptied = rest) : loader.contentText rest = .ok "" := by
  rw [← h]
  cases rest with
  | text text => rfl
  | bytes bytes =>
    show loader.decode [] = .ok ""
    cases hfind : Encoding.find? loader.settings.encoding with
    | none => simp [decode, hfind]
    | some encoding => simp [decode, hfind, Encoding.decode, textOf]

/-- What reading a stream with an empty label comes to: reading and decoding come first. -/
structure ReadBeforeRefusal {α : Type} (loader : Loader) (before : Stream) (result : Except Fault α)
    (after : Stream) : Prop where
  refused : ∀ text, loader.streamText before = .ok text → result = .error emptyLabel
  failed : ∀ fault, loader.streamText before = .error fault → result = .error fault
  drained : after = before.drain.2
  intact_iff : result = .error emptyLabel ∧ after = before ↔
    before.AtEnd ∨ ∃ raised, before = .broken raised ∧ raised.fault = emptyLabel

theorem readBeforeRefusal {α : Type} {result : Except Fault α}
    (hrefused : ∀ text, loader.streamText stream = .ok text → result = .error emptyLabel)
    (hfailed : ∀ fault, loader.streamText stream = .error fault → result = .error fault) :
    ReadBeforeRefusal loader stream result stream.drain.2 := by
  refine ⟨hrefused, hfailed, rfl, ?_⟩
  rw [Stream.atEnd_iff]
  cases stream with
  | holding rest =>
    constructor
    · rintro ⟨-, hafter⟩
      exact Or.inl ⟨rest, rfl, Stream.holding.inj hafter⟩
    · rintro (⟨content, hcontent, hempty⟩ | ⟨raised, hraised, -⟩)
      · obtain rfl := Stream.holding.inj hcontent
        exact ⟨hrefused "" (contentText_of_emptied hempty), congrArg Stream.holding hempty⟩
      · cases hraised
  | closed binary =>
    have hclosed : result = .error (Stream.closedFault binary) := hfailed _ rfl
    constructor
    · rintro ⟨hresult, -⟩
      exact absurd (Except.error.inj (hclosed.symm.trans hresult)) (closedFault_ne_emptyLabel binary)
    · rintro (⟨content, hcontent, -⟩ | ⟨raised, hraised, -⟩)
      · cases hcontent
      · cases hraised
  | broken raised =>
    have hbroken : result = .error raised.fault := hfailed _ rfl
    constructor
    · rintro ⟨hresult, -⟩
      exact Or.inr ⟨raised, rfl, Except.error.inj (hbroken.symm.trans hresult)⟩
    · rintro (⟨content, hcontent, -⟩ | ⟨other, hother, hfault⟩)
      · cases hcontent
      · obtain rfl := Stream.broken.inj hother
        exact ⟨by rw [hbroken, hfault], rfl⟩

theorem compileStream_unlabelled (loader : Loader) (stream : Stream) :
    (loader.compileStream stream "").1.calls = [] ∧
      ReadBeforeRefusal loader stream (loader.compileStream stream "").1.result
        (loader.compileStream stream "").2 := by
  refine ⟨?_, readBeforeRefusal (fun text htext => ?_) fun fault hfault => ?_⟩
  · cases htext : loader.streamText stream with
    | ok text => rw [compileStream_calls_of_text htext, compileText_unlabelled]
    | error fault => exact compileStream_calls_of_fault htext ""
  · rw [compileStream_of_text htext, Report.after_result]
    rfl
  · rw [compileStream_of_fault hfault, Report.after_result]
    rfl

end Loader

namespace Session

open Loader

section

variable [Codecs]

/-- The stream of a request after its answer. A stream that is given for the call is in no session. -/
def left (session : Session) (loader : Loader) : StreamSource → Stream
  | .named name => session.stream name
  | .given stream => (loader.compileStream stream "").2

theorem step_unlabelled {session : Session} {action : Action} {entry : Entry} {loader : Loader}
    {source : StreamSource} (h : action.entry? = some entry)
    (hreceived : (session.received entry).1.result = .ok loader) (hrequest : entry.request = .stream source "") :
    (session.step action).1.calls = (session.received entry).1.calls ∧
      ReadBeforeRefusal loader (session.opened source) (session.step action).1.result
        ((session.step action).2.2.left loader source) := by
  obtain ⟨hresult, hcalls, -⟩ := step_of_received h hreceived
  have hanswered : (session.answered entry loader).1 = (loader.compileStream (session.opened source) "").1 := by
    rw [answered_report, hrequest]
    cases source <;> rfl
  obtain ⟨hnone, hread⟩ := compileStream_unlabelled loader (session.opened source)
  rw [hanswered] at hresult hcalls
  have hleft : (session.step action).2.2.left loader source = (session.opened source).drain.2 := by
    cases source with
    | given stream => rfl
    | named name =>
      obtain ⟨-, hstreams⟩ := inputs_of_received h hreceived
      rw [left, Session.stream, hstreams, hrequest]
      exact stream_putStream_self session name _
  refine ⟨by rw [hcalls, hnone, List.append_nil], ?_⟩
  rw [hleft, hresult]
  apply readBeforeRefusal
  · intro text htext
    rw [hread.refused text htext]
    rfl
  · intro fault hfault
    rw [hread.failed fault hfault]
    rfl

/-- Whoever asks for it, a stream with an empty label is read to its end and decoded first; only then is
the label refused. No compiler is built. -/
theorem unlabelled_stream_read_first (loader : Loader) :
    (∀ stream, (loader.compileStream stream "").1.calls = [] ∧
      ReadBeforeRefusal loader stream (loader.compileStream stream "").1.result
        (loader.compileStream stream "").2) ∧
    ∀ (session : Session) (action : Action) (entry : Entry) (source : StreamSource),
      action.entry? = some entry → (session.received entry).1.result = .ok loader →
      entry.request = .stream source "" →
      (session.step action).1.calls = (session.received entry).1.calls ∧
        ReadBeforeRefusal loader (session.opened source) (session.step action).1.result
          ((session.step action).2.2.left loader source) :=
  ⟨compileStream_unlabelled loader, fun _ _ _ _ h hreceived hrequest => step_unlabelled h hreceived hrequest⟩

end

/-- A session with a loader, with text on one stream and bytes that are no text on another. -/
def waiting : Session :=
  { fresh (fun _ => none) ⟨none, none⟩ with
    streams := [("notes", .holding (.text "ab")), ("bytes", .holding (.bytes [0xFF]))]
    loader := some ⟨fun _ => Samples.echo, .default⟩ }

/-- The label is refused once the text has been read. -/
theorem unlabelled_text_read :
    (waiting.step (.compileStream .current (.named "notes") "")).1.calls = [] ∧
    (waiting.step (.compileStream .current (.named "notes") "")).1.result = .error emptyLabel ∧
    (waiting.step (.compileStream .current (.named "notes") "")).2.2.stream "notes" = .holding (.text "") := by
  obtain ⟨hcalls, hread⟩ := (unlabelled_stream_read_first ⟨Samples.echo, .default⟩).2 waiting
    (.compileStream .current (.named "notes") "") _ (.named "notes") rfl rfl rfl
  exact ⟨hcalls, hread.refused "ab" rfl, hread.drained⟩

/-- The text is gone although its label was refused, and bytes that are no text fail before the label
is. -/
theorem unlabelled_read_not_intact :
    (waiting.step (.compileStream .current (.named "notes") "")).2.2.stream "notes" ≠ waiting.stream "notes" ∧
    (waiting.step (.load (.stream (.named "bytes") ""))).1.result ≠ .error emptyLabel := by
  obtain ⟨-, htext⟩ := @step_unlabelled _ waiting (.compileStream .current (.named "notes") "") _
    ⟨Samples.echo, .default⟩ (.named "notes") rfl rfl rfl
  obtain ⟨-, hbytes⟩ := @step_unlabelled _ waiting (.load (.stream (.named "bytes") "")) _
    ⟨Samples.echo, .default⟩ (.named "bytes") rfl rfl rfl
  constructor
  · rw [show (waiting.step _).2.2.stream "notes" = .holding (.text "") from htext.drained]
    simp [Session.stream, waiting]
  · rw [hbytes.failed _ rfl]
    simp [undecodedFault, emptyLabel, Fault.valueFault]

end Session

end FactIntake
