import FactIntake.Proofs.SameBytes
import FactIntake.Proofs.Utf8Forms

/-!
Sources in UTF-8. From a file, from standard input and from a stream of bytes a text comes to the compiler
as it was written, or not at all: the factory is called exactly if the bytes are well-formed, and what is
compiled is the text that they were written of, which only a file has given uniform line ends. Other bytes
make a source unreadable, and a stream raises the flaw that they have.
-/

namespace FactIntake.Loader

open Encoding (Bytes)
open Encoding.Utf8 (WellFormed encode)

variable {disk : Disk} {stdin : Stream} {path : String} {bytes : Bytes}

/-- The calls that come of a text with a factory of which each call is on record: it is called with the
label, and unless that fails, what it builds compiles the text. -/
def callsFor (build : String → Outcome (String → Outcome Model)) (name text : String) : List Call :=
  .build name :: match (build name).result with
    | .ok _ => [.compile name text]
    | .error _ => []

theorem compileText_recorded (settings : Settings) (build : String → Outcome (String → Outcome Model))
    {name : String} (hname : name ≠ "") (text : String) :
    (compileText ⟨.recorded build, settings⟩ text name).calls = callsFor build name text := by
  rw [compileText_eq hname]
  unfold Factory.run Factory.recorded callsFor
  cases hbuilt : (build name).result with
  | error fault =>
    simp only [Report.bind_eq, Report.bind, Report.call, hbuilt]
  | ok compile =>
    cases hcompiled : (compile text).result <;>
      simp [Report.bind_eq, Report.bind, Report.call, Report.succeed, Report.log, hbuilt, hcompiled]

/-- Bytes come to the compiler intact or not at all: the factory is called exactly if they are
well-formed, and the text that they were written of is compiled, changed by `lined` alone. -/
structure Intact (bytes : Bytes) (name : String) (lined : String → String)
    (compiled : Factory → Report Model) : Prop where
  called : ∀ build, Call.build name ∈ (compiled (.recorded build)).calls ↔ WellFormed bytes
  handed : ∀ build text, bytes = encode text.toList →
    (compiled (.recorded build)).calls = callsFor build name (lined text)
  uncalled : ¬ WellFormed bytes → ∀ factory, (compiled factory).calls = []

/-- It is enough to tell what comes of a text, and that nothing is called for other bytes. -/
theorem Intact.of_cases {name : String} {lined : String → String} {compiled : Factory → Report Model}
    (htext : ∀ build text, bytes = encode text.toList →
      (compiled (.recorded build)).calls = callsFor build name (lined text))
    (hflaw : ¬ WellFormed bytes → ∀ factory, (compiled factory).calls = []) :
    Intact bytes name lined compiled := by
  refine ⟨?_, htext, hflaw⟩
  intro build
  by_cases hwell : WellFormed bytes
  · obtain ⟨cs, hcs⟩ := hwell.exists_encode
    have hcalls := htext build (String.ofList cs) (by rw [String.toList_ofList, hcs])
    rw [hcalls]
    exact iff_of_true List.mem_cons_self hwell
  · rw [hflaw hwell]
    exact iff_of_false List.not_mem_nil hwell

section

variable [Codecs]

/-- The loader reads its sources as UTF-8. -/
def ReadsUtf8 (settings : Settings) : Prop := Encoding.find? settings.encoding = some .utf8

theorem decode_utf8 (loader : Loader) (hencoding : ReadsUtf8 loader.settings) (bytes : Bytes) :
    loader.decode bytes = match Encoding.Utf8.decode bytes with
      | .ok cs => .ok (String.ofList cs)
      | .error flaw => .error (.undecodable flaw) := by
  have hdecode : Encoding.decode .utf8 bytes = Encoding.ofFlawed (Encoding.Utf8.decode bytes) := by
    cases bytes with
    | nil => rfl
    | cons b rest => rfl
  unfold ReadsUtf8 at hencoding
  simp only [decode, hencoding, hdecode]
  cases Encoding.Utf8.decode bytes with
  | ok cs => rfl
  | error flaw => rfl

theorem decode_of_encode (loader : Loader) (hencoding : ReadsUtf8 loader.settings) {text : String}
    (h : bytes = encode text.toList) : loader.decode bytes = .ok text := by
  rw [decode_utf8 loader hencoding, h, Encoding.Utf8.decode_encode]
  exact congrArg Except.ok (String.ofList_toList)

theorem decode_of_not_wellFormed (loader : Loader) (hencoding : ReadsUtf8 loader.settings)
    (h : ¬ WellFormed bytes) : ∃ flaw, loader.decode bytes = .error (.undecodable flaw) := by
  obtain ⟨flaw, hflaw⟩ := Encoding.Utf8.not_wellFormed_iff.mp h
  refine ⟨flaw, ?_⟩
  rw [decode_utf8 loader hencoding, hflaw]

/-- A file in UTF-8 is always opened as text. -/
theorem opensAsText_utf8 (loader : Loader) (hencoding : ReadsUtf8 loader.settings) (bytes : Bytes) :
    loader.opensAsText bytes := by
  unfold ReadsUtf8 at hencoding
  simp only [opensAsText, hencoding, Option.any_some]
  rfl

/-- Every flaw is told of a file as it is of its bytes. -/
theorem tellsInFile_utf8 (loader : Loader) (hencoding : ReadsUtf8 loader.settings) (bytes : Bytes)
    (flaw : Encoding.Flaw) : loader.tellsInFile bytes flaw := by
  unfold ReadsUtf8 at hencoding
  simp only [tellsInFile, hencoding, Option.any_some]
  rfl

/-- What reading a source gives for bytes that are a text. -/
theorem reads_of_encode_file (loader : Loader) (hencoding : ReadsUtf8 loader.settings)
    (hfile : Sentinel.isStdin path loader.settings.extensions = false)
    (hopen : fileBytes disk path = .ok bytes) {text : String} (h : bytes = encode text.toList) :
    Reads loader disk stdin path (.ok (Text.newlined text)) := by
  have hdecode : loader.decode bytes = .ok text := decode_of_encode loader hencoding h
  apply Reads.file hfile hopen
  exact decodeFile_of_opensAsText (opensAsText_utf8 loader hencoding bytes) hdecode

theorem reads_of_flaw_file (loader : Loader) (hencoding : ReadsUtf8 loader.settings)
    (hfile : Sentinel.isStdin path loader.settings.extensions = false)
    (hopen : fileBytes disk path = .ok bytes) (h : ¬ WellFormed bytes) :
    ∃ flaw, Reads loader disk stdin path (.error (.undecodable flaw)) := by
  obtain ⟨flaw, hflaw⟩ := decode_of_not_wellFormed loader hencoding h
  obtain ⟨found, hdecode, -⟩ := decodeFile_of_told hflaw (tellsInFile_utf8 loader hencoding bytes flaw)
  exact ⟨found, .file hfile hopen hdecode⟩

/-- A source that reads as a text has it compiled under its label. -/
theorem calls_of_reads {text : String} {settings : Settings}
    {build : String → Outcome (String → Outcome Model)}
    (h : Reads ⟨.recorded build, settings⟩ disk stdin path (.ok text)) :
    (compileFile ⟨.recorded build, settings⟩ disk stdin path).1.calls =
      callsFor build (label ⟨.recorded build, settings⟩ path) text := by
  have hreduces : Reduces ⟨.recorded build, settings⟩ disk stdin path text
      (label ⟨.recorded build, settings⟩ path) := h.hands (.recorded build)
  exact hreduces.calls.trans (compileText_recorded settings build (label_ne_empty h.holds) text)

/-- An unreadable source fails with a failure of the path that wraps the fault of reading. -/
theorem fails_of_isUnreadable {settings : Settings} {message : String}
    (h : IsUnreadable settings disk stdin path message) (factory : Factory) :
    ∃ failure, (compileFile ⟨factory, settings⟩ disk stdin path).1.result = .error failure ∧
      failure.className = "CompileFailure" ∧ failure.kind? = some "SourceIOError" := by
  obtain ⟨-, failure, original, cause, hresult, hwraps, hunreadable, -⟩ := h factory
  refine ⟨failure, hresult, hwraps.className, ?_⟩
  rw [hwraps.kind, hunreadable.className]

section Ways

variable {settings : Settings}

theorem file_intact (hencoding : ReadsUtf8 settings)
    (hfile : Sentinel.isStdin path settings.extensions = false)
    (hopen : fileBytes disk path = .ok bytes) :
    Intact bytes path Text.newlined
      (fun factory => (compileFile ⟨factory, settings⟩ disk stdin path).1) ∧
    (¬ WellFormed bytes → ∀ factory, ∃ failure,
      (compileFile ⟨factory, settings⟩ disk stdin path).1.result = .error failure ∧
      failure.className = "CompileFailure" ∧ failure.kind? = some "SourceIOError") := by
  have hflawed : ¬ WellFormed bytes → ∀ factory, ∃ flaw,
      Reads ⟨factory, settings⟩ disk stdin path (.error (.undecodable flaw)) := by
    intro hmalformed factory
    exact reads_of_flaw_file ⟨factory, settings⟩ hencoding hfile hopen hmalformed
  constructor
  · apply Intact.of_cases
    · intro build text htext
      have hreads : Reads ⟨.recorded build, settings⟩ disk stdin path (.ok (Text.newlined text)) :=
        reads_of_encode_file ⟨.recorded build, settings⟩ hencoding hfile hopen htext
      have hlabel : label ⟨.recorded build, settings⟩ path = path := label_of_file hfile
      rw [calls_of_reads hreads, hlabel]
    · intro hmalformed factory
      obtain ⟨flaw, hreads⟩ := hflawed hmalformed factory
      exact hreads.calls_eq_nil
  · intro hmalformed factory
    obtain ⟨flaw, hreads⟩ := hflawed hmalformed factory
    exact fails_of_isUnreadable hreads.isUnreadable factory

theorem stdin_intact (hencoding : ReadsUtf8 settings)
    (hstdin : Sentinel.isStdin path settings.extensions = true) :
    Intact bytes stdinLabel id
      (fun factory => (compileFile ⟨factory, settings⟩ disk (.holding (.bytes bytes)) path).1) ∧
    (¬ WellFormed bytes → ∀ factory, ∃ failure,
      (compileFile ⟨factory, settings⟩ disk (.holding (.bytes bytes)) path).1.result = .error failure ∧
      failure.className = "CompileFailure" ∧ failure.kind? = some "SourceIOError") := by
  have hflawed : ¬ WellFormed bytes → ∀ factory, ∃ flaw,
      Reads ⟨factory, settings⟩ disk (.holding (.bytes bytes)) path (.error (.undecodable flaw)) := by
    intro hmalformed factory
    obtain ⟨flaw, hflaw⟩ := decode_of_not_wellFormed ⟨factory, settings⟩ hencoding hmalformed
    exact ⟨flaw, .stdin hstdin rfl hflaw⟩
  constructor
  · apply Intact.of_cases
    · intro build text htext
      have hreads : Reads ⟨.recorded build, settings⟩ disk (.holding (.bytes bytes)) path (.ok text) :=
        .stdin hstdin rfl (decode_of_encode ⟨.recorded build, settings⟩ hencoding htext)
      have hlabel : label ⟨.recorded build, settings⟩ path = stdinLabel := label_of_stdin hstdin
      rw [calls_of_reads hreads, hlabel]
      rfl
    · intro hmalformed factory
      obtain ⟨flaw, hreads⟩ := hflawed hmalformed factory
      exact hreads.calls_eq_nil
  · intro hmalformed factory
    obtain ⟨flaw, hreads⟩ := hflawed hmalformed factory
    exact fails_of_isUnreadable hreads.isUnreadable factory

theorem stream_intact (hencoding : ReadsUtf8 settings) {name : String} (hname : name ≠ "") :
    Intact bytes name id
      (fun factory => (compileStream ⟨factory, settings⟩ (.holding (.bytes bytes)) name).1) ∧
    (¬ WellFormed bytes → ∃ flaw, ∀ factory,
      (compileStream ⟨factory, settings⟩ (.holding (.bytes bytes)) name).1 =
        .fail (.undecodable flaw)) := by
  have hflawed : ¬ WellFormed bytes → ∃ flaw, ∀ factory,
      (compileStream ⟨factory, settings⟩ (.holding (.bytes bytes)) name).1 =
        .fail (.undecodable flaw) := by
    intro hmalformed
    obtain ⟨flaw, hflaw⟩ := Encoding.Utf8.not_wellFormed_iff.mp hmalformed
    refine ⟨flaw, ?_⟩
    intro factory
    apply compileStream_undecoded
    rw [decode_utf8 ⟨factory, settings⟩ hencoding, hflaw]
  refine ⟨?_, hflawed⟩
  apply Intact.of_cases
  · intro build text htext
    rw [compileStream_bytes (decode_of_encode ⟨.recorded build, settings⟩ hencoding htext)]
    exact compileText_recorded settings build hname text
  · intro hmalformed factory
    obtain ⟨flaw, hfail⟩ := hflawed hmalformed
    rw [hfail factory]
    rfl

end Ways

/-- Whatever bytes a file holds, standard input brings or a stream has left, under UTF-8: the factory is
called exactly if they are well-formed, the text that they were written of is what is compiled, from a
file with uniform line ends, and other bytes fail, as an unreadable source or with the flaw itself. -/
theorem utf8_intact (settings : Settings) (hencoding : Encoding.find? settings.encoding = some .utf8)
    (bytes : Bytes) :
    (∀ disk stdin path, Sentinel.isStdin path settings.extensions = false →
      fileBytes disk path = .ok bytes →
      Intact bytes path Text.newlined
        (fun factory => (compileFile ⟨factory, settings⟩ disk stdin path).1) ∧
      (∀ text : String, '\r' ∉ text.toList → Text.newlined text = text) ∧
      (¬ WellFormed bytes → ∀ factory, ∃ failure,
        (compileFile ⟨factory, settings⟩ disk stdin path).1.result = .error failure ∧
        failure.className = "CompileFailure" ∧ failure.kind? = some "SourceIOError")) ∧
    (∀ disk path, Sentinel.isStdin path settings.extensions = true →
      Intact bytes stdinLabel id
        (fun factory => (compileFile ⟨factory, settings⟩ disk (.holding (.bytes bytes)) path).1) ∧
      (¬ WellFormed bytes → ∀ factory, ∃ failure,
        (compileFile ⟨factory, settings⟩ disk (.holding (.bytes bytes)) path).1.result = .error failure ∧
        failure.className = "CompileFailure" ∧ failure.kind? = some "SourceIOError")) ∧
    (∀ name, name ≠ "" →
      Intact bytes name id
        (fun factory => (compileStream ⟨factory, settings⟩ (.holding (.bytes bytes)) name).1) ∧
      (¬ WellFormed bytes → ∃ flaw, ∀ factory,
        (compileStream ⟨factory, settings⟩ (.holding (.bytes bytes)) name).1 =
          .fail (.undecodable flaw))) := by
  refine ⟨?file, ?stdin, ?stream⟩
  case file =>
    intro disk stdin path hfile hopen
    obtain ⟨hintact, hfails⟩ := file_intact hencoding hfile hopen
    exact ⟨hintact, fun text => Text.newlined_eq_self_iff.mpr, hfails⟩
  case stdin =>
    intro disk path hstdin
    exact stdin_intact hencoding hstdin
  case stream =>
    intro name hname
    exact stream_intact hencoding hname

end

/-- A surrogate in three bytes, and an é with a pair at its line end, in a file and on standard input. -/
theorem surrogate_refused_accent_kept :
    (∃ failure, (compileFile ⟨Samples.echo, .default⟩ (single [0xED, 0xA0, 0x80]) .nothing
        "m.cql").1.result = .error failure ∧
      failure.className = "CompileFailure" ∧ failure.kind? = some "SourceIOError") ∧
    (compileFile ⟨Samples.echo, .default⟩ (single [0xC3, 0xA9, 0x0D, 0x0A]) .nothing "m.cql").1.calls =
      [.build "m.cql", .compile "m.cql" "é\n"] ∧
    (compileFile ⟨Samples.echo, .default⟩ ⟨[], []⟩ (.holding (.bytes [0xC3, 0xA9, 0x0D, 0x0A]))
      "-.cql").1.calls = [.build stdinLabel, .compile stdinLabel "é\r\n"] := by
  have hencoding : Encoding.find? Settings.default.encoding = some .utf8 := by rfl
  have hfile : Sentinel.isStdin "m.cql" Settings.default.extensions = false := by rfl
  have hflaw : ¬ WellFormed [0xED, 0xA0, 0x80] := by
    rw [Encoding.Utf8.not_wellFormed_iff]
    exact ⟨⟨"utf-8", [0xED, 0xA0, 0x80], 0, 1, "invalid continuation byte"⟩, by rfl⟩
  have hsurrogate := (utf8_intact .default hencoding [0xED, 0xA0, 0x80]).1 _ .nothing "m.cql" hfile
    (fileBytes_single _)
  have haccent := utf8_intact .default hencoding [0xC3, 0xA9, 0x0D, 0x0A]
  have hfound := (haccent.1 _ .nothing "m.cql" hfile (fileBytes_single _)).1.handed
    (fun label => .succeed fun text => .succeed (Samples.record [("label", .text label), ("text", .text text)]))
    "é\r\n" (by rfl)
  have hfed := (haccent.2.1 ⟨[], []⟩ "-.cql" (by rfl)).1.handed
    (fun label => .succeed fun text => .succeed (Samples.record [("label", .text label), ("text", .text text)]))
    "é\r\n" (by rfl)
  refine ⟨hsurrogate.2.2 hflaw Samples.echo, ?_, hfed⟩
  have hlines : Text.newlined "é\r\n" = "é\n" := by rfl
  rw [hlines] at hfound
  exact hfound

end FactIntake.Loader
