import FactIntake.Proofs.Boundary
import FactIntake.Proofs.FileDecoding
import FactIntake.Session

/-!
The ways into the loader. Compiling a file, standard input or a stream comes to compiling a text under
a label: the calls to compilers are those for the text, and so are the model and the fault, which for a
path goes on to the boundary. What a request describes is compiled as it is without one.
-/

namespace FactIntake.Loader

variable {loader : Loader} {disk : Disk} {stdin : Stream} {path : String}

theorem textOf_eq_ok_iff {name text : String} {decoded : Encoding.Decoded} :
    textOf name decoded = .ok text ↔ decoded = .ok text.toList := by
  cases decoded with
  | error undecoded => simp [textOf]
  | ok cs =>
    simp only [textOf, Except.ok.injEq]
    constructor
    · rintro rfl
      simp
    · rintro rfl
      simp

section

variable [Codecs]

/-- Whether a file with these bytes is opened as text in the encoding of the loader. -/
def opensAsText (loader : Loader) (bytes : Encoding.Bytes) : Bool :=
  (Encoding.find? loader.settings.encoding).any fun encoding => encoding.opensAsText bytes

/-- A file that is opened as text is decoded as its bytes are, but for its line ends. -/
theorem decodeFile_of_opensAsText {bytes : Encoding.Bytes} {text : String}
    (hopens : loader.opensAsText bytes) (h : loader.decode bytes = .ok text) :
    loader.decodeFile bytes = .ok (Text.newlined text) := by
  cases hfind : Encoding.find? loader.settings.encoding with
  | none => simp [opensAsText, hfind] at hopens
  | some encoding =>
    simp only [opensAsText, hfind, Option.any_some] at hopens
    simp only [decode, hfind, textOf_eq_ok_iff] at h
    have hraw := Encoding.decodeFileRaw_of_opensAsText hopens h
    have hkind := Encoding.isText_of_opensAsText hopens
    simp only [decodeFile, hfind, hkind, if_true]
    rw [Encoding.decodeFile, hraw, Except.map, Text.uniformLines_eq]
    rfl

/-- Bytes that decode are not decoded as a file that is not opened as text. -/
theorem decodeFile_of_not_opensAsText {bytes : Encoding.Bytes} {text : String}
    (hopens : loader.opensAsText bytes = false) (h : loader.decode bytes = .ok text) :
    ∃ fault, loader.decodeFile bytes = .error fault := by
  cases hfind : Encoding.find? loader.settings.encoding with
  | none => exact ⟨unknownEncoding loader.settings.encoding, by simp [decodeFile, hfind]⟩
  | some encoding =>
    simp only [opensAsText, hfind, Option.any_some] at hopens
    simp only [decode, hfind, textOf_eq_ok_iff] at h
    cases hkind : encoding.isText with
    | false =>
      exact ⟨undecodedFault loader.settings.encoding (.notText "codecs.open()"), by
        simp [decodeFile, hfind, hkind]⟩
    | true =>
      obtain ⟨undecoded, hraw⟩ := Encoding.decodeFileRaw_of_not_opensAsText hkind hopens h
      refine ⟨undecodedFault loader.settings.encoding undecoded, ?_⟩
      simp only [decodeFile, hfind, hkind, if_true]
      rw [Encoding.decodeFile, hraw]
      rfl

/-- Compiling the source at a path comes to compiling a text under a label: the model is that of the
text, and the fault of the text is the one that meets the boundary. -/
structure Reduces (loader : Loader) (disk : Disk) (stdin : Stream) (path text name : String) :
    Prop where
  calls : (loader.compileFile disk stdin path).1.calls = (loader.compileText text name).calls
  changes : (loader.compileFile disk stdin path).1.changes = (loader.compileText text name).changes
  model : ∀ model, (loader.compileText text name).result = .ok model →
    (loader.compileFile disk stdin path).1.result = .ok model
  fault : ∀ fault, (loader.compileText text name).result = .error fault →
    (loader.compileSource disk stdin path).1.result = .error fault ∧
      (loader.compileFile disk stdin path).1 =
        intercept path (loader.compileSource disk stdin path).1

theorem reduces_of_holds {text : String} (h : Holds loader disk stdin path text) :
    Reduces loader disk stdin path text (loader.label path) := by
  have hsource := compileSource_of_holds h
  refine ⟨?_, ?_, fun model hmodel => ?_, fun fault hfault => ⟨?_, rfl⟩⟩
  · rw [compileFile_eq, intercept_calls, hsource, Report.after_calls]
  · rw [compileFile_eq, intercept_changes, hsource, Report.after_changes]
  · have hresult : (loader.compileSource disk stdin path).1.result = .ok model := by
      rw [hsource, Report.after_result, hmodel]
    rw [compileFile_eq, intercept_of_ok path hresult, hresult]
  · rw [hsource, Report.after_result, hfault]

/-- A file with bytes that decode is compiled as their text with uniform line ends. -/
theorem reduces_of_file {bytes : Encoding.Bytes} {text : String}
    (hfile : Sentinel.isStdin path loader.settings.extensions = false)
    (hopen : fileBytes disk path = .ok bytes) (hdecode : loader.decode bytes = .ok text)
    (hopens : loader.opensAsText bytes) :
    Reduces loader disk stdin path (Text.newlined text) path := by
  have htext : loader.fileText disk path = .ok (Text.newlined text) := by
    rw [fileText_of_ok hopen, decodeFile_of_opensAsText hopens hdecode]
  have hlabel : loader.label path = path := label_of_file hfile
  rw [← hlabel]
  simpa only [hlabel] using reduces_of_holds (.file hfile htext)

theorem reduces_of_stdin {content : Content} {text : String}
    (hstdin : Sentinel.isStdin path loader.settings.extensions = true)
    (hdecode : loader.contentText content = .ok text) :
    Reduces loader disk (.holding content) path text stdinLabel := by
  have hlabel : loader.label path = stdinLabel := label_of_stdin hstdin
  have hholds : Holds loader disk (.holding content) path text := .stdin hstdin rfl hdecode
  simpa only [hlabel] using reduces_of_holds hholds

/-- Nothing is compiled for a file with bytes that decode if it is not opened as text. -/
theorem calls_of_not_opensAsText {bytes : Encoding.Bytes} {text : String}
    (hfile : Sentinel.isStdin path loader.settings.extensions = false)
    (hopen : fileBytes disk path = .ok bytes) (hdecode : loader.decode bytes = .ok text)
    (hopens : loader.opensAsText bytes = false) :
    (loader.compileFile disk stdin path).1.calls = [] := by
  obtain ⟨fault, hfault⟩ := decodeFile_of_not_opensAsText hopens hdecode
  rw [compileFile_eq, intercept_calls]
  simp only [compileSource, hfile, Bool.false_eq_true, if_false]
  rw [fileText_of_ok hopen, hfault, Report.bind_eq, Report.ofExcept_error_bind]
  rfl

theorem compileStream_text (loader : Loader) (text name : String) :
    (loader.compileStream (.holding (.text text)) name).1 = loader.compileText text name := by
  rw [compileStream_holding, contentText, Report.ofExcept_ok_bind]

theorem compileStream_bytes {bytes : Encoding.Bytes} {text : String}
    (hdecode : loader.decode bytes = .ok text) (name : String) :
    (loader.compileStream (.holding (.bytes bytes)) name).1 = loader.compileText text name := by
  rw [compileStream_holding, contentText, hdecode, Report.ofExcept_ok_bind]

theorem compileStream_undecoded {bytes : Encoding.Bytes} {fault : Fault}
    (hdecode : loader.decode bytes = .error fault) (name : String) :
    (loader.compileStream (.holding (.bytes bytes)) name).1 = .fail fault := by
  rw [compileStream_holding, contentText, hdecode, Report.ofExcept_error_bind]

/-- An action of a session that has a loader is a call on that loader. -/
theorem onLoader_current {session : Session} {prepared : Prepared}
    (h : session.loader = some prepared) (operation : String)
    (run : Session → Loader → Report Model × Session) :
    session.onLoader .current operation run =
      ((run session (prepared.loader session.imports)).1.bind fun model => .succeed (.model model),
        (run session (prepared.loader session.imports)).2) := by
  simp only [Session.onLoader, Session.receive, h]
  rw [Report.succeed_bind]
  rfl

/-- A request is what the way in for its kind makes of it. -/
theorem step_load {session : Session} {prepared : Prepared} (h : session.loader = some prepared) :
    (∀ path, session.step (.load (.file path)) = session.step (.compileFile .current path)) ∧
    (∀ source name, session.step (.load (.stream source name)) =
      session.step (.compileStream .current source name)) ∧
    (∀ text name, session.step (.load (.text text name)) =
      session.step (.compileText .current text name)) ∧
    ∀ typeName, (session.step (.load (.other typeName))).1 =
      .fail (Fault.typeFault ("unsupported source request: " ++ typeName)) := by
  have hstep : ∀ {action other}, session.perform action = session.perform other →
      session.step action = session.step other := by
    intro action other hperform
    simp only [Session.step, hperform]
  refine ⟨fun path => hstep ?_, fun source name => hstep ?_, fun text name => hstep ?_,
    fun typeName => ?_⟩
  · simp only [Session.perform, onLoader_current h, Session.load]
  · simp only [Session.perform, onLoader_current h, Session.load]
  · simp only [Session.perform, onLoader_current h, Session.load]
  · simp only [Session.step, Session.perform, onLoader_current h, Session.load]
    rfl

/-- Every way into the loader comes to compiling a text under a label. A file counts as text only if it
is opened as such; nothing is compiled for one that is not. -/
theorem entry_points_reduce (loader : Loader) (disk : Disk) (stdin : Stream) :
    (∀ path bytes text, Sentinel.isStdin path loader.settings.extensions = false →
      fileBytes disk path = .ok bytes → loader.decode bytes = .ok text →
      (loader.opensAsText bytes → Reduces loader disk stdin path (Text.newlined text) path) ∧
      (loader.opensAsText bytes = false → (loader.compileFile disk stdin path).1.calls = [])) ∧
    (∀ path, Sentinel.isStdin path loader.settings.extensions = true →
      (∀ bytes text, stdin = .holding (.bytes bytes) → loader.decode bytes = .ok text →
        Reduces loader disk stdin path text stdinLabel) ∧
      (∀ text, stdin = .holding (.text text) → Reduces loader disk stdin path text stdinLabel)) ∧
    (∀ name,
      (∀ bytes text, loader.decode bytes = .ok text →
        (loader.compileStream (.holding (.bytes bytes)) name).1 = loader.compileText text name) ∧
      (∀ bytes fault, loader.decode bytes = .error fault →
        (loader.compileStream (.holding (.bytes bytes)) name).1 = .fail fault) ∧
      ∀ text, (loader.compileStream (.holding (.text text)) name).1 =
        loader.compileText text name) ∧
    (∀ (session : Session) (prepared : Prepared), session.loader = some prepared →
      (∀ path, session.step (.load (.file path)) = session.step (.compileFile .current path)) ∧
      (∀ source name, session.step (.load (.stream source name)) =
        session.step (.compileStream .current source name)) ∧
      (∀ text name, session.step (.load (.text text name)) =
        session.step (.compileText .current text name)) ∧
      ∀ typeName, (session.step (.load (.other typeName))).1 =
        .fail (Fault.typeFault ("unsupported source request: " ++ typeName))) := by
  refine ⟨?file, ?stdin, ?stream, fun session prepared h => step_load h⟩
  case file =>
    intro path bytes text hfile hopen hdecode
    exact ⟨reduces_of_file hfile hopen hdecode, calls_of_not_opensAsText hfile hopen hdecode⟩
  case stdin =>
    refine fun path hstdin => ⟨fun bytes text hbytes hdecode => ?_, fun text htext => ?_⟩
    · subst hbytes
      exact reduces_of_stdin hstdin hdecode
    · subst htext
      exact reduces_of_stdin hstdin rfl
  case stream =>
    exact fun name => ⟨fun bytes text hdecode => compileStream_bytes hdecode name,
      fun bytes fault hdecode => compileStream_undecoded hdecode name,
      fun text => compileStream_text loader text name⟩

end

/-- The only file on a disk is read at its name. -/
theorem fileBytes_alone {name : String} (hsteps : Disk.steps name = [name])
    (hname : name ≠ "" ∧ name ≠ "." ∧ name ≠ "..") (hsize : name.utf8ByteSize ≤ Disk.nameLimit)
    (hnul : Char.ofNat 0 ∉ name.toList) (content : Encoding.Bytes) :
    fileBytes ⟨[], [([name], .file content)]⟩ name = .ok content := by
  obtain ⟨hempty, hstay, hup⟩ := hname
  let disk : Disk := ⟨[], [([name], .file content)]⟩
  have hhome : disk.node? [] = some .directory := rfl
  have hfile : disk.node? [name] = some (.file content) := by simp [disk, Disk.node?]
  have hfind : disk.find true name = .ok (.node [name]) := by
    have hstart : disk.start name = [] := by simp [Disk.start, disk]
    have hshort : ¬ name.utf8ByteSize > Disk.pathLimit := Nat.not_lt.mpr (Nat.le_trans hsize (by decide))
    rw [Disk.find, if_neg (by simpa using hempty), if_neg hshort, hstart, hsteps, Disk.walk, hhome]
    simp only [List.nil_append, hfile, beq_iff_eq, hstay, hup, if_false, Nat.not_lt.mpr hsize]
    rw [Disk.walk]
  show fileBytes disk name = .ok content
  simp [fileBytes, hnul, Disk.read, hfind, hfile, bind, Except.bind]

/-- A disk with one file on it. -/
def single (content : Encoding.Bytes) : Disk := ⟨[], [(["m.cql"], .file content)]⟩

theorem fileBytes_single (content : Encoding.Bytes) : fileBytes (single content) "m.cql" = .ok content :=
  fileBytes_alone (by decide) (by decide) (by decide) (by decide) content

/-- A loader that compiles a text to itself. -/
def echoing (encoding : String) : Loader :=
  ⟨Samples.echo, ⟨Settings.sourceExtensions, encoding, none⟩⟩

/-- The character of a byte in the Cyrillic encoding of the eight-bit family. -/
def cyrillicOf (b : UInt8) : Char :=
  if b < 0xA1 || b == 0xAD then Char.ofNat b.toNat
  else if b == 0xF0 then '№'
  else if b == 0xFD then '§'
  else Char.ofNat (b.toNat + 0x360)

/-- An encoding from elsewhere: every byte is a character, in a file as anywhere. -/
def cyrillic : Encoding.Codec where
  isText := true
  decode bytes := .ok (bytes.map cyrillicOf)
  decodeFile bytes := .ok (bytes.map cyrillicOf)
  encode cs := (Encoding.firstMissing? (fun c => (List.range 256).any fun n => cyrillicOf (.ofNat n) == c)
    "charmap" "character maps to <undefined>" cs).map .missing
  decode_nil := rfl
  agrees := by
    intro bytes found read hfound hread
    exact Except.ok.inj (hfound.symm.trans hread)

/-- Where only that one is known beside the encodings that are spelled out. -/
abbrev withCyrillic : Codecs := ⟨fun name => if name == "iso8859-5" then some cyrillic else none⟩

theorem mixed_lines_calls :
    ((echoing "utf-8").compileFile (single [0x61, 0x0D, 0x0A, 0x62, 0x0D, 0x63, 0x0A]) .nothing
        "m.cql").1.calls = [.build "m.cql", .compile "m.cql" "a\nb\nc\n"] ∧
    (@compileFile withCyrillic (echoing "iso8859-5") (single [0xB4, 0xD0, 0x0D]) .nothing "m.cql").1.calls =
      [.build "m.cql", .compile "m.cql" "Да\n"] := by
  have hlatin : Reduces (echoing "utf-8") (single [0x61, 0x0D, 0x0A, 0x62, 0x0D, 0x63, 0x0A])
      .nothing "m.cql" (Text.newlined "a\r\nb\rc\n") "m.cql" :=
    ((entry_points_reduce (echoing "utf-8") (single [0x61, 0x0D, 0x0A, 0x62, 0x0D, 0x63, 0x0A])
      .nothing).1 "m.cql" _ "a\r\nb\rc\n" (by rfl) (fileBytes_single _) (by rfl)).1 (by rfl)
  refine ⟨hlatin.calls.trans (by rfl), ?_⟩
  let known : Codecs := withCyrillic
  have hcyrillic : Reduces (echoing "iso8859-5") (single [0xB4, 0xD0, 0x0D]) .nothing "m.cql"
      (Text.newlined "Да\r") "m.cql" :=
    ((entry_points_reduce (echoing "iso8859-5") (single [0xB4, 0xD0, 0x0D]) .nothing).1 "m.cql" _ "Да\r"
      (by rfl) (fileBytes_single _) (by rfl)).1 (by rfl)
  exact hcyrillic.calls.trans (by rfl)

/-- A file without an order mark is not compiled though its bytes decode. -/
theorem unmarked_not_compiled :
    Sentinel.isStdin "m.cql" (echoing "utf-16").settings.extensions = false ∧
    fileBytes (single [0x61, 0]) "m.cql" = .ok [0x61, 0] ∧
    (echoing "utf-16").decode [0x61, 0] = .ok "a" ∧
    ((echoing "utf-16").compileText (Text.newlined "a") "m.cql").calls =
      [.build "m.cql", .compile "m.cql" "a"] ∧
    ((echoing "utf-16").compileFile (single [0x61, 0]) .nothing "m.cql").1.calls = [] := by
  have hdecode : (echoing "utf-16").decode [0x61, 0] = .ok "a" := by rfl
  have hopens : (echoing "utf-16").opensAsText [0x61, 0] = false := by rfl
  have hfile : Sentinel.isStdin "m.cql" (echoing "utf-16").settings.extensions = false := by rfl
  exact ⟨hfile, fileBytes_single _, hdecode, by rfl,
    calls_of_not_opensAsText hfile (fileBytes_single _) hdecode hopens⟩

end FactIntake.Loader
