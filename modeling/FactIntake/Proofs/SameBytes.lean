import FactIntake.Proofs.EntryPoints

/-!
The same bytes in a file and on standard input. Where they are opened as text and decode, the compiler is
handed the same text but for its line ends, which only a file has made uniform; where they do not decode,
both are unreadable for the same reason. It is told exactly when nothing differs: a text is without carriage
returns, and bytes that do not decode are no part of the mark of signed UTF-8, for a file of these is empty.
-/

namespace FactIntake.Text

/-- Line ends are uniform where there is no carriage return, and only there. -/
theorem uniformLines_eq_self_iff {cs : List Char} : uniformLines cs = cs ↔ '\r' ∉ cs := by
  fun_induction uniformLines cs with
  | case1 => simp
  | case2 cs ih => simp
  | case3 c cs hpair ih =>
    by_cases hreturn : c = '\r'
    · simp [hreturn]
    · simp [hreturn, ih, Ne.symm hreturn]

theorem newlined_eq_self_iff {text : String} : newlined text = text ↔ '\r' ∉ text.toList := by
  rw [← uniformLines_eq_self_iff, newlined, ← uniformLines_eq]
  constructor
  · intro h
    simpa using congrArg String.toList h
  · intro h
    rw [h, String.ofList_toList]

end FactIntake.Text

namespace FactIntake.Encoding

variable {encoding : Encoding} {bytes : Bytes}

/-- Whether bytes are the beginning of the mark of signed UTF-8, and not all of it. -/
def isPartOfMark (bytes : Bytes) : Bool :=
  !bytes.isEmpty && bytes.length < 3 && bytes.isPrefixOf Utf8.mark

/-- A part of the mark is nothing as a file. -/
theorem decodeFileRaw_of_isPartOfMark (h : isPartOfMark bytes) : decodeFileRaw .utf8Signed bytes = .ok [] := by
  simp only [isPartOfMark, Bool.and_eq_true, decide_eq_true_eq] at h
  obtain ⟨⟨-, hlength⟩, hmark⟩ := h
  have hfile : Utf8.decodeSignedFile bytes = .ok [] := by
    simp only [Utf8.decodeSignedFile, hmark, hlength, decide_true, Bool.and_self, if_true]
  rw [decodeFileRaw, hfile]
  rfl

/-- Whether a file with bytes that have a flaw is refused for a flaw that is told alike. An encoding
from elsewhere may find another one, or none. -/
def tellsInFile (encoding : Encoding) (bytes : Bytes) (flaw : Flaw) : Bool :=
  match encoding with
  | utf8Signed => !isPartOfMark bytes
  | other codec => match codec.decodeFile bytes with
    | .error (.flawed found) => Fault.flawText found == Fault.flawText flaw
    | _ => false
  | _ => true

/-- Bytes with a flaw do not decode as a file, for a flaw that is told alike if any is. -/
theorem decodeFileRaw_of_told {flaw : Flaw} (h : encoding.decode bytes = .error (.flawed flaw))
    (htold : encoding.tellsInFile bytes flaw) :
    ∃ found, encoding.decodeFileRaw bytes = .error (.flawed found) ∧
      Fault.flawText found = Fault.flawText flaw := by
  cases encoding with
  | utf8Signed =>
    cases bytes with
    | nil => simp [decode] at h
    | cons b rest =>
      have hfile : Utf8.decodeSignedFile (b :: rest) = Utf8.decodeSigned (b :: rest) := by
        have hmark : isPartOfMark (b :: rest) = false := by simpa [tellsInFile] using htold
        rw [Utf8.decodeSignedFile, if_neg]
        simpa [isPartOfMark, ← Bool.not_eq_true] using hmark
      refine ⟨flaw, ?_, rfl⟩
      rw [decodeFileRaw, hfile]
      exact h
  | utf16 | utf32 => exact ⟨flaw, by simp only [decodeFileRaw, h, requireMark], rfl⟩
  | undefined =>
    unfold decode at h
    split at h <;> simp at h
  | other codec =>
    unfold tellsInFile at htold
    simp only at htold
    split at htold
    · rename_i found hread
      exact ⟨found, by rw [decodeFileRaw, hread]; rfl, by simpa using htold⟩
    · cases htold
  | _ => exact ⟨flaw, h, rfl⟩

/-- If none is told alike, a file has another flaw or none. -/
theorem flawText_ne_of_untold {flaw found : Flaw} (huntold : encoding.tellsInFile bytes flaw = false)
    (hfound : encoding.decodeFileRaw bytes = .error (.flawed found)) :
    Fault.flawText found ≠ Fault.flawText flaw := by
  cases encoding with
  | utf8Signed =>
    have hmark : isPartOfMark bytes := by simpa [tellsInFile] using huntold
    rw [decodeFileRaw_of_isPartOfMark hmark] at hfound
    cases hfound
  | other codec =>
    rw [decodeFileRaw] at hfound
    cases hread : codec.decodeFile bytes with
    | ok read => simp [hread] at hfound
    | error refusal =>
      cases refusal with
      | told reason => simp [hread, Refusal.undecoded] at hfound
      | flawed other =>
        obtain rfl : other = found := by
          simpa [hread, Refusal.undecoded] using hfound
        simpa [tellsInFile, hread] using huntold
  | _ => cases huntold

/-- Only bytes in an encoding that gives text have a flaw. -/
theorem isText_of_flawed {flaw : Flaw} (h : encoding.decode bytes = .error (.flawed flaw)) :
    encoding.isText := by
  cases bytes with
  | nil => simp [decode] at h
  | cons b rest =>
    cases encoding with
    | hexadecimal | rotated | base64 | deflated | blockSorted | uuencoded | quotedPrintable =>
      simp [decode] at h
    | other codec =>
      cases hkind : codec.isText with
      | false => simp [decode, hkind] at h
      | true => exact hkind
    | _ => rfl

end FactIntake.Encoding

namespace FactIntake.Loader

variable {loader : Loader} {disk : Disk} {stdin : Stream} {path : String}

theorem textOf_eq_error {name : String} {decoded : Encoding.Decoded} {fault : Fault}
    (h : textOf name decoded = .error fault) :
    ∃ undecoded, decoded = .error undecoded ∧ fault = undecodedFault name undecoded := by
  cases decoded with
  | ok cs => simp [textOf] at h
  | error undecoded => exact ⟨undecoded, rfl, (Except.error.inj h).symm⟩

/-- A fault that is told of bytes: that of a flaw, or one that is not taken for a fault of reading. -/
inductive IsOfBytes : Fault → Prop
  | flawed (flaw : Encoding.Flaw) : IsOfBytes (.undecodable flaw)
  | other {fault : Fault} (hclass : fault.className = "LookupError" ∨ fault.className = "UnicodeError")
      (hkind : ∀ ancestor, fault.isA ancestor = Fault.isKindOf fault.className ancestor)
      (hplace : fault.place = .absent) : IsOfBytes fault

theorem isOfBytes_of_undecoded (name : String) (undecoded : Encoding.Undecoded) :
    IsOfBytes (undecodedFault name undecoded) := by
  cases undecoded with
  | flawed flaw => exact .flawed flaw
  | notText remedy => exact .other (Or.inl rfl) (fun _ => rfl) rfl
  | _ => exact .other (Or.inr rfl) (fun _ => rfl) rfl

/-- The classes of the other faults are ordinary ones, and none of reading. -/
private theorem ordinary_of_bytes : ∀ className ∈ ["LookupError", "UnicodeError"],
    (Fault.isKindOf className "MemoryError" || Fault.isKindOf className "RecursionError" ||
      !Fault.isKindOf className "Exception") = false ∧
    (Fault.isKindOf className "OSError" || Fault.isKindOf className "UnicodeDecodeError") = false ∧
    className ≠ "SourceIOError" := by
  decide

/-- A compiler that echoes its text has a call on record for the text. -/
theorem echo_calls (settings : Settings) {text name : String} (hname : name ≠ "") :
    (compileText ⟨Samples.echo, settings⟩ text name).calls = [.build name, .compile name text] := by
  rw [compileText_eq hname]
  rfl

section

variable [Codecs]

/-- Whether a file with bytes that have a flaw is refused for one that is told alike. -/
def tellsInFile (loader : Loader) (bytes : Encoding.Bytes) (flaw : Encoding.Flaw) : Bool :=
  (Encoding.find? loader.settings.encoding).any fun encoding => encoding.tellsInFile bytes flaw

/-- Bytes with a flaw are looked at by an encoding that gives text. -/
theorem flawed_of_decode {bytes : Encoding.Bytes} {flaw : Encoding.Flaw}
    (h : loader.decode bytes = .error (.undecodable flaw)) :
    ∃ encoding, Encoding.find? loader.settings.encoding = some encoding ∧
      encoding.decode bytes = .error (.flawed flaw) ∧
      loader.decodeFile bytes = textOf loader.settings.encoding (encoding.decodeFile bytes) := by
  cases hfind : Encoding.find? loader.settings.encoding with
  | none =>
    simp only [decode, hfind] at h
    split at h
    · simp at h
    · simp [unknownEncoding] at h
  | some encoding =>
    simp only [decode, hfind] at h
    obtain ⟨undecoded, hdecode, hfault⟩ := textOf_eq_error h
    obtain rfl : undecoded = .flawed flaw := by
      cases undecoded with
      | flawed found => exact congrArg _ (Fault.undecodable.inj hfault).symm
      | _ => simp [undecodedFault, undecided] at hfault
    refine ⟨encoding, rfl, hdecode, ?_⟩
    simp only [decodeFile, hfind, Encoding.isText_of_flawed hdecode, if_true]

theorem decodeFile_of_told {bytes : Encoding.Bytes} {flaw : Encoding.Flaw}
    (h : loader.decode bytes = .error (.undecodable flaw)) (htold : loader.tellsInFile bytes flaw) :
    ∃ found, loader.decodeFile bytes = .error (.undecodable found) ∧
      Fault.flawText found = Fault.flawText flaw := by
  obtain ⟨encoding, hfind, hdecode, hfile⟩ := flawed_of_decode h
  have hknown : encoding.tellsInFile bytes flaw := by simpa [tellsInFile, hfind] using htold
  obtain ⟨found, hraw, hsame⟩ := Encoding.decodeFileRaw_of_told hdecode hknown
  refine ⟨found, ?_, hsame⟩
  rw [hfile, Encoding.decodeFile, hraw]
  rfl

theorem flawText_ne_of_untold {bytes : Encoding.Bytes} {flaw found : Encoding.Flaw}
    (h : loader.decode bytes = .error (.undecodable flaw)) (huntold : loader.tellsInFile bytes flaw = false)
    (hfound : loader.decodeFile bytes = .error (.undecodable found)) :
    Fault.flawText found ≠ Fault.flawText flaw := by
  obtain ⟨encoding, hfind, -, hfile⟩ := flawed_of_decode h
  have hknown : encoding.tellsInFile bytes flaw = false := by simpa [tellsInFile, hfind] using huntold
  rw [hfile] at hfound
  obtain ⟨undecoded, hread, hfault⟩ := textOf_eq_error hfound
  cases undecoded with
  | flawed other =>
    obtain rfl := Fault.undecodable.inj hfault
    refine Encoding.flawText_ne_of_untold hknown ?_
    rw [Encoding.decodeFile] at hread
    cases hraw : encoding.decodeFileRaw bytes with
    | ok cs => simp [hraw, Except.map] at hread
    | error raised => simpa [hraw, Except.map] using hread
  | _ => simp [undecodedFault, undecided] at hfault

theorem isOfBytes_of_decode {bytes : Encoding.Bytes} {fault : Fault}
    (h : loader.decode bytes = .error fault) : IsOfBytes fault := by
  unfold decode at h
  simp only at h
  split at h
  · split at h
    · simp at h
    · obtain rfl := Except.error.inj h
      exact .other (Or.inl rfl) (fun _ => rfl) rfl
  · obtain ⟨undecoded, -, rfl⟩ := textOf_eq_error h
    exact isOfBytes_of_undecoded _ undecoded

theorem isOfBytes_of_decodeFile {bytes : Encoding.Bytes} {fault : Fault}
    (h : loader.decodeFile bytes = .error fault) : IsOfBytes fault := by
  unfold decodeFile at h
  simp only at h
  split at h
  · obtain rfl := Except.error.inj h
    exact .other (Or.inl rfl) (fun _ => rfl) rfl
  · split at h
    · obtain ⟨undecoded, -, rfl⟩ := textOf_eq_error h
      exact isOfBytes_of_undecoded _ undecoded
    · obtain rfl := Except.error.inj h
      exact isOfBytes_of_undecoded _ _

/-- Compiling the source at a path hands this text to a compiler for this label. -/
def Hands (settings : Settings) (disk : Disk) (stdin : Stream) (path text name : String) : Prop :=
  ∀ factory, Reduces ⟨factory, settings⟩ disk stdin path text name

/-- The source at a path is unreadable with this message, and no compiler is built for it. -/
def IsUnreadable (settings : Settings) (disk : Disk) (stdin : Stream) (path message : String) :
    Prop :=
  ∀ factory,
    (compileFile ⟨factory, settings⟩ disk stdin path).1.calls = [] ∧
    ∃ failure original cause,
      (compileFile ⟨factory, settings⟩ disk stdin path).1.result = .error failure ∧
      Wraps path original failure ∧ Unreadable path cause original ∧ original.message = message

/-- What reading the source at a path gives: a text, or a fault that comes from its bytes. -/
inductive Reads (loader : Loader) (disk : Disk) (stdin : Stream) (path : String) :
    Except Fault String → Prop
  | file {bytes : Encoding.Bytes} {read : Except Fault String}
      (hfile : Sentinel.isStdin path loader.settings.extensions = false)
      (hopen : fileBytes disk path = .ok bytes) (hdecode : loader.decodeFile bytes = read) :
      Reads loader disk stdin path read
  | stdin {bytes : Encoding.Bytes} {read : Except Fault String}
      (hstdin : Sentinel.isStdin path loader.settings.extensions = true)
      (hcontent : stdin = .holding (.bytes bytes)) (hdecode : loader.decode bytes = read) :
      Reads loader disk stdin path read

/-- Decoding does not look at the factory. -/
theorem decode_ofFactory (factory : Factory) (bytes : Encoding.Bytes) :
    decode ⟨factory, loader.settings⟩ bytes = loader.decode bytes ∧
      decodeFile ⟨factory, loader.settings⟩ bytes = loader.decodeFile bytes := by
  constructor
  · simp only [decode]
  · simp only [decodeFile]

theorem Reads.ofFactory {read : Except Fault String} (h : Reads loader disk stdin path read)
    (factory : Factory) : Reads ⟨factory, loader.settings⟩ disk stdin path read := by
  cases h with
  | file hfile hopen hdecode =>
    exact .file hfile hopen ((decode_ofFactory factory _).2.trans hdecode)
  | stdin hstdin hcontent hdecode =>
    exact .stdin hstdin hcontent ((decode_ofFactory factory _).1.trans hdecode)

theorem Reads.holds {text : String} (h : Reads loader disk stdin path (.ok text)) :
    Holds loader disk stdin path text := by
  cases h with
  | file hfile hopen hdecode => exact .file hfile ((fileText_of_ok hopen).trans hdecode)
  | stdin hstdin hcontent hdecode => exact .stdin hstdin hcontent hdecode

theorem Reads.raises {fault : Fault} (h : Reads loader disk stdin path (.error fault)) :
    Raises loader disk stdin path .decoding fault [] := by
  cases h with
  | file hfile hopen hdecode => exact .decodingFile hfile hopen hdecode
  | stdin hstdin hcontent hdecode => exact .decodingStdin hstdin hcontent hdecode

theorem Reads.calls_eq_nil {fault : Fault} (h : Reads loader disk stdin path (.error fault)) :
    (loader.compileFile disk stdin path).1.calls = [] := by
  rw [compileFile_eq, intercept_calls]
  cases h with
  | file hfile hopen hdecode =>
    simp only [compileSource, hfile, Bool.false_eq_true, if_false]
    rw [fileText_of_ok hopen, hdecode, Report.bind_eq, Report.ofExcept_error_bind]
    rfl
  | stdin hstdin hcontent hdecode =>
    subst hcontent
    simp only [compileSource, hstdin, if_true]
    rw [compileStream_undecoded hdecode]
    rfl

/-- A text that is read is handed to the compiler. -/
theorem Reads.hands {text : String} (h : Reads loader disk stdin path (.ok text)) :
    Hands loader.settings disk stdin path text (loader.label path) :=
  fun factory => reduces_of_holds (h.ofFactory factory).holds

theorem Reads.isUnreadable {flaw : Encoding.Flaw}
    (h : Reads loader disk stdin path (.error (.undecodable flaw))) :
    IsUnreadable loader.settings disk stdin path (Fault.message (.undecodable flaw)) := by
  intro factory
  have hreads := h.ofFactory factory
  have hreading : isReading (.undecodable flaw) := by
    rw [isReading_iff]
    right
    show Fault.isKindOf "UnicodeDecodeError" "UnicodeDecodeError"
    exact Fault.isKindOf_self _
  obtain ⟨hresult, -⟩ := compileFile_of_isReading hreads.raises hreading
  exact ⟨hreads.calls_eq_nil, _, _, _, hresult, wraps_failure path rfl, unreadable_reading path _, rfl⟩

theorem Reads.not_hands {fault : Fault} {text name : String} (hname : name ≠ "")
    (h : Reads loader disk stdin path (.error fault)) :
    ¬ Hands loader.settings disk stdin path text name := by
  intro hhands
  have hcalls := (hhands Samples.echo).calls
  rw [(h.ofFactory Samples.echo).calls_eq_nil, echo_calls _ hname] at hcalls
  simp at hcalls

theorem Reads.not_isUnreadable {text message : String} (h : Reads loader disk stdin path (.ok text)) :
    ¬ IsUnreadable loader.settings disk stdin path message := by
  intro hunreadable
  have hcalls := (h.hands Samples.echo).calls
  rw [(hunreadable Samples.echo).1, echo_calls _ (label_ne_empty h.holds)] at hcalls
  simp at hcalls

/-- Only one text is handed to the compiler. -/
theorem Reads.eq_of_hands {text other : String} (h : Reads loader disk stdin path (.ok text))
    (hhands : Hands loader.settings disk stdin path other (loader.label path)) : other = text := by
  have hlabel := label_ne_empty h.holds
  have hcalls := (hhands Samples.echo).calls.symm.trans (h.hands Samples.echo).calls
  rw [echo_calls _ hlabel, echo_calls _ hlabel] at hcalls
  simpa using hcalls

/-- What makes bytes unreadable is a flaw in them. -/
theorem Reads.flawed_of_isUnreadable {fault : Fault} {message : String}
    (h : Reads loader disk stdin path (.error fault)) (hbytes : IsOfBytes fault)
    (hunreadable : IsUnreadable loader.settings disk stdin path message) :
    ∃ flaw, fault = .undecodable flaw := by
  cases hbytes with
  | flawed flaw => exact ⟨flaw, rfl⟩
  | other hclass hkind hplace =>
    obtain ⟨hpasses, hreading, hne⟩ := ordinary_of_bytes fault.className (by simpa using hclass)
    simp only [← hkind] at hpasses hreading
    obtain ⟨-, failure, original, cause, hresult, hwraps, hunread, -⟩ := hunreadable Samples.echo
    obtain ⟨hfault, -⟩ := compileFile_of_ordinary (h.ofFactory Samples.echo).raises hpasses hreading
    obtain rfl := Except.error.inj (hfault.symm.trans hresult)
    -- The fault inside is the one that was raised, and its class is another one.
    have hinside : fault.className = original.className :=
      Option.some.inj ((wraps_failure path (by rw [hplace]; rfl)).kind.symm.trans hwraps.kind)
    rw [hunread.className] at hinside
    exact absurd hinside hne

/-- The message is that of the flaw. -/
theorem Reads.eq_of_isUnreadable {flaw : Encoding.Flaw} {message : String}
    (h : Reads loader disk stdin path (.error (.undecodable flaw)))
    (hunreadable : IsUnreadable loader.settings disk stdin path message) :
    message = Fault.flawText flaw := by
  obtain ⟨-, failure, original, cause, hresult, hwraps, -, hmessage⟩ := hunreadable Samples.echo
  obtain ⟨-, other, inside, reason, hother, hinside, -, htold⟩ := h.isUnreadable Samples.echo
  obtain rfl := Except.error.inj (hresult.symm.trans hother)
  have hsame : original = inside := Option.some.inj (hwraps.original.symm.trans hinside.original)
  rw [← hmessage, hsame, htold]
  rfl

/-- A file and standard input are alike: both hand the same text to a compiler, or both are unreadable
with the same message. -/
def Alike (settings : Settings) (disk other : Disk) (stdin fed : Stream) (path sentinel : String) :
    Prop :=
  (∃ text, Hands settings disk stdin path text path ∧
      Hands settings other fed sentinel text stdinLabel) ∨
    ∃ message, IsUnreadable settings disk stdin path message ∧
      IsUnreadable settings other fed sentinel message

end

section Alike

variable {other : Disk} {sentinel : String} {bytes : Encoding.Bytes}

theorem Hands.of_reads [Codecs] {text name : String} (h : Reads loader disk stdin path (.ok text))
    (hlabel : loader.label path = name) : Hands loader.settings disk stdin path text name :=
  hlabel ▸ h.hands

/-- Bytes that are opened as text and decode are alike but for their line ends. -/
theorem hands_of_opensAsText [Codecs] (hfile : Sentinel.isStdin path loader.settings.extensions = false)
    (hstdin : Sentinel.isStdin sentinel loader.settings.extensions = true)
    (hopen : fileBytes disk path = .ok bytes) {text : String} (hopens : loader.opensAsText bytes)
    (hdecode : loader.decode bytes = .ok text) :
    Hands loader.settings disk stdin path (Text.newlined text) path ∧
      Hands loader.settings other (.holding (.bytes bytes)) sentinel text stdinLabel := by
  have hfound : Reads loader disk stdin path (.ok (Text.newlined text)) :=
    .file hfile hopen (decodeFile_of_opensAsText hopens hdecode)
  have hfed : Reads loader other (.holding (.bytes bytes)) sentinel (.ok text) :=
    .stdin hstdin rfl hdecode
  exact ⟨Hands.of_reads hfound (label_of_file hfile), Hands.of_reads hfed (label_of_stdin hstdin)⟩

theorem isUnreadable_of_told [Codecs] (hfile : Sentinel.isStdin path loader.settings.extensions = false)
    (hstdin : Sentinel.isStdin sentinel loader.settings.extensions = true)
    (hopen : fileBytes disk path = .ok bytes) {flaw : Encoding.Flaw}
    (hdecode : loader.decode bytes = .error (.undecodable flaw)) (htold : loader.tellsInFile bytes flaw) :
    IsUnreadable loader.settings disk stdin path (Fault.message (.undecodable flaw)) ∧
      IsUnreadable loader.settings other (.holding (.bytes bytes)) sentinel
        (Fault.message (.undecodable flaw)) := by
  obtain ⟨found, hread, hsame⟩ := decodeFile_of_told hdecode htold
  have hfound : Reads loader disk stdin path (.error (.undecodable found)) := .file hfile hopen hread
  have hfed : Reads loader other (.holding (.bytes bytes)) sentinel (.error (.undecodable flaw)) :=
    .stdin hstdin rfl hdecode
  have hmessage : Fault.message (.undecodable found) = Fault.message (.undecodable flaw) := hsame
  exact ⟨hmessage ▸ hfound.isUnreadable, hfed.isUnreadable⟩

/-- A text that is handed over alike was opened as text and has no carriage return. -/
theorem opensAsText_of_hands [Codecs] (hfile : Sentinel.isStdin path loader.settings.extensions = false)
    (hstdin : Sentinel.isStdin sentinel loader.settings.extensions = true)
    (hopen : fileBytes disk path = .ok bytes) {text : String}
    (hfound : Hands loader.settings disk stdin path text path)
    (hfed : Hands loader.settings other (.holding (.bytes bytes)) sentinel text stdinLabel) :
    loader.opensAsText bytes ∧ loader.decode bytes = .ok text ∧ '\r' ∉ text.toList := by
  have hlabel : loader.label path = path := label_of_file hfile
  have hother : loader.label sentinel = stdinLabel := label_of_stdin hstdin
  have hname : path ≠ "" := by
    intro hempty
    subst hempty
    obtain ⟨fault, hfault⟩ := fileBytes_empty disk
    simp [hfault] at hopen
  cases hdecode : loader.decode bytes with
  | error fault =>
    have hread : Reads loader other (.holding (.bytes bytes)) sentinel (.error fault) :=
      .stdin hstdin rfl hdecode
    exact absurd hfed (hread.not_hands (by decide))
  | ok decoded =>
    have hread : Reads loader other (.holding (.bytes bytes)) sentinel (.ok decoded) :=
      .stdin hstdin rfl hdecode
    obtain rfl : text = decoded := hread.eq_of_hands (hother ▸ hfed)
    cases hopens : loader.opensAsText bytes with
    | false =>
      obtain ⟨fault, hfault⟩ := decodeFile_of_not_opensAsText hopens hdecode
      have hunread : Reads loader disk stdin path (.error fault) := .file hfile hopen hfault
      exact absurd hfound (hunread.not_hands hname)
    | true =>
      have hlined : Reads loader disk stdin path (.ok (Text.newlined text)) :=
        .file hfile hopen (decodeFile_of_opensAsText hopens hdecode)
      have hsame : text = Text.newlined text := hlined.eq_of_hands (hlabel.symm ▸ hfound)
      exact ⟨rfl, rfl, Text.newlined_eq_self_iff.mp hsame.symm⟩

/-- Bytes that are unreadable alike have a flaw, and as a file one that is told alike. -/
theorem told_of_isUnreadable [Codecs] (hfile : Sentinel.isStdin path loader.settings.extensions = false)
    (hstdin : Sentinel.isStdin sentinel loader.settings.extensions = true)
    (hopen : fileBytes disk path = .ok bytes) {message : String}
    (hfound : IsUnreadable loader.settings disk stdin path message)
    (hfed : IsUnreadable loader.settings other (.holding (.bytes bytes)) sentinel message) :
    ∃ flaw, loader.decode bytes = .error (.undecodable flaw) ∧ loader.tellsInFile bytes flaw := by
  cases hdecode : loader.decode bytes with
  | ok text =>
    have hread : Reads loader other (.holding (.bytes bytes)) sentinel (.ok text) :=
      .stdin hstdin rfl hdecode
    exact absurd hfed hread.not_isUnreadable
  | error fault =>
    have hread : Reads loader other (.holding (.bytes bytes)) sentinel (.error fault) :=
      .stdin hstdin rfl hdecode
    obtain ⟨flaw, rfl⟩ := hread.flawed_of_isUnreadable (isOfBytes_of_decode hdecode) hfed
    refine ⟨flaw, rfl, ?_⟩
    cases htold : loader.tellsInFile bytes flaw with
    | true => rfl
    | false =>
      cases hraw : loader.decodeFile bytes with
      | ok text =>
        have hopened : Reads loader disk stdin path (.ok text) := .file hfile hopen hraw
        exact absurd hfound hopened.not_isUnreadable
      | error raised =>
        have hopened : Reads loader disk stdin path (.error raised) := .file hfile hopen hraw
        obtain ⟨found, rfl⟩ := hopened.flawed_of_isUnreadable (isOfBytes_of_decodeFile hraw) hfound
        have hsame : Fault.flawText found = Fault.flawText flaw :=
          (hopened.eq_of_isUnreadable hfound).symm.trans (hread.eq_of_isUnreadable hfed)
        exact absurd hsame (flawText_ne_of_untold hdecode htold hraw)

/-- Bytes in a file and the same bytes on standard input. A text that is opened as such is handed over
from both, from the file with uniform line ends; bytes with a flaw that is told alike of a file are
unreadable for the same reason. The two are alike exactly if such a text has no carriage return, or such
a flaw is there. -/
theorem alike_iff [Codecs] (loader : Loader) (disk other : Disk) (stdin : Stream) (path sentinel : String)
    (bytes : Encoding.Bytes) (hfile : Sentinel.isStdin path loader.settings.extensions = false)
    (hstdin : Sentinel.isStdin sentinel loader.settings.extensions = true)
    (hopen : fileBytes disk path = .ok bytes) :
    (∀ text, loader.opensAsText bytes → loader.decode bytes = .ok text →
      Hands loader.settings disk stdin path (Text.newlined text) path ∧
      Hands loader.settings other (.holding (.bytes bytes)) sentinel text stdinLabel) ∧
    (∀ flaw, loader.decode bytes = .error (.undecodable flaw) → loader.tellsInFile bytes flaw →
      IsUnreadable loader.settings disk stdin path (Fault.message (.undecodable flaw)) ∧
      IsUnreadable loader.settings other (.holding (.bytes bytes)) sentinel
        (Fault.message (.undecodable flaw))) ∧
    (Alike loader.settings disk other stdin (.holding (.bytes bytes)) path sentinel ↔
      (∃ text, loader.opensAsText bytes ∧ loader.decode bytes = .ok text ∧ '\r' ∉ text.toList) ∨
      ∃ flaw, loader.decode bytes = .error (.undecodable flaw) ∧ loader.tellsInFile bytes flaw) := by
  refine ⟨fun text => hands_of_opensAsText hfile hstdin hopen,
    fun flaw => isUnreadable_of_told hfile hstdin hopen, ?_, ?_⟩
  · rintro (⟨text, hfound, hfed⟩ | ⟨message, hfound, hfed⟩)
    · exact Or.inl ⟨text, opensAsText_of_hands hfile hstdin hopen hfound hfed⟩
    · exact Or.inr (told_of_isUnreadable hfile hstdin hopen hfound hfed)
  · rintro (⟨text, hopens, hdecode, hreturn⟩ | ⟨flaw, hdecode, htold⟩)
    · have hhands : Hands loader.settings disk stdin path (Text.newlined text) path ∧
          Hands loader.settings other (.holding (.bytes bytes)) sentinel text stdinLabel :=
        hands_of_opensAsText hfile hstdin hopen hopens hdecode
      rw [Text.newlined_eq_self_iff.mpr hreturn] at hhands
      exact Or.inl ⟨text, hhands⟩
    · exact Or.inr ⟨_, isUnreadable_of_told hfile hstdin hopen hdecode htold⟩

/-- Text with a pair at its line end, bytes with a flaw, and text of two plain lines, also where an
encoding from elsewhere reads it. -/
theorem plain_lines_alike :
    Hands (echoing "utf-8").settings (single [0x61, 0x0D, 0x0A, 0x62]) .nothing "m.cql"
      (Text.newlined "a\r\nb") "m.cql" ∧
    IsUnreadable (echoing "utf-8").settings (single [0xFF]) .nothing "m.cql"
      "'utf-8' codec can't decode byte 0xff in position 0: invalid start byte" ∧
    Alike (echoing "utf-8").settings (single [0x61, 0x0A, 0x62]) ⟨[], []⟩ .nothing
      (.holding (.bytes [0x61, 0x0A, 0x62])) "m.cql" "-.cql" ∧
    @Alike withCyrillic (echoing "iso8859-5").settings (single [0xB4, 0x0A, 0xD0]) ⟨[], []⟩ .nothing
      (.holding (.bytes [0xB4, 0x0A, 0xD0])) "m.cql" "-.cql" := by
  have hpair := alike_iff (echoing "utf-8") _ ⟨[], []⟩ .nothing "m.cql" "-.cql" _ (by rfl) (by rfl)
    (fileBytes_single [0x61, 0x0D, 0x0A, 0x62])
  have hflaw := alike_iff (echoing "utf-8") _ ⟨[], []⟩ .nothing "m.cql" "-.cql" _ (by rfl) (by rfl)
    (fileBytes_single [0xFF])
  have hplain := alike_iff (echoing "utf-8") _ ⟨[], []⟩ .nothing "m.cql" "-.cql" _ (by rfl) (by rfl)
    (fileBytes_single [0x61, 0x0A, 0x62])
  have hmessage := (hflaw.2.1 ⟨"utf-8", [0xFF], 0, 1, "invalid start byte"⟩ (by rfl) (by rfl)).1
  have htext : Fault.message (.undecodable ⟨"utf-8", [0xFF], 0, 1, "invalid start byte"⟩) =
      "'utf-8' codec can't decode byte 0xff in position 0: invalid start byte" := by rfl
  rw [htext] at hmessage
  refine ⟨(hpair.1 "a\r\nb" (by rfl) (by rfl)).1, hmessage,
    hplain.2.2.mpr (Or.inl ⟨"a\nb", by rfl, by rfl, by decide⟩), ?_⟩
  let known : Codecs := withCyrillic
  have hcyrillic := alike_iff (echoing "iso8859-5") _ ⟨[], []⟩ .nothing "m.cql" "-.cql" _ (by rfl) (by rfl)
    (fileBytes_single [0xB4, 0x0A, 0xD0])
  exact hcyrillic.2.2.mpr (Or.inl ⟨"Д\nа", by rfl, by rfl, by decide⟩)

/-- A pair of carriage return and line feed is one line feed in a file, and stays on standard input. -/
theorem pair_stays_on_stdin :
    fileBytes (single [0x61, 0x0D, 0x0A, 0x62]) "m.cql" = .ok [0x61, 0x0D, 0x0A, 0x62] ∧
    ((echoing "utf-8").compileFile (single [0x61, 0x0D, 0x0A, 0x62]) .nothing "m.cql").1.calls =
      [.build "m.cql", .compile "m.cql" "a\nb"] ∧
    ((echoing "utf-8").compileFile (single [0x61, 0x0D, 0x0A, 0x62])
        (.holding (.bytes [0x61, 0x0D, 0x0A, 0x62])) "-.cql").1.calls =
      [.build stdinLabel, .compile stdinLabel "a\r\nb"] := by
  have hdecode : (echoing "utf-8").decode [0x61, 0x0D, 0x0A, 0x62] = .ok "a\r\nb" := by rfl
  have hlines : Text.newlined "a\r\nb" = "a\nb" := by rfl
  have hfound : Reduces (echoing "utf-8") (single [0x61, 0x0D, 0x0A, 0x62]) .nothing "m.cql"
      (Text.newlined "a\r\nb") "m.cql" :=
    reduces_of_file (by rfl) (fileBytes_single [0x61, 0x0D, 0x0A, 0x62]) hdecode (by rfl)
  have hfed : Reduces (echoing "utf-8") (single [0x61, 0x0D, 0x0A, 0x62])
      (.holding (.bytes [0x61, 0x0D, 0x0A, 0x62])) "-.cql" "a\r\nb" stdinLabel :=
    reduces_of_stdin (by rfl) hdecode
  rw [hlines] at hfound
  exact ⟨fileBytes_single _, hfound.calls.trans (echo_calls _ (by decide)),
    hfed.calls.trans (echo_calls _ (by decide))⟩

end Alike

end FactIntake.Loader
