import FactIntake.Proofs.BlankEnds
import FactIntake.Proofs.ReferenceFaults

/-!
The two spellings of a reference. Blanks are dropped at the ends only, so a colon and a point that are
followed by neither divide a reference into the same parts. What comes of a reference goes by its parts;
the reference itself is only told, in a fault that names it and in the log.
-/

namespace FactIntake.Reference

open Import

variable {mark : Char} {before after : List Char} {first second : String} {α β : Type}

theorem splitFirst?_append_mark (h : mark ∉ before) :
    splitFirst? mark (before ++ mark :: after) = some (before, after) := by
  have hbefore : ∀ c ∈ before, (c != mark) = true := by
    intro c hc
    have hne : c ≠ mark := fun heq => h (heq ▸ hc)
    simpa using hne
  simp [splitFirst?, List.takeWhile_append_of_pos hbefore, List.dropWhile_append_of_pos hbefore]

theorem splitFirst?_eq_none {cs : List Char} (h : mark ∉ cs) : splitFirst? mark cs = none := by
  simp [splitFirst?, h]

theorem splitLast?_append_mark (h : mark ∉ after) :
    splitLast? mark (before ++ mark :: after) = some (before, after) := by
  have hreverse : (before ++ mark :: after).reverse = after.reverse ++ mark :: before.reverse := by simp
  rw [splitLast?, hreverse, splitFirst?_append_mark (by simpa using h)]
  simp

theorem mem_of_mem_dropTrailing {p : Char → Bool} {c : Char} {cs : List Char} (h : c ∈ Text.dropTrailing p cs) :
    c ∈ cs :=
  List.mem_reverse.mp ((List.dropWhile_suffix p).subset (List.mem_reverse.mp h))

/-- The parts that both spellings have: a module without blanks in front, and a path without blanks
behind. -/
def partsOf (moduleName attr : String) : Parts :=
  ⟨String.ofList (moduleName.toList.dropWhile Text.isBlank),
    String.ofList (Text.dropTrailing Text.isBlank attr.toList)⟩

theorem split_colon {moduleName : String} (attr : String) (hmodule : ':' ∉ moduleName.toList) :
    split (moduleName ++ ":" ++ attr) = partsOf moduleName attr := by
  have hcs : (moduleName ++ ":" ++ attr).toList = moduleName.toList ++ ':' :: attr.toList := by simp
  have hfirst : ':' ∉ moduleName.toList.dropWhile Text.isBlank :=
    fun hc => hmodule ((List.dropWhile_suffix _).subset hc)
  rw [split, hcs, Text.stripChars_append_mark (by decide)]
  simp only [splitFirst?_append_mark hfirst]
  rfl

theorem split_point {moduleName attr : String} (hmodule : ':' ∉ moduleName.toList) (hcolon : ':' ∉ attr.toList)
    (hpoint : '.' ∉ attr.toList) : split (moduleName ++ "." ++ attr) = partsOf moduleName attr := by
  have hcs : (moduleName ++ "." ++ attr).toList = moduleName.toList ++ '.' :: attr.toList := by simp
  have hnone : ':' ∉ moduleName.toList.dropWhile Text.isBlank ++
      '.' :: Text.dropTrailing Text.isBlank attr.toList := by
    intro hc
    rcases List.mem_append.mp hc with hc | hc
    · exact hmodule ((List.dropWhile_suffix _).subset hc)
    · rcases List.mem_cons.mp hc with heq | hc
      · exact absurd heq (by decide)
      · exact hcolon (mem_of_mem_dropTrailing hc)
  have hlast : '.' ∉ Text.dropTrailing Text.isBlank attr.toList := fun hc => hpoint (mem_of_mem_dropTrailing hc)
  rw [split, hcs, Text.stripChars_append_mark (by decide)]
  simp only [splitFirst?_eq_none hnone, splitLast?_append_mark hlast]
  rfl

/-- Faults of one class and one cause that say the same, but for the reference where they name it. -/
structure ToldAlike (first second : String) (one other : Fault) : Prop where
  className : one.className = other.className
  family : one.family = other.family
  cause : one.cause? = other.cause?
  message : one.message = other.message ∨
    ∃ before after, one.message = before ++ first ++ after ∧ other.message = before ++ second ++ after

theorem ToldAlike.refl (fault : Fault) : ToldAlike first second fault fault := ⟨rfl, rfl, rfl, Or.inl rfl⟩

theorem toldAlike_of_words (before after : String) :
    ToldAlike first second (invalidSetting (before ++ first ++ after))
      (invalidSetting (before ++ second ++ after)) := by
  refine ⟨rfl, rfl, rfl, Or.inr ⟨before, after ++ " (setting FACTS_COMPILER)", ?_, ?_⟩⟩
  · rw [invalidSetting_message, String.append_assoc]
  · rw [invalidSetting_message, String.append_assoc]

theorem ToldAlike.caused {one other : Fault} (h : ToldAlike first second one other) (why : Fault) :
    ToldAlike first second (.caused one why) (.caused other why) :=
  ⟨h.className, h.family, rfl, h.message⟩

theorem toldAlike_malformed : ToldAlike first second (malformed first) (malformed second) :=
  toldAlike_of_words "Invalid compiler reference '" "'. Expected 'package.module:attr'"

theorem toldAlike_notCallable : ToldAlike first second (notCallable first) (notCallable second) :=
  toldAlike_of_words "Compiler '" "' is not callable"

theorem toldAlike_notFound (moduleName : String) (why : Fault) :
    ToldAlike first second (notFound first moduleName why) (notFound second moduleName why) := by
  have hwords : ∀ reference, "Compiler '" ++ reference ++ "' not found in module '" ++ moduleName ++ "'" =
      "Compiler '" ++ reference ++ ("' not found in module '" ++ moduleName ++ "'") := by
    intro reference
    simp [String.append_assoc]
  rw [notFound, notFound, hwords first, hwords second]
  exact (toldAlike_of_words _ _).caused why

/-- The same value, or faults that are told alike. -/
inductive SameVerdict (first second : String) : Except Fault α → Except Fault α → Prop
  | value (value : α) : SameVerdict first second (.ok value) (.ok value)
  | fault {one other : Fault} (h : ToldAlike first second one other) :
      SameVerdict first second (.error one) (.error other)

theorem SameVerdict.refl (result : Except Fault α) : SameVerdict first second result result := by
  cases result with
  | ok value => exact .value value
  | error fault => exact .fault (.refl fault)

/-- The same verdict after the same calls and changes; what is logged may differ. -/
structure Agree (first second : String) (one other : Report α) : Prop where
  verdict : SameVerdict first second one.result other.result
  calls : one.calls = other.calls
  changes : one.changes = other.changes

theorem Agree.refl (report : Report α) : Agree first second report report := ⟨.refl _, rfl, rfl⟩

theorem agree_fail {one other : Fault} (h : ToldAlike first second one other) :
    Agree first second (.fail one : Report α) (.fail other) := ⟨.fault h, rfl, rfl⟩

theorem Agree.bind {one other : Report α} {next later : α → Report β} (h : Agree first second one other)
    (hnext : ∀ value, Agree first second (next value) (later value)) :
    Agree first second (one.bind next) (other.bind later) := by
  obtain ⟨hverdict, hcalls, hchanges⟩ := h
  cases hone : one.result with
  | ok value =>
    rw [hone] at hverdict
    cases hother : other.result with
    | ok same =>
      rw [hother] at hverdict
      cases hverdict
      obtain ⟨hlast, hlastCalls, hlastChanges⟩ := hnext value
      rw [Report.bind_of_ok hone, Report.bind_of_ok hother]
      exact ⟨hlast, congrArg₂ _ hcalls hlastCalls, congrArg₂ _ hchanges hlastChanges⟩
    | error fault =>
      rw [hother] at hverdict
      cases hverdict
  | error fault =>
    rw [hone] at hverdict
    cases hother : other.result with
    | ok value =>
      rw [hother] at hverdict
      cases hverdict
    | error told =>
      rw [hother] at hverdict
      cases hverdict with
      | fault h =>
        rw [Report.bind_of_error hone, Report.bind_of_error hother]
        exact ⟨.fault h, hcalls, hchanges⟩

variable (registry : Registry) (imports : Imports)

theorem step_agree {absent missing : Fault → Fault} (h : ∀ why, ToldAlike first second (absent why) (missing why))
    (value : Import.Value) (attr : String) :
    Agree first second (step registry imports absent value attr) (step registry imports missing value attr) := by
  unfold step
  cases hasked : (attributeOf registry imports value attr).result with
  | ok next =>
    simp only [hasked]
    exact .refl _
  | error why =>
    simp only [hasked]
    split
    · exact ⟨.fault (h why), rfl, rfl⟩
    · exact .refl _

theorem walk_agree {absent missing : Fault → Fault} (h : ∀ why, ToldAlike first second (absent why) (missing why))
    (value : Import.Value) (path : List String) :
    Agree first second (walk registry imports absent value path) (walk registry imports missing value path) := by
  induction path generalizing value with
  | nil => exact .refl _
  | cons attr path ih => exact (step_agree registry imports h value attr).bind ih

theorem pick_agree (parts : Parts) :
    Agree first second (pick registry first parts imports) (pick registry second parts imports) := by
  have hnotFound : ∀ why, ToldAlike first second (notFound first parts.moduleName why)
      (notFound second parts.moduleName why) := toldAlike_notFound parts.moduleName
  have hwalk := walk_agree registry imports hnotFound (.module parts.moduleName) (Text.pieces '.' parts.path)
  unfold pick
  apply hwalk.bind
  intro value
  cases isCallable value with
  | true => exact ⟨.value value, rfl, rfl⟩
  | false => exact agree_fail toldAlike_notCallable

theorem resolve_agree (hsplit : split first = split second) :
    Agree first second (resolve registry first imports).1 (resolve registry second imports).1 ∧
      (resolve registry first imports).2 = (resolve registry second imports).2 := by
  unfold resolve
  rw [← hsplit]
  simp only
  split
  · exact ⟨agree_fail toldAlike_malformed, rfl⟩
  · generalize importModule registry (split first).moduleName imports = imported
    refine ⟨Agree.bind (.refl imported.1) fun _ => ?_, rfl⟩
    exact pick_agree registry imported.2 (split first)

/-- A colon and a point before the last part of a reference come to the same: the same value after the
same calls, or faults of one class that differ at most in the reference that they name; and the same
modules are loaded then, with the same changes of their attributes. -/
theorem resolve_spellings_agree {moduleName attr : String} (hmodule : ':' ∉ moduleName.toList)
    (hcolon : ':' ∉ attr.toList) (hpoint : '.' ∉ attr.toList) :
    Agree (moduleName ++ ":" ++ attr) (moduleName ++ "." ++ attr)
        (resolve registry (moduleName ++ ":" ++ attr) imports).1
        (resolve registry (moduleName ++ "." ++ attr) imports).1 ∧
      (resolve registry (moduleName ++ ":" ++ attr) imports).2 =
        (resolve registry (moduleName ++ "." ++ attr) imports).2 :=
  resolve_agree registry imports
    ((split_colon attr hmodule).trans (split_point hmodule hcolon hpoint).symm)

/-- One module, which defines nothing. -/
def vacantModule : Registry := fun name => if name == "fx" then some ⟨false, [], .quiet⟩ else none

/-- Blanks at the ends are dropped in both spellings, and each fault names the reference as it was
spelled. -/
theorem padded_spellings_agree :
    ':' ∉ " fx".toList ∧ ':' ∉ "E ".toList ∧ '.' ∉ "E ".toList ∧
    Agree " fx:E " " fx.E " (resolve vacantModule " fx:E " .empty).1 (resolve vacantModule " fx.E " .empty).1 ∧
    (resolve vacantModule " fx:E " .empty).2 = (resolve vacantModule " fx.E " .empty).2 ∧
    (resolve vacantModule " fx.E " .empty).2.loaded = ["fx"] ∧
    (∃ fault, (resolve vacantModule " fx:E " .empty).1.result = .error fault ∧
      fault.message = "Compiler ' fx:E ' not found in module 'fx' (setting FACTS_COMPILER)") ∧
    ∃ fault, (resolve vacantModule " fx.E " .empty).1.result = .error fault ∧
      fault.message = "Compiler ' fx.E ' not found in module 'fx' (setting FACTS_COMPILER)" := by
  have hmodule : ':' ∉ " fx".toList := by decide
  have hcolon : ':' ∉ "E ".toList := by decide
  have hpoint : '.' ∉ "E ".toList := by decide
  obtain ⟨hagree, himports⟩ := resolve_spellings_agree vacantModule .empty hmodule hcolon hpoint
  exact ⟨hmodule, hcolon, hpoint, hagree, himports, rfl, ⟨_, rfl, rfl⟩, ⟨_, rfl, rfl⟩⟩

end FactIntake.Reference
