import FactIntake.Proofs.BlankEnds
import FactIntake.Proofs.Reporting

/-!
Failures inside failures. Each path is put before what the failure at the next one says. No blank is
lost on the way down, since a failure begins with a letter and ends as the fault at the bottom does. So
the text of a failure at the first of many paths has all the paths in order, its trail is that of the
fault, and the fault itself is found below as many failures as there are paths.
-/

namespace FactIntake

namespace Fault

/-- A fault wrapped in a failure at each path, the last path innermost. -/
def wrapAll (paths : List String) (fault : Fault) : Except Fault Fault :=
  paths.foldr (fun path inside => inside.bind (wrap path)) (.ok fault)

/-- What a fault is found to wrap after a number of levels. -/
def unwrap : Nat → Fault → Option Fault
  | 0, fault => some fault
  | level + 1, fault => fault.original?.bind (unwrap level)

/-- What a failure puts before the text of the fault that it wraps. -/
def whereabouts (path : String) : String := "In " ++ path ++ " "

/-- A failure at the first path that wraps one at the next, and so on down to a fault. What each was
raised from does not matter. -/
inductive Nests (fault : Fault) : List String → Fault → Prop
  | bottom : Nests fault [] fault
  | level {path : String} {paths : List String} {inside failure : Fault} (hinside : Nests fault paths inside)
      (hbare : failure.bare = .failed path inside) : Nests fault (path :: paths) failure

variable {fault failure inside : Fault} {path : String} {paths : List String}

theorem className_bare (fault : Fault) : fault.bare.className = fault.className := by
  induction fault with
  | caused fault cause ih => exact ih
  | _ => rfl

theorem message_bare (fault : Fault) : fault.bare.message = fault.message := by
  induction fault with
  | caused fault cause ih => exact ih
  | _ => rfl

theorem place_bare (fault : Fault) : fault.bare.place = fault.place := by
  induction fault with
  | caused fault cause ih => exact ih
  | _ => rfl

theorem original?_bare (fault : Fault) : fault.bare.original? = fault.original? := by
  induction fault with
  | caused fault cause ih => exact ih
  | _ => rfl

theorem className_of_failed (h : failure.bare = .failed path inside) : failure.className = "CompileFailure" := by
  rw [← className_bare, h]
  rfl

theorem message_of_failed (h : failure.bare = .failed path inside) :
    failure.message = whereabouts path ++ Text.strip inside.message := by
  rw [← message_bare, h]
  rfl

theorem place_of_failed (h : failure.bare = .failed path inside) : failure.place = .marks inside.trail := by
  rw [← place_bare, h]
  rfl

theorem original?_of_failed (h : failure.bare = .failed path inside) : failure.original? = some inside := by
  rw [← original?_bare, h]
  rfl

/-- A text that is put behind a path keeps both ends, unless it is blank. -/
theorem strip_whereabouts {text : String} (path : String) (htext : Text.strip text ≠ "") :
    Text.strip (whereabouts path ++ Text.strip text) = whereabouts path ++ Text.strip text := by
  have hstripped : Text.stripChars text.toList ≠ [] := by
    intro hnil
    apply htext
    rw [Text.strip, hnil]
  have hwhole : (whereabouts path ++ Text.strip text).toList =
      'I' :: ("n " ++ path ++ " ").toList ++ Text.stripChars text.toList := by
    simp [whereabouts, Text.strip]
  apply String.toList_inj.mp
  rw [Text.strip, String.toList_ofList, hwhole, Text.stripChars_framed (by decide) hstripped]

theorem Nests.strip_message (h : Nests fault paths failure) (htext : Text.strip fault.message ≠ "") :
    Text.strip failure.message = String.join (paths.map whereabouts) ++ Text.strip fault.message := by
  induction h with
  | bottom => simp
  | @level path paths inside failure hinside hbare ih =>
    have hinner : Text.strip inside.message ≠ "" := by
      rw [ih]
      simp [htext]
    rw [message_of_failed hbare, strip_whereabouts path hinner, ih, List.map_cons, String.join_cons,
      String.append_assoc]

theorem Nests.message (h : Nests fault paths failure) (hpaths : paths ≠ [])
    (htext : Text.strip fault.message ≠ "") :
    failure.message = String.join (paths.map whereabouts) ++ Text.strip fault.message := by
  cases h with
  | bottom => exact absurd rfl hpaths
  | @level path paths inside failure hinside hbare =>
    rw [message_of_failed hbare, hinside.strip_message htext, List.map_cons, String.join_cons,
      String.append_assoc]

theorem Nests.trail (h : Nests fault paths failure) : failure.trail = fault.trail := by
  induction h with
  | bottom => rfl
  | level hinside hbare ih => rw [Fault.trail, place_of_failed hbare, Place.trail, ih]

/-- Below any number of levels is a failure that wraps the fault as often as there are paths left. -/
theorem Nests.unwrap (h : Nests fault paths failure) {level : Nat} (hlevel : level ≤ paths.length) :
    ∃ inner, unwrap level failure = some inner ∧ Nests fault (paths.drop level) inner := by
  induction h generalizing level with
  | bottom =>
    obtain rfl : level = 0 := by simpa using hlevel
    exact ⟨_, rfl, .bottom⟩
  | @level path paths inside failure hinside hbare ih =>
    cases level with
    | zero => exact ⟨failure, rfl, .level hinside hbare⟩
    | succ level =>
      obtain ⟨inner, hinner, hnests⟩ := ih (Nat.le_of_succ_le_succ hlevel)
      refine ⟨inner, ?_, hnests⟩
      rw [Fault.unwrap, original?_of_failed hbare, Option.bind_some, hinner]

theorem Nests.eq_of_nil (h : Nests fault [] failure) : failure = fault := by
  cases h
  rfl

/-- The class of what a failure wraps is that of another failure as long as there are paths left. -/
theorem Nests.kind (h : Nests fault paths failure) (hpaths : paths ≠ []) :
    failure.kind? = some (if paths.length = 1 then fault.className else "CompileFailure") := by
  cases h with
  | bottom => exact absurd rfl hpaths
  | level hinside hbare =>
    rw [kind?, original?_of_failed hbare]
    cases hinside with
    | bottom => rfl
    | level _ hbare => simp [className_of_failed hbare]

/-- A failure that has the paths in its text and the trail of the fault, and leads back to the fault. -/
structure Composes (paths : List String) (fault failure : Fault) : Prop where
  message : failure.message = String.join (paths.map whereabouts) ++ Text.strip fault.message
  kind : failure.kind? = some (if paths.length = 1 then fault.className else "CompileFailure")
  trail : ∀ level ≤ paths.length, ∃ inner, unwrap level failure = some inner ∧ inner.trail = fault.trail
  reached : unwrap paths.length failure = some fault

theorem Nests.composes (h : Nests fault paths failure) (hpaths : paths ≠ [])
    (htext : Text.strip fault.message ≠ "") : Composes paths fault failure := by
  refine ⟨h.message hpaths htext, h.kind hpaths, fun level hlevel => ?_, ?_⟩
  · obtain ⟨inner, hinner, hnests⟩ := h.unwrap hlevel
    exact ⟨inner, hinner, hnests.trail⟩
  · obtain ⟨inner, hinner, hnests⟩ := h.unwrap (Nat.le_refl paths.length)
    rw [List.drop_length] at hnests
    rw [hinner, hnests.eq_of_nil]

/-- A failure says of its place what a trail says, so it can be wrapped again. -/
theorem Nests.fit (h : Nests fault paths failure) (hplace : fault.place.unfit? = none) :
    failure.place.unfit? = none := by
  cases h with
  | bottom => exact hplace
  | level _ hbare =>
    rw [place_of_failed hbare]
    rfl

theorem exists_wrapAll (paths : List String) (hplace : fault.place.unfit? = none) :
    ∃ failure, wrapAll paths fault = .ok failure ∧ Nests fault paths failure := by
  induction paths with
  | nil => exact ⟨fault, rfl, .bottom⟩
  | cons path paths ih =>
    obtain ⟨inside, hinside, hnests⟩ := ih
    refine ⟨.failed path inside, ?_, .level hnests rfl⟩
    have hwrap : wrap path inside = .ok (.failed path inside) := by
      simp [wrap, placeType?, hnests.fit hplace]
    show (wrapAll paths fault).bind (wrap path) = _
    rw [hinside]
    exact hwrap

end Fault

namespace Loader

open Fault

variable {fault failure : Fault} {paths : List String} {report : Report Model}

/-- A failure is an ordinary fault, and none of reading. -/
theorem caught_of_nests (h : Nests fault paths failure) (hpasses : passes fault = false)
    (hreading : isReading fault = false) : passes failure = false ∧ isReading failure = false := by
  cases h with
  | bottom => exact ⟨hpasses, hreading⟩
  | level _ hbare =>
    have hclass : failure.isA "CompileFailure" := by
      rw [← Fault.isA_bare, hbare]
      exact isKindOf_self "CompileFailure"
    refine ⟨not_passes_of_isA hclass (by decide) (by decide) (by decide), ?_⟩
    simp [isReading, not_isA_of_apart (by decide : Apart "CompileFailure" "OSError") hclass,
      not_isA_of_apart (by decide : Apart "CompileFailure" "UnicodeDecodeError") hclass]

/-- An ordinary fault that goes up through reading at each path is wrapped there. -/
theorem exists_intercepted (paths : List String) (hresult : report.result = .error fault)
    (hpasses : passes fault = false) (hreading : isReading fault = false)
    (hplace : fault.place.unfit? = none) :
    ∃ failure, (paths.foldr intercept report).result = .error failure ∧ Nests fault paths failure := by
  induction paths with
  | nil => exact ⟨fault, hresult, .bottom⟩
  | cons path paths ih =>
    obtain ⟨inside, hinside, hnests⟩ := ih
    obtain ⟨hcaught, hordinary⟩ := caught_of_nests hnests hpasses hreading
    have hfailure := (intercept_of_caught path hinside hcaught).1
    rw [normalised, if_neg (by simp [hordinary]), failure_of_fit (hnests.fit hplace)] at hfailure
    exact ⟨_, hfailure, .level hnests rfl⟩

/-- Wrapping a fault at one path after the other composes: the text has all the paths, the trail stays,
and the fault is found again. So it is where an ordinary fault goes up through one reading inside the
other. -/
theorem wrapping_composes (hpaths : paths ≠ []) (htext : Text.strip fault.message ≠ "")
    (hplace : fault.place.unfit? = none) :
    (∃ failure, wrapAll paths fault = .ok failure ∧ Composes paths fault failure) ∧
    ∀ report : Report Model, report.result = .error fault → passes fault = false → isReading fault = false →
      ∃ failure, (paths.foldr intercept report).result = .error failure ∧ Composes paths fault failure := by
  constructor
  · obtain ⟨failure, hwrap, hnests⟩ := exists_wrapAll paths hplace
    exact ⟨failure, hwrap, hnests.composes hpaths htext⟩
  · intro report hresult hpasses hreading
    obtain ⟨failure, hfailure, hnests⟩ := exists_intercepted paths hresult hpasses hreading hplace
    exact ⟨failure, hfailure, hnests.composes hpaths htext⟩

/-- A rejection with blanks at both ends of its text. -/
def paddedRejection : Fault :=
  .rejected "  no verb\n" (some "c\n.cql") (some 3) none [⟨"c\n.cql", some 3, none⟩]

/-- A blank path and one with a line end in it are put in front as they are. -/
theorem padded_rejection_composes :
    ["a.cql", " ", "c\n.cql"] ≠ [] ∧ Text.strip paddedRejection.message ≠ "" ∧
    paddedRejection.place.unfit? = none ∧ passes paddedRejection = false ∧ isReading paddedRejection = false ∧
    (∃ failure, wrapAll ["a.cql", " ", "c\n.cql"] paddedRejection = .ok failure ∧
      failure.message = "In a.cql In   In c\n.cql no verb" ∧ failure.kind? = some "CompileFailure" ∧
      unwrap 3 failure = some paddedRejection) ∧
    ∃ failure, (["a.cql", " ", "c\n.cql"].foldr intercept (.fail paddedRejection)).result = .error failure ∧
      failure.message = "In a.cql In   In c\n.cql no verb" ∧
      unwrap 3 failure = some paddedRejection := by
  have hpaths : ["a.cql", " ", "c\n.cql"] ≠ [] := by decide
  have htext : Text.strip paddedRejection.message ≠ "" := by decide
  have hpasses : passes paddedRejection = false := by decide
  have hreading : isReading paddedRejection = false := by decide
  have hspelled : String.join (["a.cql", " ", "c\n.cql"].map whereabouts) ++ Text.strip paddedRejection.message =
      "In a.cql In   In c\n.cql no verb" := by decide
  obtain ⟨⟨failure, hwrap, hfailure⟩, hup⟩ := wrapping_composes hpaths htext rfl
  obtain ⟨raised, hresult, hraised⟩ := hup (.fail paddedRejection) rfl hpasses hreading
  exact ⟨hpaths, htext, rfl, hpasses, hreading,
    ⟨failure, hwrap, hfailure.message.trans hspelled, hfailure.kind, hfailure.reached⟩,
    ⟨raised, hresult, hraised.message.trans hspelled, hraised.reached⟩⟩

end Loader

end FactIntake
