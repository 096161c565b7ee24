import FactIntake.Command.Compile
import FactIntake.Proofs.ReadDocuments

/-!
Models that do not write themselves. Where no value comes back to itself and every key has a spelling, the
document of a model holds its value: sequences are arrays, mappings are objects, and a value that the format
does not know is its display.
-/

namespace FactIntake.Model

open Binary64 Results

/-- A model that writes itself where it is the whole model. -/
def writesItself : Model → Bool
  | vocabulary .. | document _ => true
  | _ => false

/-- The spelling of a key; keys of other types have none. -/
def spelling? : Model → Option String
  | text s => some s
  | null => some "null"
  | bool true => some "true"
  | bool false => some "false"
  | int n => some (toString n)
  | float .nan => some "NaN"
  | float (.infinite false) => some "Infinity"
  | float (.infinite true) => some "-Infinity"
  | float x => some x.display
  | _ => none

mutual

/-- The value that the document of a model holds. Of keys with the same spelling the last one counts. -/
def value : Model → Json
  | null => .null
  | bool b => .bool b
  | int n => .int n
  | float x => .float x
  | text s => .text s
  | list items => .array (valueAll items)
  | tuple items => .array (valueAll items)
  | mapping entries => .object (Entries.putAll [] (valueMembers entries))
  | other => .text other.display

def valueAll : List Model → List Json
  | [] => []
  | item :: items => value item :: valueAll items

def valueMembers : List (Model × Model) → List (String × Json)
  | [] => []
  | (key, inside) :: entries => (key.spelling?.getD "", value inside) :: valueMembers entries

end

mutual

/-- Whether all keys in a model, and all values in it that hold no others, are such ones. -/
def Throughout (isValue isKey : Model → Prop) : Model → Prop
  | list items => ThroughoutAll isValue isKey items
  | tuple items => ThroughoutAll isValue isKey items
  | mapping entries => ThroughoutEntries isValue isKey entries
  | other => isValue other

def ThroughoutAll (isValue isKey : Model → Prop) : List Model → Prop
  | [] => True
  | item :: items => Throughout isValue isKey item ∧ ThroughoutAll isValue isKey items

def ThroughoutEntries (isValue isKey : Model → Prop) : List (Model × Model) → Prop
  | [] => True
  | (key, inside) :: entries =>
    isKey key ∧ Throughout isValue isKey inside ∧ ThroughoutEntries isValue isKey entries

end

/-- Whole numbers that can be spelled, and numbers as the machine has them. -/
def WithinLimits : Model → Prop
  | int n => digitCount n.natAbs ≤ Numeral.digitLimit
  | float x => x.Canonical
  | _ => True

/-- No value comes back to itself, and every key has a spelling. -/
def Writable (model : Model) : Prop := Throughout (· ≠ cycle) (·.spelling?.isSome) model

theorem throughoutAll_iff {isValue isKey : Model → Prop} {items : List Model} :
    ThroughoutAll isValue isKey items ↔ ∀ item ∈ items, Throughout isValue isKey item := by
  induction items with
  | nil => simp [ThroughoutAll]
  | cons item items ih => simp [ThroughoutAll, ih]

theorem throughoutEntries_iff {isValue isKey : Model → Prop} {entries : List (Model × Model)} :
    ThroughoutEntries isValue isKey entries ↔
      ∀ entry ∈ entries, isKey entry.1 ∧ Throughout isValue isKey entry.2 := by
  induction entries with
  | nil => simp [ThroughoutEntries]
  | cons entry entries ih => simp [ThroughoutEntries, ih, and_assoc]

theorem intText_eq (n : Int) : Json.intText n = toString n := by
  unfold Json.intText Json.intChars Json.natChars
  cases n with
  | ofNat m => rfl
  | negSucc m =>
    have htext : toString (Int.negSucc m) = "-" ++ Nat.repr (m + 1) := rfl
    rw [if_pos (Int.negSucc_lt_zero m), htext, ← String.toList_inj]
    simp [Nat.repr]

theorem spelled_eq_ok_iff {n value : Int} :
    spelled n = .ok value ↔ digitCount n.natAbs ≤ Numeral.digitLimit ∧ n = value := by
  unfold spelled
  split
  · next h => simp; omega
  · next h => simp; omega

/-- A key is written with its spelling. -/
theorem spelling_of_keyText {key : Model} {name : String} (h : key.keyText? = .ok name) :
    key.spelling? = some name := by
  cases key with
  | int n =>
    obtain ⟨m, hspelled, htext⟩ := map_eq_ok_iff.mp h
    obtain ⟨-, rfl⟩ := spelled_eq_ok_iff.mp hspelled
    rw [spelling?, ← intText_eq, htext]
  | float x =>
    obtain rfl := Except.ok.inj h
    rcases x with _ | (_ | _) | _ <;> rfl
  | bool b => cases b <;> obtain rfl := Except.ok.inj h <;> rfl
  | _ => first | contradiction | (obtain rfl := Except.ok.inj h; rfl)

theorem keyText_of_spelling {key : Model} {name : String} (hlimits : key.WithinLimits)
    (h : key.spelling? = some name) : key.keyText? = .ok name := by
  cases key with
  | int n =>
    obtain rfl := Option.some.inj h
    refine map_eq_ok_iff.mpr ⟨n, spelled_eq_ok_iff.mpr ⟨hlimits, rfl⟩, intText_eq n⟩
  | float x =>
    rcases x with _ | (_ | _) | _ <;> obtain rfl := Option.some.inj h <;> rfl
  | bool b => cases b <;> obtain rfl := Option.some.inj h <;> rfl
  | _ => first | contradiction | (obtain rfl := Option.some.inj h; rfl)

mutual

/-- What is written of a model is its value, its repeated keys merged; nothing in it is without a
spelling. -/
theorem value_of_toJson : ∀ (model : Model) {json : Json}, Throughout WithinLimits WithinLimits model →
    model.toJson = .ok json → Writable model ∧ json.merged = model.value ∧ json.Fits .none
  | list items, json, hlimits, h => by
    obtain ⟨values, hvalues, rfl⟩ := map_eq_ok_iff.mp h
    obtain ⟨hwritable, hmerged, hfits⟩ := valueAll_of_toJson items hlimits hvalues
    exact ⟨hwritable, congrArg Json.array hmerged, _, rfl, hfits⟩
  | tuple items, json, hlimits, h => by
    obtain ⟨values, hvalues, rfl⟩ := map_eq_ok_iff.mp h
    obtain ⟨hwritable, hmerged, hfits⟩ := valueAll_of_toJson items hlimits hvalues
    exact ⟨hwritable, congrArg Json.array hmerged, _, rfl, hfits⟩
  | mapping entries, json, hlimits, h => by
    obtain ⟨members, hmembers, rfl⟩ := map_eq_ok_iff.mp h
    obtain ⟨hwritable, hmerged, hfits⟩ := valueMembers_of_toJson entries hlimits hmembers
    exact ⟨hwritable, congrArg (fun members => Json.object (Entries.putAll [] members)) hmerged, _, rfl, hfits⟩
  | int n, json, hlimits, h => by
    obtain ⟨m, hspelled, rfl⟩ := map_eq_ok_iff.mp h
    obtain ⟨-, rfl⟩ := spelled_eq_ok_iff.mp hspelled
    exact ⟨nofun, rfl, rfl⟩
  | float x, json, hlimits, h => by
    obtain rfl := Except.ok.inj h
    exact ⟨nofun, rfl, hlimits⟩
  | null, json, hlimits, h | bool b, json, hlimits, h | text s, json, hlimits, h
  | vocabulary label statements, json, hlimits, h | document written, json, hlimits, h
  | bytes content, json, hlimits, h | object name shown, json, hlimits, h => by
    obtain rfl := Except.ok.inj h
    exact ⟨nofun, rfl, trivial⟩

theorem valueAll_of_toJson : ∀ (items : List Model) {values : List Json},
    ThroughoutAll WithinLimits WithinLimits items → toJsonAll items = .ok values →
    ThroughoutAll (· ≠ cycle) (·.spelling?.isSome) items ∧ Json.mergedAll values = valueAll items ∧
      Json.FitsAll .none values
  | [], values, hlimits, h => by
    obtain rfl := Except.ok.inj h
    exact ⟨trivial, rfl, trivial⟩
  | item :: items, values, hlimits, h => by
    obtain ⟨first, hfirst, hrest⟩ := bind_eq_ok_iff.mp h
    obtain ⟨later, hlater, hvalues⟩ := bind_eq_ok_iff.mp hrest
    obtain rfl := Except.ok.inj hvalues
    obtain ⟨hwritable, hmerged, hfits⟩ := value_of_toJson item hlimits.1 hfirst
    obtain ⟨hall, hmergedAll, hfitsAll⟩ := valueAll_of_toJson items hlimits.2 hlater
    exact ⟨⟨hwritable, hall⟩, congrArg₂ List.cons hmerged hmergedAll, hfits, hfitsAll⟩

theorem valueMembers_of_toJson : ∀ (entries : List (Model × Model)) {members : List (String × Json)},
    ThroughoutEntries WithinLimits WithinLimits entries → toMembers entries = .ok members →
    ThroughoutEntries (· ≠ cycle) (·.spelling?.isSome) entries ∧
      Json.mergedMembers members = valueMembers entries ∧ Json.FitsMembers .none members
  | [], members, hlimits, h => by
    obtain rfl := Except.ok.inj h
    exact ⟨trivial, rfl, trivial⟩
  | (key, inside) :: entries, members, hlimits, h => by
    obtain ⟨name, hname, hrest⟩ := bind_eq_ok_iff.mp h
    obtain ⟨first, hfirst, hrest⟩ := bind_eq_ok_iff.mp hrest
    obtain ⟨later, hlater, hmembers⟩ := bind_eq_ok_iff.mp hrest
    obtain rfl := Except.ok.inj hmembers
    have hspelling := spelling_of_keyText hname
    obtain ⟨hwritable, hmerged, hfits⟩ := value_of_toJson inside hlimits.2.1 hfirst
    obtain ⟨hall, hmergedAll, hfitsAll⟩ := valueMembers_of_toJson entries hlimits.2.2 hlater
    refine ⟨⟨by simp [hspelling], hwritable, hall⟩, ?_, hfits, hfitsAll⟩
    simp only [Json.mergedMembers, valueMembers, hspelling, Option.getD_some, hmerged, hmergedAll]

end

mutual

theorem toJson_of_writable : ∀ model : Model, Throughout WithinLimits WithinLimits model → Writable model →
    ∃ json, model.toJson = .ok json
  | list items, hlimits, h => by
    obtain ⟨values, hvalues⟩ := toJsonAll_of_writable items hlimits h
    exact ⟨_, map_eq_ok_iff.mpr ⟨values, hvalues, rfl⟩⟩
  | tuple items, hlimits, h => by
    obtain ⟨values, hvalues⟩ := toJsonAll_of_writable items hlimits h
    exact ⟨_, map_eq_ok_iff.mpr ⟨values, hvalues, rfl⟩⟩
  | mapping entries, hlimits, h => by
    obtain ⟨members, hmembers⟩ := toMembers_of_writable entries hlimits h
    exact ⟨_, map_eq_ok_iff.mpr ⟨members, hmembers, rfl⟩⟩
  | int n, hlimits, h => ⟨_, map_eq_ok_iff.mpr ⟨n, spelled_eq_ok_iff.mpr ⟨hlimits, rfl⟩, rfl⟩⟩
  | cycle, hlimits, h => absurd rfl h
  | null, _, _ | bool _, _, _ | text _, _, _ | float _, _, _ | vocabulary .., _, _ | document _, _, _
  | bytes _, _, _ | object .., _, _ => ⟨_, rfl⟩

theorem toJsonAll_of_writable : ∀ items : List Model, ThroughoutAll WithinLimits WithinLimits items →
    ThroughoutAll (· ≠ cycle) (·.spelling?.isSome) items → ∃ values, toJsonAll items = .ok values
  | [], _, _ => ⟨[], rfl⟩
  | item :: items, hlimits, h => by
    obtain ⟨first, hfirst⟩ := toJson_of_writable item hlimits.1 h.1
    obtain ⟨later, hlater⟩ := toJsonAll_of_writable items hlimits.2 h.2
    exact ⟨first :: later, bind_eq_ok_iff.mpr ⟨first, hfirst, bind_eq_ok_iff.mpr ⟨later, hlater, rfl⟩⟩⟩

theorem toMembers_of_writable : ∀ entries : List (Model × Model),
    ThroughoutEntries WithinLimits WithinLimits entries →
    ThroughoutEntries (· ≠ cycle) (·.spelling?.isSome) entries → ∃ members, toMembers entries = .ok members
  | [], _, _ => ⟨[], rfl⟩
  | (key, inside) :: entries, hlimits, h => by
    obtain ⟨name, hname⟩ := Option.isSome_iff_exists.mp h.1
    obtain ⟨first, hfirst⟩ := toJson_of_writable inside hlimits.2.1 h.2.1
    obtain ⟨later, hlater⟩ := toMembers_of_writable entries hlimits.2.2 h.2.2
    have htext := keyText_of_spelling hlimits.1 hname
    exact ⟨(name, first) :: later, bind_eq_ok_iff.mpr ⟨name, htext,
      bind_eq_ok_iff.mpr ⟨first, hfirst, bind_eq_ok_iff.mpr ⟨later, hlater, rfl⟩⟩⟩⟩

end

variable {model : Model}

theorem write_of_plain (h : model.writesItself = false) : model.write = model.toJson.map (Json.write .ascii) := by
  cases model with
  | vocabulary label statements => exact absurd h Bool.noConfusion
  | document written => exact absurd h Bool.noConfusion
  | _ => rfl

theorem document_eq_ok_iff (h : model.writesItself = false) {text : String} :
    Compile.document model = .ok text ↔ ∃ json, model.toJson = .ok json ∧ json.write .ascii = text := by
  rw [Compile.document, write_of_plain h, ← map_eq_ok_iff]
  cases model.toJson with
  | error reason => simp [Except.map]
  | ok json => simp [Except.map]

theorem document_iff_writable (h : model.writesItself = false)
    (hlimits : Throughout WithinLimits WithinLimits model) :
    (∃ text, Compile.document model = .ok text) ↔ Writable model := by
  constructor
  · rintro ⟨text, htext⟩
    obtain ⟨json, hjson, -⟩ := (document_eq_ok_iff h).mp htext
    exact (value_of_toJson model hlimits hjson).1
  · intro hwritable
    obtain ⟨json, hjson⟩ := toJson_of_writable model hlimits hwritable
    exact ⟨_, (document_eq_ok_iff h).mpr ⟨json, hjson, rfl⟩⟩

theorem read_document (h : model.writesItself = false) (hlimits : Throughout WithinLimits WithinLimits model)
    {text : String} (htext : Compile.document model = .ok text) : Json.read .none text = .ok model.value := by
  obtain ⟨json, hjson, rfl⟩ := (document_eq_ok_iff h).mp htext
  obtain ⟨-, hmerged, hfits⟩ := value_of_toJson model hlimits hjson
  rw [Json.read_write .ascii hfits, hmerged]

end FactIntake.Model
