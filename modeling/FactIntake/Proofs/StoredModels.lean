import FactIntake.Proofs.ModelValues
import Mathlib.Data.Fintype.Card
import Mathlib.Logic.Relation
import Mathlib.Tactic.FinCases

/-!
Models as they are stored. A value may be stored once and be in several places of a model, and a
container may contain itself, also at some depth. The model is what is found from a place on, up to a
container that is met again inside of itself. It has a document if and only if there is no such
container and every key has a spelling.
-/

namespace FactIntake

/-- A value that holds no others. -/
def Model.isPlain : Model → Bool
  | list _ | tuple _ | mapping _ | cycle => false
  | _ => true

/-- What is stored at a place: a value that holds no others, or a container of what is at other places. -/
inductive Cell (n : Nat)
  | plain (model : Model) (h : model.isPlain)
  | list (items : List (Fin n))
  | tuple (items : List (Fin n))
  | mapping (entries : List (Model × Fin n))

namespace Cell

variable {n : Nat}

def values : Cell n → List Model
  | plain model _ => [model]
  | list _ | tuple _ | mapping _ => []

def keys : Cell n → List Model
  | mapping entries => entries.map Prod.fst
  | plain .. | list _ | tuple _ => []

def places : Cell n → List (Fin n)
  | plain .. => []
  | list items | tuple items => items
  | mapping entries => entries.map Prod.snd

/-- The model of a cell, with the models of what is inside. -/
def toModel (inside : Fin n → Model) : Cell n → Model
  | plain model _ => model
  | list items => .list (items.map inside)
  | tuple items => .tuple (items.map inside)
  | mapping entries => .mapping (entries.map fun entry => (entry.1, inside entry.2))

theorem throughout_plain {isValue isKey : Model → Prop} {model : Model} (h : model.isPlain) :
    model.Throughout isValue isKey ↔ isValue model := by
  cases model with
  | list items | tuple items | mapping entries | cycle => cases h
  | _ => rfl

theorem throughout_toModel {isValue isKey : Model → Prop} (inside : Fin n → Model) (cell : Cell n) :
    (cell.toModel inside).Throughout isValue isKey ↔
      (∀ model ∈ cell.values, isValue model) ∧ (∀ key ∈ cell.keys, isKey key) ∧
        ∀ place ∈ cell.places, (inside place).Throughout isValue isKey := by
  cases cell with
  | plain model h => simp [toModel, values, keys, places, throughout_plain h]
  | list items | tuple items =>
    simp [toModel, values, keys, places, Model.Throughout, Model.throughoutAll_iff]
  | mapping entries =>
    simp only [toModel, values, keys, places, Model.Throughout, Model.throughoutEntries_iff, List.forall_mem_map,
      List.not_mem_nil, IsEmpty.forall_iff, implies_true, true_and]
    exact ⟨fun h => ⟨fun entry hentry => (h entry hentry).1, fun entry hentry => (h entry hentry).2⟩,
      fun h entry hentry => ⟨h.1 entry hentry, h.2 entry hentry⟩⟩

end Cell

abbrev Memory (n : Nat) := Fin n → Cell n

namespace Memory

open Relation

variable {n : Nat} (memory : Memory n)

def Contains (place inside : Fin n) : Prop := inside ∈ (memory place).places

/-- What is found at some depth inside of a place, that place included. -/
def Reaches : Fin n → Fin n → Prop := ReflTransGen memory.Contains

def ContainsItself (place : Fin n) : Prop := TransGen memory.Contains place place

/-- The model at a place inside of the places above; to meet one of these again is a cycle. -/
def unfold : Nat → List (Fin n) → Fin n → Model
  | 0, _, _ => .cycle
  | depth + 1, above, place =>
    if place ∈ above then .cycle else (memory place).toModel (unfold depth (place :: above))

/-- The model at a place. No more containers are inside of each other than there are places. -/
def model (place : Fin n) : Model := memory.unfold n [] place

/-- All numbers that are found inside of a place are within the limits. -/
def WithinLimits (root : Fin n) : Prop :=
  ∀ place, memory.Reaches root place →
    (∀ model ∈ (memory place).values, model.WithinLimits) ∧ ∀ key ∈ (memory place).keys, key.WithinLimits

variable {memory}

theorem reaches_iff {place inside : Fin n} :
    memory.Reaches place inside ↔
      place = inside ∨ ∃ next ∈ (memory place).places, memory.Reaches next inside := by
  unfold Reaches
  rw [ReflTransGen.cases_head_iff]
  rfl

theorem containsItself_iff {place : Fin n} :
    memory.ContainsItself place ↔ ∃ next ∈ (memory place).places, memory.Reaches next place := by
  unfold ContainsItself
  rw [TransGen.head'_iff]
  rfl

theorem mem_of_full {above : List (Fin n)} (hnodup : above.Nodup) (hfull : n ≤ above.length) (place : Fin n) :
    place ∈ above := by
  have hcard : above.toFinset.card = above.length := List.toFinset_card_of_nodup hnodup
  have huniv : above.toFinset = Finset.univ := by
    apply Finset.eq_univ_of_card
    have hle := Finset.card_le_univ above.toFinset
    simp only [Fintype.card_fin] at hle ⊢
    omega
  have hmem : place ∈ above.toFinset := huniv ▸ Finset.mem_univ place
  simpa using hmem

theorem throughout_unfold {isValue isKey : Model → Prop} (hcycle : isValue .cycle) {depth : Nat}
    {above : List (Fin n)} {place : Fin n}
    (h : ∀ inside, memory.Reaches place inside →
      (∀ model ∈ (memory inside).values, isValue model) ∧ ∀ key ∈ (memory inside).keys, isKey key) :
    (memory.unfold depth above place).Throughout isValue isKey := by
  induction depth generalizing above place with
  | zero => exact hcycle
  | succ depth ih =>
    unfold Memory.unfold
    split
    · exact hcycle
    · obtain ⟨hvalues, hkeys⟩ := h place (reaches_iff.mpr (Or.inl rfl))
      refine (Cell.throughout_toModel _ _).mpr ⟨hvalues, hkeys, fun next hnext => ih fun inside hinside => ?_⟩
      exact h inside (reaches_iff.mpr (Or.inr ⟨next, hnext, hinside⟩))

/-- Inside of the places above, the model at a place is writable if none of them is met again, nothing
in it contains itself, and all keys have a spelling. -/
theorem writable_unfold_iff {depth : Nat} {above : List (Fin n)} {place : Fin n} (hnodup : above.Nodup)
    (hdepth : n ≤ depth + above.length) :
    (memory.unfold depth above place).Writable ↔
      ∀ inside, memory.Reaches place inside → inside ∉ above ∧ ¬ memory.ContainsItself inside ∧
        ∀ key ∈ (memory inside).keys, key.spelling?.isSome := by
  have hself : memory.Reaches place place := reaches_iff.mpr (Or.inl rfl)
  induction depth generalizing above place with
  | zero =>
    have hmem := mem_of_full hnodup (by omega) place
    exact ⟨fun h => absurd rfl h, fun h => absurd hmem (h place hself).1⟩
  | succ depth ih =>
    unfold Memory.unfold
    split
    · next hmem => exact ⟨fun h => absurd rfl h, fun h => absurd hmem (h place hself).1⟩
    · next hfresh =>
      have hnext : ∀ next, (memory.unfold depth (place :: above) next).Writable ↔
          ∀ inside, memory.Reaches next inside → inside ∉ place :: above ∧ ¬ memory.ContainsItself inside ∧
            ∀ key ∈ (memory inside).keys, key.spelling?.isSome := by
        intro next
        apply ih (List.nodup_cons.mpr ⟨hfresh, hnodup⟩) (by simp; omega)
        exact reaches_iff.mpr (Or.inl rfl)
      have hvalues : ∀ model ∈ (memory place).values, model ≠ .cycle := by
        cases memory place with
        | plain model h => simp [Cell.values]; rintro rfl; cases h
        | list items | tuple items | mapping entries => simp [Cell.values]
      rw [Model.Writable, Cell.throughout_toModel]
      constructor
      · rintro ⟨-, hkeys, hplaces⟩ inside hinside
        rcases reaches_iff.mp hinside with rfl | ⟨next, hmem, hreaches⟩
        · refine ⟨hfresh, fun hitself => ?_, hkeys⟩
          obtain ⟨next, hmem, hreaches⟩ := containsItself_iff.mp hitself
          exact ((hnext next).mp (hplaces next hmem) place hreaches).1 (.head _)
        · obtain ⟨habove, hrest⟩ := (hnext next).mp (hplaces next hmem) inside hreaches
          exact ⟨fun hmem => habove (.tail _ hmem), hrest⟩
      · intro h
        obtain ⟨-, hitself, hkeys⟩ := h place hself
        refine ⟨hvalues, hkeys, fun next hmem => (hnext next).mpr fun inside hinside => ?_⟩
        have hreaches : memory.Reaches place inside := reaches_iff.mpr (Or.inr ⟨next, hmem, hinside⟩)
        obtain ⟨habove, hrest⟩ := h inside hreaches
        refine ⟨fun hagain => ?_, hrest⟩
        rcases List.mem_cons.mp hagain with rfl | hagain
        · exact hitself (containsItself_iff.mpr ⟨next, hmem, hinside⟩)
        · exact habove hagain

/-- A model that does not write itself has a document if and only if no container in it contains itself
and all keys in it have a spelling. What is read of the document is the value of the model. -/
theorem document_of_stored (memory : Memory n) {root : Fin n} (hroot : (memory.model root).writesItself = false)
    (hlimits : memory.WithinLimits root) :
    ((∃ text, Compile.document (memory.model root) = .ok text) ↔
      ∀ place, memory.Reaches root place → ¬ memory.ContainsItself place ∧
        ∀ key ∈ (memory place).keys, key.spelling?.isSome) ∧
    ∀ text, Compile.document (memory.model root) = .ok text →
      Json.read .none text = .ok (memory.model root).value := by
  have hwithin : (memory.model root).Throughout Model.WithinLimits Model.WithinLimits :=
    throughout_unfold trivial hlimits
  have hwritable : (memory.model root).Writable ↔ ∀ place, memory.Reaches root place →
      place ∉ ([] : List (Fin n)) ∧ ¬ memory.ContainsItself place ∧
        ∀ key ∈ (memory place).keys, key.spelling?.isSome :=
    writable_unfold_iff List.nodup_nil (Nat.le_add_right n 0)
  refine ⟨?_, fun text htext => Model.read_document hroot hwithin htext⟩
  rw [Model.document_iff_writable hroot hwithin, hwritable]
  simp

/-- Where containers come before what is inside of them, none contains itself. -/
theorem not_containsItself_of_lt {memory : Memory n}
    (h : ∀ place, ∀ inside ∈ (memory place).places, place < inside) (place : Fin n) :
    ¬ memory.ContainsItself place := by
  have hlater : ∀ inside, TransGen memory.Contains place inside → place < inside := by
    intro inside hinside
    induction hinside with
    | single hcontains => exact h _ _ hcontains
    | tail _ hcontains ih => exact ih.trans (h _ _ hcontains)
  exact fun hitself => lt_irrefl place (hlater place hitself)

/-- A tuple that is stored once and is in two places of a mapping, two keys of which are spelled alike. -/
def shared : Memory 4
  | 0 => .mapping [(.int 1, 1), (.text "1", 2), (.null, 1)]
  | 1 => .tuple [3, 3]
  | 2 => .plain (.float .nan) rfl
  | 3 => .plain (.object "E" "e") rfl

/-- A list with a mapping that has the list in it. -/
def looping : Memory 2
  | 0 => .list [1]
  | 1 => .mapping [(.text "a", 0)]

theorem shared_written_looping_not :
    (∃ text, Compile.document (shared.model 0) = .ok text ∧ Json.read .none text =
      .ok (.object [("1", .float .nan), ("null", .array [.text "e", .text "e"])])) ∧
    ¬ ∃ text, Compile.document (looping.model 0) = .ok text := by
  constructor
  · have hlimits : shared.WithinLimits 0 := by
      intro place _
      fin_cases place
      · simp [shared, Cell.values, Cell.keys, Model.WithinLimits]
        decide
      · simp [shared, Cell.values, Cell.keys]
      · simp [shared, Cell.values, Cell.keys, Model.WithinLimits, Binary64.Canonical]
      · simp [shared, Cell.values, Cell.keys, Model.WithinLimits]
    have hspelled : ∀ place, ∀ key ∈ (shared place).keys, key.spelling?.isSome := by
      intro place
      fin_cases place
      · simp [shared, Cell.keys, Model.spelling?]
      all_goals simp [shared, Cell.keys]
    have hroot : (shared.model 0).writesItself = false := rfl
    obtain ⟨hdocument, hread⟩ := document_of_stored shared hroot hlimits
    obtain ⟨text, htext⟩ := hdocument.mpr fun place _ =>
      ⟨not_containsItself_of_lt (by decide) place, hspelled place⟩
    exact ⟨text, htext, hread text htext⟩
  · have hlimits : looping.WithinLimits 0 := by
      intro place _
      fin_cases place
      · simp [looping, Cell.values, Cell.keys]
      · simp [looping, Cell.values, Cell.keys, Model.WithinLimits]
    intro hwritten
    have hroot : (looping.model 0).writesItself = false := rfl
    obtain ⟨hdocument, -⟩ := document_of_stored looping hroot hlimits
    have hitself : looping.ContainsItself 0 :=
      .head (show looping.Contains 0 1 from .head _) (.single (show looping.Contains 1 0 from .head _))
    exact (hdocument.mp hwritten 0 .refl).1 hitself

end Memory

end FactIntake
