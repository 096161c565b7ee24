import FactIntake.Fault

/-!
The order of the known classes. Every class but the widest has one parent, so the classes above a
class form a chain that ends in the widest one: being of a kind is transitive, and of two classes
above the same class one is above the other. Two classes that are apart have nothing below both of
them, which settles how a fault is classified whatever order the questions are asked in.
-/

namespace FactIntake.Fault

def widest : String := "BaseException"

/-- A class that is not in the table stands directly below `Exception`. -/
private theorem parent?_of_not_listed {className : String} (hwide : className ≠ widest)
    (h : parents.lookup className = none) : parent? className = some "Exception" := by
  have hne : (className == "BaseException") = false := beq_eq_false_iff_ne.mpr hwide
  simp [parent?, hne, h]

private theorem listed_of_lookup {className parent : String}
    (h : parents.lookup className = some parent) : ∃ entry ∈ parents, entry.1 = className := by
  obtain ⟨before, after, hsplit, -⟩ := List.lookup_eq_some_iff.mp h
  refine ⟨(className, parent), ?_, rfl⟩
  rw [hsplit]
  simp

private theorem listed_complete :
    ∀ entry ∈ parents, (lineage entry.1).getLast? = some widest := by decide +kernel

/-- The chain above a class goes all the way up. -/
theorem lineage_getLast? (className : String) : (lineage className).getLast? = some widest := by
  by_cases hwide : className = widest
  · subst hwide
    decide
  cases hlisted : parents.lookup className with
  | some parent =>
    obtain ⟨entry, hmem, rfl⟩ := listed_of_lookup hlisted
    exact listed_complete entry hmem
  | none =>
    have habove : lineageUpTo 7 "Exception" = ["Exception", widest] := by decide
    rw [lineage, lineageUpTo, parent?_of_not_listed hwide hlisted]
    simp only [habove, List.getLast?_cons_cons, List.getLast?_singleton]

private theorem lineageUpTo_succ {fuel : Nat} {className : String}
    (h : (lineageUpTo fuel className).getLast? = some widest) :
    lineageUpTo (fuel + 1) className = lineageUpTo fuel className := by
  induction fuel generalizing className with
  | zero => simp [lineageUpTo] at h
  | succ fuel ih =>
    rw [lineageUpTo, lineageUpTo]
    cases hparent : parent? className with
    | none => rfl
    | some parent =>
      have hne : className ≠ widest := by
        rintro rfl
        simp [parent?, widest] at hparent
      have hlast : (lineageUpTo fuel parent).getLast? = some widest := by
        rw [lineageUpTo, hparent] at h
        cases hrest : lineageUpTo fuel parent with
        | nil => simp [hrest, hne] at h
        | cons first rest => simpa [hrest] using h
      exact congrArg (className :: ·) (ih hlast)

/-- A class, and then the chain above its parent. -/
theorem lineage_eq (className : String) :
    lineage className = className :: ((parent? className).elim [] lineage) := by
  have hfull : lineageUpTo 9 className = lineage className :=
    lineageUpTo_succ (lineage_getLast? className)
  rw [← hfull, lineageUpTo]
  cases parent? className <;> rfl

theorem isKindOf_iff_mem {className ancestor : String} :
    isKindOf className ancestor ↔ ancestor ∈ lineage className := by
  simp [isKindOf]

@[simp] theorem isKindOf_self (className : String) : isKindOf className className := by
  rw [isKindOf_iff_mem, lineage_eq]
  exact List.mem_cons_self

/-- What is above a class above is the rest of the same chain. -/
theorem lineage_suffix {className above : String} (h : above ∈ lineage className) :
    lineage above <:+ lineage className := by
  induction hlength : (lineage className).length generalizing className with
  | zero =>
    rw [List.length_eq_zero_iff.mp hlength] at h
    simp at h
  | succ length ih =>
    rw [lineage_eq className] at h hlength
    rcases List.mem_cons.mp h with rfl | hrest
    · exact List.suffix_refl _
    · rw [lineage_eq className]
      cases hparent : parent? className with
      | none => simp [hparent] at hrest
      | some parent =>
        simp only [hparent, Option.elim, List.length_cons, Nat.add_right_cancel_iff] at hrest hlength
        exact (ih hrest hlength).trans (List.suffix_cons _ _)

theorem isKindOf_trans {className above ancestor : String} (h : isKindOf className above)
    (habove : isKindOf above ancestor) : isKindOf className ancestor := by
  rw [isKindOf_iff_mem] at h habove ⊢
  exact (lineage_suffix h).subset habove

/-- Two classes above the same class stand above one another. -/
theorem isKindOf_total {className a b : String} (ha : isKindOf className a)
    (hb : isKindOf className b) : isKindOf a b ∨ isKindOf b a := by
  rw [isKindOf_iff_mem] at ha hb
  rcases List.suffix_or_suffix_of_suffix (lineage_suffix ha) (lineage_suffix hb) with hab | hba
  · exact Or.inr (isKindOf_iff_mem.mpr (hab.subset (isKindOf_iff_mem.mp (isKindOf_self a))))
  · exact Or.inl (isKindOf_iff_mem.mpr (hba.subset (isKindOf_iff_mem.mp (isKindOf_self b))))

/-- Neither class is above the other. -/
def Apart (a b : String) : Prop := isKindOf a b = false ∧ isKindOf b a = false

instance (a b : String) : Decidable (Apart a b) := inferInstanceAs (Decidable (_ ∧ _))

/-- Nothing is below two classes that are apart. -/
theorem not_isKindOf_of_apart {className a b : String} (hapart : Apart a b)
    (ha : isKindOf className a) : isKindOf className b = false := by
  cases hb : isKindOf className b with
  | false => rfl
  | true =>
    rcases isKindOf_total ha hb with hab | hba
    · exact absurd hab (by simp [hapart.1])
    · exact absurd hba (by simp [hapart.2])

variable {fault : Fault}

theorem isA_trans {above ancestor : String} (h : fault.isA above)
    (habove : isKindOf above ancestor) : fault.isA ancestor := isKindOf_trans h habove

theorem not_isA_of_apart {a b : String} (hapart : Apart a b) (h : fault.isA a) :
    fault.isA b = false := not_isKindOf_of_apart hapart h

/-- The class of a fault is that of the fault without its causes. -/
theorem isA_bare (fault : Fault) (ancestor : String) : fault.bare.isA ancestor = fault.isA ancestor := by
  induction fault with
  | caused fault cause ih => exact ih
  | _ => rfl

end FactIntake.Fault
