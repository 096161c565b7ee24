import FactIntake.Text.Lowercase

/-!
Lower case is final: a text in lower case stays as it is when it is put in lower case again. What a run
of capital letters becomes lies in no run of capital letters, which is checked run against run, and the
forms that the two exceptions take are no capitals either. Whether a capital sigma is the last letter of
a word therefore does not matter to the second time, since there is no capital sigma left. Only a point
becomes a point.
-/

namespace FactIntake.Text

def CaseRun.firstSmall (r : CaseRun) : Nat := (r.first + r.shift).toNat

def CaseRun.lastSmall (r : CaseRun) : Nat := (r.last + r.shift).toNat

/-- The small letters of a run are no capital letters of another: they lie before it or behind it, or
both go by twos and the small letters lie between the capital ones. -/
def CaseRun.misses (r other : CaseRun) : Bool :=
  r.lastSmall.blt other.first || other.last.blt r.firstSmall ||
    (other.step == 2 && (r.step == 2 || r.first == r.last) && (r.firstSmall - other.first) % 2 == 1)

/-- The small letters of a run are characters, and neither the point nor the capital letter that becomes
two. -/
def CaseRun.isPlain (r : CaseRun) : Bool :=
  46 < r.first + r.shift &&
    (r.last + r.shift < 0xD800 || (0xE000 ≤ r.first + r.shift && r.last + r.shift < 0x110000)) &&
    (r.last + r.shift < 0x130 || 0x130 < r.first + r.shift)

theorem caseRuns_miss {r other : CaseRun} (hr : r ∈ caseRuns) (hother : other ∈ caseRuns) : r.misses other := by
  have hall : (caseRuns.all fun r => caseRuns.all r.misses) = true := by decide +kernel
  exact List.all_eq_true.mp (List.all_eq_true.mp hall r hr) other hother

theorem caseRuns_plain : ∀ r ∈ caseRuns, r.isPlain := by decide +kernel

theorem CaseRun.not_contains_of_misses {r other : CaseRun} {n small : Nat} (h : r.misses other)
    (hn : r.contains n) (hsmall : (small : Int) = n + r.shift) : other.contains small = false := by
  rw [Bool.eq_false_iff]
  intro hcontains
  simp only [CaseRun.contains, Bool.and_eq_true, decide_eq_true_eq, beq_iff_eq] at hn hcontains
  obtain ⟨⟨hfirst, hlast⟩, hstep⟩ := hn
  obtain ⟨⟨hotherFirst, hotherLast⟩, hotherStep⟩ := hcontains
  simp only [CaseRun.misses, CaseRun.firstSmall, CaseRun.lastSmall, Bool.or_eq_true, Bool.and_eq_true,
    Nat.blt_eq, beq_iff_eq] at h
  rcases h with (hbefore | hbehind) | ⟨⟨htwos, hkind⟩, hodd⟩
  · omega
  · omega
  · rw [htwos] at hotherStep
    rcases hkind with hstepTwo | hsingle
    · rw [hstepTwo] at hstep
      omega
    · omega

theorem CaseRun.small_of_isPlain {r : CaseRun} {n : Nat} (h : r.isPlain) (hn : r.contains n) :
    (n + r.shift).toNat.isValidChar ∧ ((n + r.shift).toNat : Int) = n + r.shift ∧
      46 < (n + r.shift).toNat ∧ (n + r.shift).toNat ≠ 0x130 := by
  simp only [CaseRun.contains, Bool.and_eq_true, decide_eq_true_eq] at hn
  simp only [CaseRun.isPlain, Bool.and_eq_true, Bool.or_eq_true, decide_eq_true_eq] at h
  simp only [Nat.isValidChar]
  omega

/-- A character that no rule for lower case is about. -/
structure IsSmall (c : Char) : Prop where
  outside : ∀ r ∈ caseRuns, r.contains c.toNat = false
  single : c.toNat ≠ 0x130

instance (c : Char) : Decidable (IsSmall c) :=
  decidable_of_iff ((∀ r ∈ caseRuns, r.contains c.toNat = false) ∧ c.toNat ≠ 0x130)
    ⟨fun h => ⟨h.1, h.2⟩, fun h => ⟨h.outside, h.single⟩⟩

theorem IsSmall.ne_capitalSigma {c : Char} (h : IsSmall c) : c ≠ capitalSigma := by
  rintro rfl
  have hcapital : ∃ r ∈ caseRuns, r.contains capitalSigma.toNat := by decide +kernel
  obtain ⟨r, hr, hcontains⟩ := hcapital
  rw [h.outside r hr] at hcontains
  exact absurd hcontains (by decide)

theorem smallOf_of_isSmall {c : Char} (h : IsSmall c) : smallOf c = c := by
  have hnone : caseRuns.find? (·.contains c.toNat) = none := by
    rw [List.find?_eq_none]
    intro r hr
    simp [h.outside r hr]
  rw [smallOf, hnone]

theorem smallOf_cases (c : Char) :
    (smallOf c = c ∧ ∀ r ∈ caseRuns, r.contains c.toNat = false) ∨
      ∃ r ∈ caseRuns, r.contains c.toNat ∧ ((smallOf c).toNat : Int) = c.toNat + r.shift ∧
        46 < (smallOf c).toNat ∧ (smallOf c).toNat ≠ 0x130 := by
  unfold smallOf
  cases hfind : caseRuns.find? (·.contains c.toNat) with
  | none =>
    rw [List.find?_eq_none] at hfind
    exact Or.inl ⟨rfl, fun r hr => Bool.eq_false_iff.mpr (hfind r hr)⟩
  | some r =>
    have hr : r ∈ caseRuns := List.mem_of_find?_eq_some hfind
    have hcontains : r.contains c.toNat := by simpa using List.find?_some hfind
    obtain ⟨hvalid, hshift, hpoint, hsingle⟩ := CaseRun.small_of_isPlain (caseRuns_plain r hr) hcontains
    have hsmall : (Char.ofNat (c.toNat + r.shift).toNat).toNat = (c.toNat + r.shift).toNat := by
      rw [Char.ofNat, dif_pos hvalid]
      rfl
    refine Or.inr ⟨r, hr, hcontains, ?_⟩
    rw [hsmall]
    exact ⟨hshift, hpoint, hsingle⟩

theorem isSmall_smallOf {c : Char} (h : c.toNat ≠ 0x130) : IsSmall (smallOf c) := by
  obtain ⟨hsame, houtside⟩ | ⟨r, hr, hcontains, hshift, -, hsingle⟩ := smallOf_cases c
  · rw [hsame]
    exact ⟨houtside, h⟩
  · refine ⟨fun other hother => ?_, hsingle⟩
    exact CaseRun.not_contains_of_misses (caseRuns_miss hr hother) hcontains hshift

theorem smallOf_ne_point {c : Char} (h : c ≠ '.') : smallOf c ≠ '.' := by
  obtain ⟨hsame, -⟩ | ⟨r, -, -, -, hpoint, -⟩ := smallOf_cases c
  · rw [hsame]
    exact h
  · intro heq
    rw [heq] at hpoint
    exact absurd hpoint (by decide)

/-- What a character becomes, wherever it stands. -/
theorem lowerFrom_cons (before : List Char) (c : Char) (cs : List Char) :
    ∃ small, lowerFrom before (c :: cs) = small ++ lowerFrom (c :: before) cs ∧ small ≠ [] ∧
      (∀ d ∈ small, IsSmall d) ∧ (IsSmall c → small = [c]) ∧ (c ≠ '.' → small.head? ≠ some '.') := by
  rw [lowerFrom]
  by_cases hsigma : c = capitalSigma
  · subst hsigma
    have hnotSmall : ¬ IsSmall capitalSigma := fun h => h.ne_capitalSigma rfl
    simp only [beq_self_eq_true, if_true]
    refine ⟨_, rfl, by simp, ?_, fun h => absurd h hnotSmall, fun _ => ?_⟩
    · simp only [List.mem_singleton, forall_eq]
      split <;> decide +kernel
    · simp only [List.head?_cons]
      split <;> decide +kernel
  · by_cases hsingle : c.toNat = 0x130
    · have hnotSmall : ¬ IsSmall c := fun h => h.single hsingle
      have hi : IsSmall 'i' := by decide +kernel
      have hdot : IsSmall (Char.ofNat 0x307) := by decide +kernel
      refine ⟨['i', Char.ofNat 0x307], by simp [hsigma, hsingle], by simp, ?_, fun h => absurd h hnotSmall,
        fun _ => by simp⟩
      simpa only [List.forall_mem_cons, List.not_mem_nil, false_imp_iff, implies_true, and_true] using ⟨hi, hdot⟩
    · refine ⟨[smallOf c], by simp [hsigma, hsingle], by simp, ?_, fun h => ?_, fun h => ?_⟩
      · simpa using isSmall_smallOf hsingle
      · rw [smallOf_of_isSmall h]
      · simpa using smallOf_ne_point h

theorem isSmall_of_mem_lowerFrom {before cs : List Char} {d : Char} (h : d ∈ lowerFrom before cs) :
    IsSmall d := by
  induction cs generalizing before with
  | nil => simp [lowerFrom] at h
  | cons c cs ih =>
    obtain ⟨small, hlower, -, hsmall, -⟩ := lowerFrom_cons before c cs
    rw [hlower] at h
    rcases List.mem_append.mp h with hmem | hmem
    · exact hsmall d hmem
    · exact ih hmem

theorem lowerFrom_of_isSmall {before cs : List Char} (h : ∀ c ∈ cs, IsSmall c) : lowerFrom before cs = cs := by
  induction cs generalizing before with
  | nil => rfl
  | cons c cs ih =>
    obtain ⟨small, hlower, -, -, hsame, -⟩ := lowerFrom_cons before c cs
    rw [hlower, hsame (h c List.mem_cons_self), ih fun d hd => h d (List.mem_cons_of_mem c hd)]
    simp only [List.singleton_append]

/-- A text in lower case stays as it is. -/
theorem lower_lower (s : String) : lower (lower s) = lower s := by
  have hsmall : ∀ c ∈ lowerChars s.toList, IsSmall c := fun c hc => isSmall_of_mem_lowerFrom hc
  have hsame : lowerChars (lowerChars s.toList) = lowerChars s.toList := lowerFrom_of_isSmall hsmall
  rw [lower, lower, String.toList_ofList, hsame]

theorem lower_eq_empty_iff {s : String} : lower s = "" ↔ s = "" := by
  constructor
  · intro h
    have hchars : lowerChars s.toList = [] := by
      rw [← String.toList_ofList (l := lowerChars s.toList)]
      exact congrArg String.toList h
    cases hs : s.toList with
    | nil => rw [← String.ofList_toList (s := s), hs]
    | cons c cs =>
      obtain ⟨small, hlower, hsome, -⟩ := lowerFrom_cons [] c cs
      rw [hs, lowerChars, hlower] at hchars
      exact absurd (List.append_eq_nil_iff.mp hchars).1 hsome
  · rintro rfl
    rfl

/-- A text that begins with no point begins with none in lower case. -/
theorem head?_lower_ne_point {s : String} (h : s.toList.head? ≠ some '.') :
    (lower s).toList.head? ≠ some '.' := by
  rw [lower, String.toList_ofList, lowerChars]
  cases hs : s.toList with
  | nil => simp [lowerFrom]
  | cons c cs =>
    rw [hs] at h
    have hpoint : c ≠ '.' := by simpa using h
    obtain ⟨small, hlower, hsome, -, -, hhead⟩ := lowerFrom_cons [] c cs
    obtain ⟨d, ds, rfl⟩ := List.exists_cons_of_ne_nil hsome
    rw [hlower]
    simpa using hhead hpoint

/-- The last sigma of a word takes its final form, and keeps it. -/
example : lower "ΟΔΟΣ" = "οδος" ∧ lower "οδος" = "οδος" := by decide +kernel

end FactIntake.Text
