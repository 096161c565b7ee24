import FactIntake.Text.Columns
import Mathlib.Data.List.Basic

/-!
Text with its tabs filled up. Only spaces come in, and only tabs are lost; a text without tabs stays as
it is, and so does what is neither a tab nor a line end behind a text.
-/

namespace FactIntake.Text

variable {p : Char → Bool} {cs : List Char} {c : Char}

theorem mem_of_mem_splitWhere {part : List Char} (hpart : part ∈ splitWhere p cs) (hc : c ∈ part) :
    c ∈ cs ∧ p c = false := by
  induction cs generalizing part with
  | nil =>
    obtain rfl := List.mem_singleton.mp hpart
    cases hc
  | cons first rest ih =>
    unfold splitWhere at hpart
    split at hpart
    · rcases List.mem_cons.mp hpart with rfl | hpart
      · cases hc
      · exact (ih hpart hc).imp_left (.tail _)
    · next hfirst =>
      have hother : p first = false := by simpa using hfirst
      split at hpart
      · next hnone => exact absurd hnone (splitWhere_ne_nil p rest)
      · next piece pieces hsplit =>
        rcases List.mem_cons.mp hpart with rfl | hpart
        · rcases List.mem_cons.mp hc with rfl | hc
          · exact ⟨.head _, hother⟩
          · exact (ih (hsplit ▸ .head _) hc).imp_left (.tail _)
        · exact (ih (hsplit ▸ .tail _ hpart) hc).imp_left (.tail _)

theorem splitWhere_of_none (h : ∀ c ∈ cs, p c = false) : splitWhere p cs = [cs] := by
  induction cs with
  | nil => rfl
  | cons first rest ih =>
    obtain ⟨hfirst, hrest⟩ := List.forall_mem_cons.mp h
    rw [splitWhere, if_neg (by simp [hfirst]), ih hrest]

theorem intercalate_splitWhere (mark : Char) (cs : List Char) :
    [mark].intercalate (splitWhere (· == mark) cs) = cs := by
  induction cs with
  | nil => rfl
  | cons first rest ih =>
    unfold splitWhere
    split
    · next hfirst =>
      obtain rfl : first = mark := by simpa using hfirst
      rw [List.intercalate_cons_of_ne_nil (splitWhere_ne_nil _ rest), ih]
      rfl
    · split
      · next hnone => exact absurd hnone (splitWhere_ne_nil _ rest)
      · next piece pieces hsplit =>
        rw [hsplit] at ih
        cases pieces with
        | nil => simpa using ih
        | cons second later => simpa [List.intercalate_cons_cons] using ih

/-- What counts nothing that divides the parts counts the same in the parts. -/
theorem countP_splitWhere {counted : Char → Bool} (h : ∀ c, p c → counted c = false) (cs : List Char) :
    (splitWhere p cs).flatten.countP counted = cs.countP counted := by
  induction cs with
  | nil => rfl
  | cons first rest ih =>
    unfold splitWhere
    split
    · next hfirst => simp [ih, h first hfirst]
    · split
      · next hnone => exact absurd hnone (splitWhere_ne_nil p rest)
      · next piece pieces hsplit =>
        rw [hsplit, List.flatten_cons] at ih
        rw [List.flatten_cons, List.cons_append, List.countP_cons, List.countP_cons, ih]

theorem countP_intercalate {counted : Char → Bool} {mark : Char} (h : counted mark = false)
    (parts : List (List Char)) : ([mark].intercalate parts).countP counted = parts.flatten.countP counted := by
  induction parts with
  | nil => rfl
  | cons part parts ih =>
    cases parts with
    | nil => simp
    | cons second later =>
      rw [List.intercalate_cons_cons, List.countP_append, List.countP_append, ih]
      simp [h]

theorem countP_flatten_map {counted : Char → Bool} {change : List Char → List Char}
    (h : ∀ part, (change part).countP counted = part.countP counted) (parts : List (List Char)) :
    (parts.map change).flatten.countP counted = parts.flatten.countP counted := by
  induction parts with
  | nil => rfl
  | cons part parts ih => simp only [List.map_cons, List.flatten_cons, List.countP_append, h, ih]

theorem mem_joinAtStops {parts : List (List Char)} (h : c ∈ joinAtStops parts) :
    c = ' ' ∨ ∃ part ∈ parts, c ∈ part := by
  fun_induction joinAtStops parts with
  | case1 => cases h
  | case2 part => exact Or.inr ⟨part, .head _, h⟩
  | case3 part parts hparts ih =>
    simp only [List.mem_append] at h
    rcases h with (h | h) | h
    · exact Or.inr ⟨part, .head _, h⟩
    · exact Or.inl (List.eq_of_mem_replicate h)
    · rcases ih h with h | ⟨later, hlater, h⟩
      · exact Or.inl h
      · exact Or.inr ⟨later, .tail _ hlater, h⟩

theorem countP_joinAtStops {counted : Char → Bool} (h : counted ' ' = false) (parts : List (List Char)) :
    (joinAtStops parts).countP counted = parts.flatten.countP counted := by
  fun_induction joinAtStops parts with
  | case1 => rfl
  | case2 part => simp
  | case3 part parts hparts ih => simp [ih, h, List.countP_replicate]

theorem countP_expandLine {counted : Char → Bool} (hspace : counted ' ' = false) (htab : counted '\t' = false)
    (line : List Char) : (expandLine line).countP counted = line.countP counted := by
  rw [expandLine, countP_joinAtStops hspace]
  apply countP_splitWhere
  intro c hc
  obtain rfl : c = '\t' := by simpa using hc
  exact htab

theorem countP_expandTabs {counted : Char → Bool} (hspace : counted ' ' = false) (htab : counted '\t' = false)
    (hnewline : counted '\n' = false) (cs : List Char) : (expandTabs cs).countP counted = cs.countP counted := by
  rw [expandTabs, countP_intercalate hnewline, countP_flatten_map (countP_expandLine hspace htab)]
  apply countP_splitWhere
  intro c hc
  obtain rfl : c = '\n' := by simpa using hc
  exact hnewline

theorem mem_intercalate {mark : Char} {parts : List (List Char)} (h : c ∈ [mark].intercalate parts) :
    c = mark ∨ ∃ part ∈ parts, c ∈ part := by
  induction parts with
  | nil => cases h
  | cons part parts ih =>
    cases parts with
    | nil => exact Or.inr ⟨part, .head _, by simpa using h⟩
    | cons second later =>
      rw [List.intercalate_cons_cons] at h
      simp only [List.mem_append, List.mem_singleton] at h
      rcases h with (h | h) | h
      · exact Or.inr ⟨part, .head _, h⟩
      · exact Or.inl h
      · rcases ih h with h | ⟨found, hfound, h⟩
        · exact Or.inl h
        · exact Or.inr ⟨found, .tail _ hfound, h⟩

/-- No tab is left, and nothing comes in but spaces and line ends. -/
theorem mem_expandTabs (h : c ∈ expandTabs cs) : c ≠ '\t' ∧ (c = ' ' ∨ c = '\n' ∨ c ∈ cs) := by
  rcases mem_intercalate h with rfl | ⟨line, hline, h⟩
  · exact ⟨by decide, Or.inr (Or.inl rfl)⟩
  · obtain ⟨whole, hwhole, rfl⟩ := List.mem_map.mp hline
    rcases mem_joinAtStops h with rfl | ⟨part, hpart, h⟩
    · exact ⟨by decide, Or.inl rfl⟩
    · obtain ⟨hc, htab⟩ := mem_of_mem_splitWhere hpart h
      exact ⟨by simpa using htab, Or.inr (Or.inr (mem_of_mem_splitWhere hwhole hc).1)⟩

theorem expandTabs_of_no_tab (h : '\t' ∉ cs) : expandTabs cs = cs := by
  have hlines : ∀ line ∈ splitWhere (· == '\n') cs, expandLine line = line := by
    intro line hline
    rw [expandLine, splitWhere_of_none]
    · rfl
    · intro c hc
      have hne : c ≠ '\t' := fun heq => h (heq ▸ (mem_of_mem_splitWhere hline hc).1)
      simpa using hne
  rw [expandTabs, List.map_congr_left hlines, List.map_id', intercalate_splitWhere]

/-- What divides nothing stays behind the last part. -/
theorem splitWhere_append {later : List Char} (h : ∀ c ∈ later, p c = false) (cs : List Char) :
    ∃ front last, splitWhere p cs = front ++ [last] ∧ splitWhere p (cs ++ later) = front ++ [last ++ later] := by
  induction cs with
  | nil => exact ⟨[], [], rfl, splitWhere_of_none h⟩
  | cons first rest ih =>
    obtain ⟨front, last, hrest, hlonger⟩ := ih
    rw [List.cons_append]
    unfold splitWhere
    split
    · exact ⟨[] :: front, last, by rw [hrest]; rfl, by rw [hlonger]; rfl⟩
    · rw [hrest, hlonger]
      cases front with
      | nil => exact ⟨[], first :: last, rfl, rfl⟩
      | cons part front => exact ⟨(first :: part) :: front, last, rfl, rfl⟩

theorem intercalate_append_last (mark : Char) (front : List (List Char)) (last later : List Char) :
    [mark].intercalate (front ++ [last ++ later]) = [mark].intercalate (front ++ [last]) ++ later := by
  induction front with
  | nil => simp
  | cons part front ih =>
    rw [List.cons_append, List.cons_append, List.intercalate_cons_of_ne_nil (by simp), ih,
      List.intercalate_cons_of_ne_nil (by simp)]
    simp only [List.append_assoc]

theorem joinAtStops_cons {parts : List (List Char)} (h : parts ≠ []) (part : List Char) :
    joinAtStops (part :: parts) = part ++ List.replicate (tabSpaces part) ' ' ++ joinAtStops parts := by
  cases parts with
  | nil => contradiction
  | cons second later => rfl

theorem joinAtStops_append_last (front : List (List Char)) (last later : List Char) :
    joinAtStops (front ++ [last ++ later]) = joinAtStops (front ++ [last]) ++ later := by
  induction front with
  | nil => rfl
  | cons part front ih =>
    rw [List.cons_append, List.cons_append, joinAtStops_cons (by simp), ih, joinAtStops_cons (by simp)]
    simp only [List.append_assoc]

theorem expandLine_append {later : List Char} (h : '\t' ∉ later) (line : List Char) :
    expandLine (line ++ later) = expandLine line ++ later := by
  have hnone : ∀ c ∈ later, (c == '\t') = false := fun c hc => beq_false_of_ne fun heq => h (heq ▸ hc)
  obtain ⟨front, last, hline, hlonger⟩ := splitWhere_append hnone line
  rw [expandLine, expandLine, hline, hlonger, joinAtStops_append_last]

/-- What is neither a tab nor a line end stays as it is behind a text. -/
theorem expandTabs_append {later : List Char} (htab : '\t' ∉ later) (hnewline : '\n' ∉ later) (cs : List Char) :
    expandTabs (cs ++ later) = expandTabs cs ++ later := by
  have hnone : ∀ c ∈ later, (c == '\n') = false := fun c hc => beq_false_of_ne fun heq => hnewline (heq ▸ hc)
  obtain ⟨front, last, hcs, hlonger⟩ := splitWhere_append hnone cs
  simp only [expandTabs, hcs, hlonger, List.map_append, List.map_cons, List.map_nil, expandLine_append htab,
    intercalate_append_last]

end FactIntake.Text
