import FactIntake.Text.Blank
import Mathlib.Data.List.TakeWhile

/-!
Text without the blanks at its ends. A character that is not blank keeps what stands between it and the
other end, and text that begins and ends in such characters stays as it is.
-/

namespace FactIntake.Text

variable {p : Char → Bool} {c mark : Char} {cs before after : List Char}

theorem dropWhile_append_mark (hmark : p mark = false) :
    (before ++ mark :: after).dropWhile p = before.dropWhile p ++ mark :: after := by
  induction before with
  | nil => simp [hmark]
  | cons first rest ih =>
    cases hfirst : p first with
    | true => simpa [hfirst] using ih
    | false => simp [hfirst]

theorem dropTrailing_append_mark (hmark : p mark = false) :
    dropTrailing p (before ++ mark :: after) = before ++ mark :: dropTrailing p after := by
  have hreverse : (before ++ mark :: after).reverse = after.reverse ++ mark :: before.reverse := by simp
  rw [dropTrailing, hreverse, dropWhile_append_mark hmark]
  simp [dropTrailing]

/-- The blanks in front of a mark and those behind it are dropped apart. -/
theorem stripChars_append_mark (hmark : isBlank mark = false) :
    stripChars (before ++ mark :: after) = before.dropWhile isBlank ++ mark :: dropTrailing isBlank after := by
  rw [stripChars, dropWhile_append_mark hmark, dropTrailing_append_mark hmark]

theorem isBlank_of_getLast?_stripChars (h : c ∈ (stripChars cs).getLast?) : isBlank c = false := by
  rw [stripChars, dropTrailing, List.getLast?_reverse, Option.mem_def] at h
  have hhead := List.head?_dropWhile_not isBlank (cs.dropWhile isBlank).reverse
  rw [h] at hhead
  exact hhead

/-- What stands between a character that is not blank and a stripped text stays as it is. -/
theorem stripChars_framed (hc : isBlank c = false) (hcs : stripChars cs ≠ []) :
    stripChars (c :: before ++ stripChars cs) = c :: before ++ stripChars cs := by
  obtain ⟨front, last, hlast⟩ := List.eq_nil_or_concat (stripChars cs) |>.resolve_left hcs
  have hmem : last ∈ (stripChars cs).getLast? := by simp [hlast]
  have hblank := isBlank_of_getLast?_stripChars hmem
  have hsplit : c :: before ++ stripChars cs = [] ++ c :: (before ++ front ++ last :: []) := by simp [hlast]
  rw [hsplit, stripChars_append_mark hc, dropTrailing_append_mark hblank]
  rfl

end FactIntake.Text
