/-!
Lists of entries with a key each, in the order in which the keys came.
-/

namespace FactIntake.Entries

variable {κ α : Type}

/-- Puts an entry in the place of the first entry with an equal key, or at the end. -/
def put [BEq κ] (entries : List (κ × α)) (key : κ) (value : α) : List (κ × α) :=
  match entries with
  | [] => [(key, value)]
  | (k, v) :: rest => if k == key then (k, value) :: rest else (k, v) :: put rest key value

/-- The entries put one after the other: the last value of a key, at its first position. -/
def putAll [BEq κ] (start entries : List (κ × α)) : List (κ × α) :=
  entries.foldl (fun done entry => put done entry.1 entry.2) start

variable [BEq κ] [LawfulBEq κ]

theorem lookup_put_self (entries : List (κ × α)) (key : κ) (value : α) :
    (put entries key value).lookup key = some value := by
  induction entries with
  | nil => simp [put]
  | cons entry rest ih =>
    obtain ⟨k, v⟩ := entry
    by_cases h : k = key
    · subst h
      simp [put]
    · have hk : (k == key) = false := by simpa using h
      have hk' : (key == k) = false := by simpa using Ne.symm h
      simp [put, List.lookup_cons, hk, hk', ih]

theorem lookup_put_of_ne (entries : List (κ × α)) {key other : κ} (value : α)
    (hne : other ≠ key) : (put entries key value).lookup other = entries.lookup other := by
  have hother : (other == key) = false := by simpa using hne
  induction entries with
  | nil => simp [put, List.lookup_cons, hother]
  | cons entry rest ih =>
    obtain ⟨k, v⟩ := entry
    by_cases h : k = key
    · subst h
      simp [put, List.lookup_cons, hother]
    · have hk : (k == key) = false := by simpa using h
      simp [put, hk, List.lookup_cons, ih]

end FactIntake.Entries
