import FactIntake.Proofs.DocumentText
import FactIntake.Proofs.Results

/-!
What comes of reading a document. A value that is read keeps the limits that it was read within, all
its numbers can be read again, and no key is repeated in it. So what is written of it holds the same
value.
-/

namespace FactIntake.Entries

variable {κ α : Type} [BEq κ] {key : κ} {value : α} {start entries : List (κ × α)}

theorem eq_or_mem_of_mem_put {entry : κ × α} (h : entry ∈ put entries key value) :
    entry.2 = value ∨ entry ∈ entries := by
  induction entries with
  | nil =>
    obtain rfl := List.mem_singleton.mp h
    exact Or.inl rfl
  | cons first rest ih =>
    rw [put] at h
    split at h
    · rcases List.mem_cons.mp h with rfl | h
      · exact Or.inl rfl
      · exact Or.inr (.tail _ h)
    · rcases List.mem_cons.mp h with rfl | h
      · exact Or.inr (.head _)
      · exact (ih h).imp_right (.tail _)

/-- Values that are put one after the other come from where they were put from. -/
theorem forall_mem_putAll {P : α → Prop} (hstart : ∀ entry ∈ start, P entry.2)
    (hentries : ∀ entry ∈ entries, P entry.2) : ∀ entry ∈ putAll start entries, P entry.2 := by
  induction entries generalizing start with
  | nil => exact hstart
  | cons first rest ih =>
    refine ih (fun entry hmem => ?_) fun entry hmem => hentries entry (.tail _ hmem)
    rcases eq_or_mem_of_mem_put hmem with heq | hold
    · exact heq ▸ hentries first (.head _)
    · exact hstart entry hold

variable [LawfulBEq κ]

theorem put_of_not_mem (h : key ∉ entries.map Prod.fst) :
    put entries key value = entries ++ [(key, value)] := by
  induction entries with
  | nil => rfl
  | cons first rest ih =>
    simp only [List.map_cons, List.mem_cons, not_or] at h
    have hfirst : (first.1 == key) = false := by simpa using Ne.symm h.1
    rw [put, hfirst, ih h.2]
    rfl

theorem map_fst_put_of_mem (h : key ∈ entries.map Prod.fst) :
    (put entries key value).map Prod.fst = entries.map Prod.fst := by
  induction entries with
  | nil => simp at h
  | cons first rest ih =>
    rw [put]
    split
    · rfl
    · next hfirst =>
      have hrest : key ∈ rest.map Prod.fst := by
        rcases List.mem_cons.mp h with rfl | hrest
        · simp at hfirst
        · exact hrest
      simp only [List.map_cons, ih hrest]

theorem nodup_put (h : (entries.map Prod.fst).Nodup) :
    ((put entries key value).map Prod.fst).Nodup := by
  by_cases hmem : key ∈ entries.map Prod.fst
  · rwa [map_fst_put_of_mem hmem]
  · rw [put_of_not_mem hmem, List.map_append, List.nodup_append]
    refine ⟨h, by simp, fun old hold new hnew => ?_⟩
    obtain rfl := List.mem_singleton.mp hnew
    exact fun heq => hmem (heq ▸ hold)

theorem nodup_putAll (h : (start.map Prod.fst).Nodup) (entries : List (κ × α)) :
    ((putAll start entries).map Prod.fst).Nodup := by
  induction entries generalizing start with
  | nil => exact h
  | cons first rest ih => exact ih (nodup_put h)

/-- Entries whose keys all differ stay as they are. -/
theorem putAll_of_nodup (h : ((start ++ entries).map Prod.fst).Nodup) :
    putAll start entries = start ++ entries := by
  induction entries generalizing start with
  | nil => simp [putAll]
  | cons first rest ih =>
    have hnew : first.1 ∉ start.map Prod.fst := by
      rw [List.map_append, List.nodup_append] at h
      exact fun hmem => h.2.2 _ hmem _ (.head _) rfl
    rw [List.append_cons] at h ⊢
    rw [← ih h, ← put_of_not_mem hnew]
    rfl

end FactIntake.Entries

namespace FactIntake.Json

open Binary64 Results

theorem isDigit_of_mem_wholeDigits {cs : List Char} {c : Char} (h : c ∈ wholeDigits cs) : isDigit c := by
  unfold wholeDigits at h
  split at h
  · obtain rfl := List.mem_singleton.mp h
    decide
  · exact List.mem_takeWhile_imp h

theorem allowDigits_of_le {limits : Limits} {m n : ℕ} (h : limits.allowDigits n) (hle : m ≤ n) :
    limits.allowDigits m := by
  cases hdigits : limits.digits with
  | none => simp [Limits.allowDigits, hdigits]
  | some most =>
    simp only [Limits.allowDigits, hdigits, Option.all_some, decide_eq_true_eq] at h ⊢
    exact hle.trans h

theorem digitCount_natOf_le {digits : List Char} (hne : digits ≠ []) (h : ∀ c ∈ digits, isDigit c) :
    digitCount (natOf digits) ≤ digits.length :=
  length_toDigits_le (List.length_pos_of_ne_nil hne) (natOf_lt h)

/-- A value that can be written and read again within the limits, as it is. -/
structure Settled (limits : Limits) (value : Json) : Prop where
  fits : Fits limits value
  merged : value.merged = value

variable {limits : Limits} {fuel : ℕ} {cursor after : Cursor} {value : Json}

theorem settled_of_readNumber (h : readNumber limits cursor = .ok (value, after)) :
    Settled limits value := by
  simp only [readNumber] at h
  -- How the parts are found does not matter, only that the whole digits are digits.
  generalize (cursor.rest.head? == some '-') = negative at h
  generalize (if negative = true then cursor.rest.drop 1 else cursor.rest) = cs at h
  generalize fractionDigits (cs.drop (wholeDigits cs).length) = fraction at h
  generalize exponentChars _ = exponent at h
  split at h
  · simp [problem] at h
  · next hne =>
    split at h
    · split at h
      · simp at h
      · next hallowed =>
        obtain ⟨rfl, -⟩ := Prod.mk.inj (Except.ok.inj h)
        have hcount : digitCount (natOf (wholeDigits cs)) ≤ (wholeDigits cs).length :=
          digitCount_natOf_le (by simpa using hne) fun c hc => isDigit_of_mem_wholeDigits hc
        have hsize : (if negative then -(natOf (wholeDigits cs) : ℤ) else natOf (wholeDigits cs)).natAbs =
            natOf (wholeDigits cs) := by
          split <;> simp
        refine ⟨?_, rfl⟩
        rw [Fits, hsize]
        exact allowDigits_of_le (by simpa using hallowed) hcount
    · obtain ⟨rfl, -⟩ := Prod.mk.inj (Except.ok.inj h)
      exact ⟨canonical_ofDecimal _ _ _, rfl⟩

theorem settled_of_readKeyword? (h : readKeyword? cursor = some (value, after)) : Settled limits value := by
  simp only [readKeyword?, Option.map_eq_some_iff, Prod.mk.injEq] at h
  obtain ⟨word, hfound, rfl, -⟩ := h
  have hword := List.mem_of_find?_eq_some hfound
  simp only [keywords, List.mem_cons, List.not_mem_nil, or_false] at hword
  rcases hword with rfl | rfl | rfl | rfl | rfl | rfl <;> exact ⟨trivial, rfl⟩

theorem fitsAll_iff {items : List Json} : FitsAll limits items ↔ ∀ item ∈ items, Fits limits item := by
  induction items with
  | nil => simp [FitsAll]
  | cons item items ih => simp [FitsAll, ih]

theorem fitsMembers_iff {members : List (String × Json)} :
    FitsMembers limits members ↔ ∀ member ∈ members, Fits limits member.2 := by
  induction members with
  | nil => simp [FitsMembers]
  | cons member members ih => simp [FitsMembers, ih]

theorem mergedAll_eq_map (items : List Json) : mergedAll items = items.map merged := by
  induction items with
  | nil => rfl
  | cons item items ih => rw [mergedAll, ih, List.map_cons]

theorem mergedMembers_eq_map (members : List (String × Json)) :
    mergedMembers members = members.map fun member => (member.1, member.2.merged) := by
  induction members with
  | nil => rfl
  | cons member members ih => rw [mergedMembers, ih, List.map_cons]

theorem settled_array {inner : Limits} {items : List Json} (hdeeper : limits.deeper .array = .ok inner)
    (h : ∀ item ∈ items, Settled inner item) : Settled limits (array items) := by
  refine ⟨⟨inner, hdeeper, fitsAll_iff.mpr fun item hitem => (h item hitem).fits⟩, ?_⟩
  rw [merged, mergedAll_eq_map, List.map_congr_left fun item hitem => (h item hitem).merged, List.map_id']

theorem settled_object {inner : Limits} {members : List (String × Json)}
    (hdeeper : limits.deeper .object = .ok inner) (h : ∀ member ∈ members, Settled inner member.2) :
    Settled limits (object (Entries.putAll [] members)) := by
  have hput : ∀ member ∈ Entries.putAll [] members, Settled inner member.2 :=
    Entries.forall_mem_putAll (by simp) h
  have hnodup : ((Entries.putAll [] members).map Prod.fst).Nodup :=
    Entries.nodup_putAll (by simp) members
  refine ⟨⟨inner, hdeeper, fitsMembers_iff.mpr fun member hmember => (hput member hmember).fits⟩, ?_⟩
  -- The keys that are left all differ, so merging them once more changes nothing.
  have hsame : mergedMembers (Entries.putAll [] members) = Entries.putAll [] members := by
    rw [mergedMembers_eq_map]
    refine (List.map_congr_left fun member hmember => ?_).trans (List.map_id' _)
    rw [(hput member hmember).merged]
  rw [merged, hsame, Entries.putAll_of_nodup hnodup, List.nil_append]

/-- Everything that is read with this much fuel is settled. -/
structure ReadsSettled (fuel : ℕ) : Prop where
  value : ∀ {limits : Limits} {cursor after : Cursor} {value : Json},
    readValue limits fuel cursor = .ok (value, after) → Settled limits value
  items : ∀ {limits : Limits} {cursor after : Cursor} {items : List Json},
    readItems limits fuel cursor = .ok (items, after) → ∀ item ∈ items, Settled limits item
  members : ∀ {limits : Limits} {cursor after : Cursor} {members : List (String × Json)},
    readMembers limits fuel cursor = .ok (members, after) → ∀ member ∈ members, Settled limits member.2

namespace ReadsSettled

theorem value_succ (hless : ReadsSettled fuel) (h : readValue limits (fuel + 1) cursor = .ok (value, after)) :
    Settled limits value := by
  rw [readValue] at h
  split at h
  · obtain ⟨read, -, heq⟩ := map_eq_ok_iff.mp h
    obtain ⟨rfl, -⟩ := Prod.mk.inj heq
    exact ⟨trivial, rfl⟩
  · obtain ⟨inner, hdeeper, h⟩ := bind_eq_ok_iff.mp h
    simp only at h
    split at h
    · obtain ⟨rfl, -⟩ := Prod.mk.inj (Except.ok.inj h)
      exact settled_array hdeeper (by simp)
    · obtain ⟨⟨items, ending⟩, hitems, h⟩ := bind_eq_ok_iff.mp h
      obtain ⟨rfl, -⟩ := Prod.mk.inj (Except.ok.inj h)
      exact settled_array hdeeper (hless.items hitems)
  · obtain ⟨inner, hdeeper, h⟩ := bind_eq_ok_iff.mp h
    simp only at h
    split at h
    · obtain ⟨rfl, -⟩ := Prod.mk.inj (Except.ok.inj h)
      exact settled_object hdeeper (List.forall_mem_nil _)
    · obtain ⟨⟨members, ending⟩, hmembers, h⟩ := bind_eq_ok_iff.mp h
      obtain ⟨rfl, -⟩ := Prod.mk.inj (Except.ok.inj h)
      exact settled_object hdeeper (hless.members hmembers)
  · split at h
    · next found hfound =>
      obtain rfl := Except.ok.inj h
      exact settled_of_readKeyword? hfound
    · exact settled_of_readNumber h

theorem items_succ (hless : ReadsSettled fuel) {items : List Json}
    (h : readItems limits (fuel + 1) cursor = .ok (items, after)) : ∀ item ∈ items, Settled limits item := by
  rw [readItems] at h
  obtain ⟨⟨first, next⟩, hfirst, h⟩ := bind_eq_ok_iff.mp h
  have hsettled := hless.value hfirst
  simp only at h
  split at h
  · obtain ⟨rfl, -⟩ := Prod.mk.inj (Except.ok.inj h)
    simpa using hsettled
  · obtain ⟨⟨more, ending⟩, hmore, h⟩ := bind_eq_ok_iff.mp h
    obtain ⟨rfl, -⟩ := Prod.mk.inj (Except.ok.inj h)
    simpa using ⟨hsettled, hless.items hmore⟩
  · simp [problem] at h

theorem members_succ (hless : ReadsSettled fuel) {members : List (String × Json)}
    (h : readMembers limits (fuel + 1) cursor = .ok (members, after)) :
    ∀ member ∈ members, Settled limits member.2 := by
  rw [readMembers] at h
  split at h
  · obtain ⟨⟨key, next⟩, -, h⟩ := bind_eq_ok_iff.mp h
    simp only at h
    split at h
    · obtain ⟨⟨first, next⟩, hfirst, h⟩ := bind_eq_ok_iff.mp h
      have hsettled := hless.value hfirst
      simp only at h
      split at h
      · obtain ⟨rfl, -⟩ := Prod.mk.inj (Except.ok.inj h)
        simpa using hsettled
      · obtain ⟨⟨more, ending⟩, hmore, h⟩ := bind_eq_ok_iff.mp h
        obtain ⟨rfl, -⟩ := Prod.mk.inj (Except.ok.inj h)
        rintro member (_ | ⟨_, hmember⟩)
        · exact hsettled
        · exact hless.members hmore member hmember
      · simp [problem] at h
    · simp [problem] at h
  · simp [problem] at h

end ReadsSettled

theorem readsSettled (fuel : ℕ) : ReadsSettled fuel := by
  induction fuel with
  | zero => constructor <;> intros <;> simp_all [readValue, readItems, readMembers, problem]
  | succ fuel ih => exact ⟨ih.value_succ, ih.items_succ, ih.members_succ⟩

theorem settled_of_read {document : String} (h : read limits document = .ok value) :
    Settled limits value := by
  rw [read, readDocument] at h
  split at h
  · simp [problem] at h
  · obtain ⟨⟨found, ending⟩, hfound, h⟩ := bind_eq_ok_iff.mp h
    simp only at h
    split at h
    · obtain rfl := Except.ok.inj h
      exact (readsSettled _).value hfound
    · simp [problem] at h

/-- A value that is read and written again is read as the same value. -/
theorem read_write_of_read {document : String} (charset : Charset) (h : read limits document = .ok value) :
    read limits (value.write charset) = .ok value := by
  have hsettled := settled_of_read h
  rw [read_write charset hsettled.fits, hsettled.merged]

end FactIntake.Json
