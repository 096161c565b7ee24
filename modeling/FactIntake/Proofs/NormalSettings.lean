import FactIntake.Proofs.LowerCase
import FactIntake.Proofs.OptionsAndVariables
import FactIntake.Proofs.Settling

/-!
Accepted settings are in normal form. Their extensions are there, hold something, begin with no point
and are in lower case, their encoding is known, and made once more of their own values they are the
same. There are as many extensions as were given, in the order in which they were given. An extension
that consists of points only, or a list without extensions, is refused whatever else is given.
-/

namespace FactIntake

namespace Entries

variable {κ α : Type} [BEq κ] [LawfulBEq κ]

/-- Where each key stands once, what is found under it is what stands there. -/
theorem lookup_eq_some_iff_mem {entries : List (κ × α)} (h : (entries.map Prod.fst).Nodup) {key : κ} {value : α} :
    entries.lookup key = some value ↔ (key, value) ∈ entries := by
  induction entries with
  | nil => simp
  | cons entry rest ih =>
    obtain ⟨first, found⟩ := entry
    rw [List.map_cons, List.nodup_cons] at h
    by_cases hkey : key = first
    · subst hkey
      have hrest : (key, value) ∉ rest := fun hmem => h.1 (List.mem_map.mpr ⟨_, hmem, rfl⟩)
      simp [hrest, eq_comm]
    · have hother : (key == first) = false := by simpa using hkey
      rw [List.lookup_cons, hother, List.mem_cons, ← ih h.2]
      simp [hkey]

end Entries

namespace Settings

/-- An extension as it is kept. -/
structure IsNormalExtension (extension : String) : Prop where
  filled : extension ≠ ""
  pointless : extension.toList.head? ≠ some '.'
  small : Text.lower extension = extension

theorem head?_dropWhile_ne_point (cs : List Char) : (cs.dropWhile (· == '.')).head? ≠ some '.' := by
  intro hhead
  have hpoint := List.head?_dropWhile_not (· == '.') cs
  rw [hhead] at hpoint
  exact absurd hpoint (by decide)

theorem dropWhile_point_of_head? {cs : List Char} (h : cs.head? ≠ some '.') : cs.dropWhile (· == '.') = cs := by
  cases cs with
  | nil => rw [List.dropWhile_nil]
  | cons c cs =>
    have hpoint : c ≠ '.' := by simpa using h
    simp [hpoint]

theorem isNormalExtension_normalExtension {s : String} (h : normalExtension s ≠ "") :
    IsNormalExtension (normalExtension s) := by
  refine ⟨h, ?_, Text.lower_lower _⟩
  apply Text.head?_lower_ne_point
  rw [String.toList_ofList]
  exact head?_dropWhile_ne_point s.toList

/-- A normal extension stays as it is. -/
theorem normalExtension_of_isNormalExtension {extension : String} (h : IsNormalExtension extension) :
    normalExtension extension = extension := by
  rw [normalExtension, dropWhile_point_of_head? h.pointless, String.ofList_toList, h.small]

/-- What consists of points only leaves nothing. -/
theorem normalExtension_eq_empty_iff {s : String} : normalExtension s = "" ↔ ∀ c ∈ s.toList, c = '.' := by
  have hempty : String.ofList (s.toList.dropWhile (· == '.')) = "" ↔ s.toList.dropWhile (· == '.') = [] := by
    constructor
    · intro h
      simpa using congrArg String.toList h
    · intro h
      rw [h]
  rw [normalExtension, Text.lower_eq_empty_iff, hempty, List.dropWhile_eq_nil_iff]
  simp only [beq_iff_eq]

@[simp] theorem texts_map_text (given : List String) : texts (given.map .text) = given := by
  induction given with
  | nil => rfl
  | cons s given ih => exact congrArg (s :: ·) ih

theorem itemIssues_map_text (index : Nat) (given : List String) : itemIssues index (given.map .text) = [] := by
  induction given generalizing index with
  | nil => rfl
  | cons s given ih => exact ih (index + 1)

/-- Without an issue all items are texts. -/
theorem map_texts_of_itemIssues {index : Nat} {items : List Model} (h : itemIssues index items = []) :
    (texts items).map .text = items := by
  induction items generalizing index with
  | nil => rfl
  | cons item items ih =>
    cases item with
    | text s =>
      rw [itemIssues] at h
      have hrest := ih h
      simpa [texts] using hrest
    | _ => simp [itemIssues] at h

theorem any_isEmpty_normalExtension {given : List String} :
    (given.map normalExtension).any (·.isEmpty) ↔ ∃ s ∈ given, ∀ c ∈ s.toList, c = '.' := by
  simp [List.any_map, normalExtension_eq_empty_iff]

/-- Texts are accepted if there are some, each with more than points. -/
theorem checkItems_map_text {given : List String} (hsome : given ≠ [])
    (h : ∀ s ∈ given, ¬ ∀ c ∈ s.toList, c = '.') :
    checkItems (given.map .text) = .ok (given.map normalExtension) := by
  have hfilled : (given.map normalExtension).any (·.isEmpty) = false := by
    rw [Bool.eq_false_iff, ne_eq, any_isEmpty_normalExtension]
    rintro ⟨s, hs, hpoints⟩
    exact h s hs hpoints
  simp [checkItems, itemIssues_map_text, hsome, hfilled]

/-- Nothing else is accepted. -/
theorem checkItems_eq_ok {items : List Model} {extensions : List String} (h : checkItems items = .ok extensions) :
    ∃ given : List String, items = given.map .text ∧ given ≠ [] ∧ (∀ s ∈ given, ¬ ∀ c ∈ s.toList, c = '.') ∧
      extensions = given.map normalExtension := by
  have hsome : texts items ≠ [] := by
    intro hnone
    simp [checkItems, hnone] at h
  have hissues : itemIssues 0 items = [] := by
    by_contra hissues
    simp [checkItems, hissues] at h
  have hpoints : ∀ s ∈ texts items, ¬ ∀ c ∈ s.toList, c = '.' := by
    intro s hs hpoints
    have hany := any_isEmpty_normalExtension.mpr ⟨s, hs, hpoints⟩
    simp [checkItems, hsome, hissues, hany, refuse] at h
  have hitems : items = (texts items).map .text := (map_texts_of_itemIssues hissues).symm
  refine ⟨texts items, hitems, hsome, hpoints, ?_⟩
  have hcheck := checkItems_map_text hsome hpoints
  rw [← hitems] at hcheck
  exact Except.ok.inj (h.symm.trans hcheck)

/-- What is given for extensions and what is kept of it: every text, in its normal form. -/
def KeepsExtensions (value : Option Model) (extensions : List String) : Prop :=
  match value with
  | none => extensions = sourceExtensions
  | some value => ∃ given : List String, (value = .list (given.map .text) ∨ value = .tuple (given.map .text)) ∧
      extensions = given.map normalExtension

/-- A list without extensions, or with one that consists of points only. -/
def LacksExtension (value : Model) : Prop :=
  ∃ items, (value = .list items ∨ value = .tuple items) ∧
    (items = [] ∨ ∃ s, .text s ∈ items ∧ ∀ c ∈ s.toList, c = '.')

/-- The values of settings, as they may be given. -/
def values (settings : Settings) : Given :=
  [("extensions", .tuple (settings.extensions.map .text)), ("encoding", .text settings.encoding),
    ("compiler", settings.compiler.elim .null .text)]

theorem isNormalExtension_of_mem_sourceExtensions {extension : String} (h : extension ∈ sourceExtensions) :
    IsNormalExtension extension := by
  have hall : ∀ extension ∈ sourceExtensions, extension ≠ "" ∧ extension.toList.head? ≠ some '.' ∧
      Text.lower extension = extension := by
    decide +kernel
  obtain ⟨hsome, hpointless, hsmall⟩ := hall extension h
  exact ⟨hsome, hpointless, hsmall⟩

/-- Normal extensions are accepted as they are. -/
theorem checkItems_of_isNormalExtension {extensions : List String} (hsome : extensions ≠ [])
    (h : ∀ extension ∈ extensions, IsNormalExtension extension) :
    checkItems (extensions.map .text) = .ok extensions := by
  have hsame : extensions.map normalExtension = extensions := by
    rw [List.map_congr_left fun extension hmem => normalExtension_of_isNormalExtension (h extension hmem)]
    exact List.map_id' extensions
  have hpoints : ∀ s ∈ extensions, ¬ ∀ c ∈ s.toList, c = '.' := by
    intro s hs hpoints
    apply (h s hs).filled
    rw [← normalExtension_of_isNormalExtension (h s hs), normalExtension_eq_empty_iff]
    exact hpoints
  rw [checkItems_map_text hsome hpoints, hsame]

/-- The compiler of settings is given by the reference or by nothing. -/
theorem checkCompiler_elim (compiler : Option String) :
    checkCompiler (some (compiler.elim .null .text)) = .ok compiler := by
  cases compiler <;> rfl

theorem checkItems_of_lacks {items : List Model} (h : items = [] ∨ ∃ s, .text s ∈ items ∧ ∀ c ∈ s.toList, c = '.') :
    ∃ issues, checkItems items = .error issues := by
  cases hcheck : checkItems items with
  | error issues => exact ⟨issues, rfl⟩
  | ok extensions =>
    obtain ⟨given, rfl, hsome, hpoints, -⟩ := checkItems_eq_ok hcheck
    rcases h with hnone | ⟨s, hs, hall⟩
    · exact absurd (List.map_eq_nil_iff.mp hnone) hsome
    · obtain ⟨t, ht, heq⟩ := List.mem_map.mp hs
      obtain rfl := Model.text.inj heq
      exact absurd hall (hpoints t ht)

/-- The extensions are those of the override, unless it is null. -/
theorem lookup_extensions_putAll (environment : Environment) {overrides : Given}
    (hnames : (overrides.map Prod.fst).Nodup) :
    (Entries.putAll environment.given (overrides.filter fun entry => isGiven entry.2)).lookup "extensions" =
      (overrides.lookup "extensions").filter isGiven := by
  have hgiven : environment.given.lookup "extensions" = none := by
    rw [List.lookup_eq_none_iff]
    intro entry hentry
    simpa using (Environment.mem_fieldNames_of_given hentry).2.symm
  have hkept : ((overrides.filter fun entry => isGiven entry.2).reverse.map Prod.fst).Nodup := by
    rw [List.map_reverse, (List.reverse_perm _).nodup_iff]
    exact hnames.sublist (List.filter_sublist.map Prod.fst)
  rw [Entries.lookup_putAll, hgiven, Option.or_none]
  ext value
  rw [Entries.lookup_eq_some_iff_mem hkept, Option.filter_eq_some_iff, Entries.lookup_eq_some_iff_mem hnames]
  simp

theorem checkExtensions_eq_ok {value : Option Model} {extensions : List String}
    (h : checkExtensions value = .ok extensions) :
    extensions ≠ [] ∧ (∀ extension ∈ extensions, IsNormalExtension extension) ∧
      KeepsExtensions value extensions := by
  have hitems {items : List Model} (hcheck : checkItems items = .ok extensions) :
      extensions ≠ [] ∧ (∀ extension ∈ extensions, IsNormalExtension extension) ∧
        ∃ given : List String, items = given.map .text ∧ extensions = given.map normalExtension := by
    obtain ⟨given, hgiven, hsome, hpoints, rfl⟩ := checkItems_eq_ok hcheck
    refine ⟨by simpa using hsome, ?_, given, hgiven, rfl⟩
    intro extension hmem
    obtain ⟨s, hs, rfl⟩ := List.mem_map.mp hmem
    exact isNormalExtension_normalExtension fun hnothing =>
      hpoints s hs (normalExtension_eq_empty_iff.mp hnothing)
  unfold checkExtensions at h
  split at h
  · obtain rfl := Except.ok.inj h
    exact ⟨by decide, fun _ => isNormalExtension_of_mem_sourceExtensions, rfl⟩
  · obtain ⟨hsome, hnormal, given, rfl, hextensions⟩ := hitems h
    exact ⟨hsome, hnormal, given, Or.inl rfl, hextensions⟩
  · obtain ⟨hsome, hnormal, given, rfl, hextensions⟩ := hitems h
    exact ⟨hsome, hnormal, given, Or.inr rfl, hextensions⟩
  · cases h

section

variable [Codecs]

structure IsNormal (settings : Settings) : Prop where
  filled : settings.extensions ≠ []
  extensions : ∀ extension ∈ settings.extensions, IsNormalExtension extension
  named : settings.encoding ≠ ""
  known : (Encoding.find? settings.encoding).isSome
  again : check settings.values = .ok settings

theorem checkEncoding_eq_ok {value : Option Model} {encoding : String} (h : checkEncoding value = .ok encoding) :
    encoding ≠ "" ∧ (Encoding.find? encoding).isSome ∧ checkEncoding (some (.text encoding)) = .ok encoding := by
  cases value with
  | none =>
    obtain rfl := Except.ok.inj h
    exact ⟨by decide, rfl, rfl⟩
  | some value =>
    cases value with
    | text name =>
      have hcheck := h
      simp only [checkEncoding] at h
      split at h
      · cases h
      · rename_i hsome
        split at h
        · cases h
        · split at h
          · rename_i found hfound
            obtain rfl := Except.ok.inj h
            exact ⟨by simpa using hsome, by simp [hfound], hcheck⟩
          · cases h
    | _ => cases h

/-- Settings that pass the check are in normal form. -/
theorem isNormal_of_check {given : Given} {settings : Settings} (h : check given = .ok settings) :
    settings.IsNormal ∧ KeepsExtensions (given.lookup "extensions") settings.extensions := by
  obtain ⟨hextensions, hencoding, -, -⟩ := check_eq_ok h
  obtain ⟨hsome, hnormal, hkeeps⟩ := checkExtensions_eq_ok hextensions
  obtain ⟨hnamed, hknown, hagain⟩ := checkEncoding_eq_ok hencoding
  refine ⟨⟨hsome, hnormal, hnamed, hknown, ?_⟩, hkeeps⟩
  have hitems : checkExtensions (some (.tuple (settings.extensions.map .text))) = .ok settings.extensions :=
    checkItems_of_isNormalExtension hsome hnormal
  have hunknown : unknownIssues settings.values = [] := by
    apply unknownIssues_eq_nil
    simp [values, fieldNames]
  unfold check
  rw [hunknown]
  simp [values, List.lookup_cons, hitems, hagain, checkCompiler_elim]

/-- What lacks an extension is refused, whatever is given for the other fields. -/
theorem check_of_lacksExtension {given : Given} {value : Model} (hvalue : given.lookup "extensions" = some value)
    (h : LacksExtension value) : ∃ issues, check given = .error issues := by
  obtain ⟨items, hitems, hlacks⟩ := h
  obtain ⟨issues, hissues⟩ := checkItems_of_lacks hlacks
  have hcheck : checkExtensions (given.lookup "extensions") = .error issues := by
    rw [hvalue]
    rcases hitems with rfl | rfl <;> exact hissues
  simp only [check, hcheck]
  exact ⟨_, rfl⟩

theorem configure_eq_ok {environment : Environment} {overrides : Given} {settings : Settings}
    (h : configure environment overrides = .ok settings) : fromEnvironment environment overrides = .ok settings := by
  unfold configure at h
  split at h
  · cases h
  · cases hmade : fromEnvironment environment overrides with
    | error issues => simp [orFault, hmade, Results.mapError_error] at h
    | ok made =>
      simp only [orFault, hmade, Results.mapError_ok, Except.ok.injEq] at h
      rw [h]

/-- Settings that are accepted, from values or from the environment, are in normal form and keep the
extensions that were given; what lacks an extension is not accepted. -/
theorem accepted_isNormal :
    (∀ {given : Given} {settings : Settings}, check given = .ok settings →
      settings.IsNormal ∧ KeepsExtensions (given.lookup "extensions") settings.extensions) ∧
    (∀ {environment : Environment} {overrides : Given} {settings : Settings}, (overrides.map Prod.fst).Nodup →
      configure environment overrides = .ok settings →
      settings.IsNormal ∧
        KeepsExtensions ((overrides.lookup "extensions").filter isGiven) settings.extensions) ∧
    (∀ {given : Given} {value : Model}, given.lookup "extensions" = some value → LacksExtension value →
      ∃ issues, check given = .error issues) ∧
    ∀ {environment : Environment} {overrides : Given} {value : Model}, (overrides.map Prod.fst).Nodup →
      overrides.lookup "extensions" = some value → LacksExtension value →
      ∃ fault, configure environment overrides = .error fault := by
  refine ⟨fun h => isNormal_of_check h, ?_, fun hvalue h => check_of_lacksExtension hvalue h, ?_⟩
  · intro environment overrides settings hnames h
    rw [← lookup_extensions_putAll environment hnames]
    exact isNormal_of_check (configure_eq_ok h)
  · intro environment overrides value hnames hvalue hlacks
    have hgiven : isGiven value := by
      obtain ⟨items, rfl | rfl, -⟩ := hlacks <;> rfl
    have hlookup := lookup_extensions_putAll environment hnames
    rw [hvalue, Option.filter_some, if_pos hgiven] at hlookup
    obtain ⟨issues, hissues⟩ := check_of_lacksExtension hlookup hlacks
    cases hmade : configure environment overrides with
    | error fault => exact ⟨fault, rfl⟩
    | ok settings =>
      have hok := configure_eq_ok hmade
      rw [fromEnvironment, hissues] at hok
      cases hok

end

def capitalExtensions : Model := .list [.text "..TAR.GZ", .text "ΟΔΟΣ", .text ".gz"]

theorem accepted_isNormal_of_capitals :
    (⟨["tar.gz", "οδος", "gz"], "utf-8", none⟩ : Settings).IsNormal ∧
    (⟨["tar.gz", "οδος", "gz"], "latin-1", none⟩ : Settings).IsNormal ∧
    (∃ issues, check [("encoding", .text "utf-8"), ("extensions", .tuple [.text "cql", .text ".."])] =
      .error issues) ∧
    ∃ fault, configure ⟨none, none⟩ [("extensions", .list []), ("compiler", .null)] = .error fault := by
  have hvalues : check [("extensions", capitalExtensions)] = .ok ⟨["tar.gz", "οδος", "gz"], "utf-8", none⟩ := by
    decide +kernel
  have henvironment : configure ⟨none, some "latin-1"⟩ [("extensions", capitalExtensions), ("encoding", .null)] =
      .ok ⟨["tar.gz", "οδος", "gz"], "latin-1", none⟩ := by
    rfl
  have hpoints : LacksExtension (.tuple [.text "cql", .text ".."]) :=
    ⟨_, Or.inr rfl, Or.inr ⟨"..", by simp, by simp⟩⟩
  have hnothing : LacksExtension (.list []) := ⟨[], Or.inl rfl, Or.inl rfl⟩
  obtain ⟨hcheck, hconfigure, hrefused, hnotConfigured⟩ := accepted_isNormal
  exact ⟨(hcheck hvalues).1, (hconfigure (by simp) henvironment).1, hrefused (by rfl) hpoints,
    hnotConfigured (by simp) (by rfl) hnothing⟩

end Settings

end FactIntake
