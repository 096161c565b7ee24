import FactIntake.Proofs.SentinelTokens
import Mathlib.Data.List.Basic

/-!
Moving sentinels is a stable partition of the tokens by adjacency. Whether a token is moved can be told
from its position alone: it designates standard input, and the token right before it is not the name of
an option that takes a value. The loop looks back at the token that it kept last instead, which comes to
the same, since a token that it moved is never the name of an option.
-/

namespace FactIntake

namespace Sentinel

/-- A path ends in this name, and in front of it stands nothing or a slash. -/
def IsLastComponent (path name : List Char) : Prop :=
  '/' ∉ name ∧ ∃ directory, path = directory ++ name ∧ ∀ c ∈ directory.getLast?, c = '/'

theorem baseName_eq_iff {path name : List Char} : baseName path = name ↔ IsLastComponent path name := by
  constructor
  · rintro rfl
    refine ⟨fun hslash => ?_, (path.reverse.dropWhile (· != '/')).reverse, ?_, fun c hc => ?_⟩
    · simpa using List.mem_takeWhile_imp (List.mem_reverse.mp hslash)
    · rw [baseName, ← List.reverse_append, List.takeWhile_append_dropWhile, List.reverse_reverse]
    · have hhead := List.head?_dropWhile_not (· != '/') path.reverse
      rw [← List.getLast?_reverse, Option.mem_def.mp hc] at hhead
      simpa using hhead
  · rintro ⟨hname, directory, rfl, hdirectory⟩
    have hall : ∀ c ∈ name.reverse, (c != '/') = true := by
      intro c hc
      have hne : c ≠ '/' := fun heq => hname (heq ▸ List.mem_reverse.mp hc)
      simpa using hne
    have hnone : directory.reverse.takeWhile (· != '/') = [] := by
      rw [← List.head?_reverse] at hdirectory
      cases hreverse : directory.reverse with
      | nil => rfl
      | cons c rest =>
        have hc : c = '/' := hdirectory c (by simp [hreverse])
        simp [hc]
    rw [baseName, List.reverse_append, List.takeWhile_append_of_pos hall, hnone, List.append_nil,
      List.reverse_reverse]

theorem cutLeavesHyphen_iff {name extension : List Char} :
    cutLeavesHyphen name extension ↔ name = '-' :: '.' :: extension := by
  rw [cutLeavesHyphen, Bool.and_eq_true, List.isSuffixOf_iff_suffix, beq_iff_eq]
  constructor
  · rintro ⟨⟨front, rfl⟩, hfront⟩
    have hlength : (front ++ '.' :: extension).length - (extension.length + 1) = front.length := by simp
    rw [hlength, List.take_left'] at hfront
    · rw [hfront]
      rfl
    · rfl
  · rintro rfl
    refine ⟨⟨['-'], rfl⟩, ?_⟩
    have hlength : ('-' :: '.' :: extension).length - (extension.length + 1) = 1 := by
      simp only [List.length_cons]
      omega
    rw [hlength]
    rfl

/-- A path designates standard input exactly if its last component is a hyphen, a point and an
extension. -/
theorem isStdin_iff {path : String} {extensions : List String} :
    isStdin path extensions ↔
      ∃ extension ∈ extensions, baseName path.toList = '-' :: '.' :: extension.toList := by
  simp only [isStdin, List.any_eq_true, cutLeavesHyphen_iff]

end Sentinel

namespace Arguments

open Options

/-- A token that begins with a hyphen and is a path whose last component is a hyphen with a recognised
extension. -/
def Designates (token : String) : Prop :=
  token.toList.head? = some '-' ∧
    ∃ extension ∈ Settings.sourceExtensions,
      Sentinel.IsLastComponent token.toList ('-' :: '.' :: extension.toList)

theorem isSentinel_iff (token : String) : isSentinel token ↔ Designates token := by
  simp only [isSentinel, Bool.and_eq_true, beq_iff_eq, Sentinel.isStdin_iff, Sentinel.baseName_eq_iff, Designates]

/-- The token at a position is moved: it designates standard input, and no name of an option that takes
a value stands right before it. -/
def MovesAt (args : List String) (i : Nat) : Prop :=
  ∃ token, args[i]? = some token ∧ Designates token ∧
    (i = 0 ∨ ∃ before, args[i - 1]? = some before ∧ before ∉ valueOptions)

theorem namesOption_some (token : String) : namesOption (some token) ↔ token ∈ valueOptions := by
  simp [namesOption]

theorem movesAt_iff {args : List String} {i : Nat} {token : String} (htoken : args[i]? = some token) :
    MovesAt args i ↔ isMoved (tokenBefore none args i) token := by
  have hnamed : (i = 0 ∨ ∃ before, args[i - 1]? = some before ∧ before ∉ valueOptions) ↔
      ¬ namesOption (tokenBefore none args i) := by
    cases i with
    | zero => simp [tokenBefore, namesOption]
    | succ i =>
      -- There is a token right before any position but the first.
      obtain ⟨before, hbefore⟩ : ∃ before, args[i]? = some before := by
        obtain ⟨hlength, -⟩ := List.getElem?_eq_some_iff.mp htoken
        exact ⟨_, List.getElem?_eq_getElem (Nat.lt_of_succ_lt hlength)⟩
      simp [tokenBefore, hbefore, namesOption_some]
  simp only [MovesAt, htoken, Option.some.injEq, exists_eq_left', ← isSentinel_iff, hnamed, isMoved,
    Bool.and_eq_true, Bool.not_eq_true', Bool.not_eq_true]

instance (args : List String) : DecidablePred (MovesAt args) := fun i =>
  match htoken : args[i]? with
  | some token => decidable_of_iff _ (movesAt_iff htoken).symm
  | none => .isFalse fun ⟨_, hsome, _⟩ => by simp [htoken] at hsome

/-- The tokens at the positions with a property, in their order. -/
def tokensAt (args : List String) (p : Nat → Prop) [DecidablePred p] : List String :=
  (args.zipIdx.filter fun entry => p entry.2).map Prod.fst

theorem sortAfter_eq_filter (p : Nat → Prop) [DecidablePred p] {previous : Option String} {args : List String}
    {start : Nat}
    (h : ∀ i token, args[i]? = some token → (p (start + i) ↔ isMoved (tokenBefore previous args i) token)) :
    sortAfter previous args =
      ⟨((args.zipIdx start).filter fun entry => ¬ p entry.2).map Prod.fst,
        ((args.zipIdx start).filter fun entry => p entry.2).map Prod.fst⟩ := by
  induction args generalizing previous start with
  | nil => rfl
  | cons first rest ih =>
    have hfirst : p start ↔ isMoved previous first := h 0 first rfl
    have hrest : ∀ i token, rest[i]? = some token →
        (p (start + 1 + i) ↔ isMoved (tokenBefore (some first) rest i) token) := by
      intro i token htoken
      rw [← tokenBefore_cons previous, Nat.add_assoc, Nat.add_comm 1 i]
      exact h (i + 1) token htoken
    rw [sortAfter, ih hrest, List.zipIdx_cons]
    by_cases hmoved : p start
    · simp [hmoved, hfirst.mp hmoved]
    · simp [hmoved, Bool.eq_false_iff.mpr fun hmoves => hmoved (hfirst.mpr hmoves)]

theorem sortAfter_none_eq (args : List String) :
    sortAfter none args = ⟨tokensAt args (¬ MovesAt args ·), tokensAt args (MovesAt args)⟩ := by
  refine sortAfter_eq_filter (MovesAt args) fun i token htoken => ?_
  rw [Nat.zero_add]
  exact movesAt_iff htoken

theorem moved_ne_nil_iff (args : List String) :
    (sortAfter none args).moved ≠ [] ↔ ∃ i < args.length, MovesAt args i := by
  constructor
  · intro hmoved
    obtain ⟨token, htoken⟩ := List.exists_mem_of_ne_nil _ hmoved
    obtain ⟨i, hi, hmoves⟩ := mem_moved_iff.mp htoken
    exact ⟨i, (List.getElem?_eq_some_iff.mp hi).1, (movesAt_iff hi).mpr hmoves⟩
  · rintro ⟨i, -, hmoves⟩ hnil
    obtain ⟨token, htoken, -⟩ := id hmoves
    have hmem := mem_moved_iff.mpr ⟨i, htoken, (movesAt_iff htoken).mp hmoves⟩
    rw [hnil] at hmem
    cases hmem

theorem tokensAt_perm (args : List String) (p : Nat → Prop) [DecidablePred p] :
    (tokensAt args (¬ p ·) ++ tokensAt args p).Perm args := by
  have hall : (args.zipIdx.filter (fun entry => ¬ p entry.2) ++
      args.zipIdx.filter fun entry => p entry.2).Perm args.zipIdx := by
    refine List.perm_append_comm.trans ?_
    simpa using List.filter_append_perm (fun entry : String × Nat => decide (p entry.2)) args.zipIdx
  simpa [tokensAt] using hall.map Prod.fst

/-- A token that is moved is the name of no option, and it is moved only if the token kept last is none
either. -/
theorem namesOption_add (sorted : Sorted) (token : String) :
    namesOption (sorted.add token).kept.getLast? = namesOption (some token) := by
  rw [add_eq]
  split
  · next hmoved =>
    simp only [isMoved, Bool.and_eq_true, Bool.not_eq_true'] at hmoved
    rw [hmoved.2, namesOption_sentinel hmoved.1]
  · simp

/-- After any number of tokens, the token that the loop kept last is the name of an option that takes a
value if and only if the token read last is. -/
theorem namesOption_kept (args : List String) :
    namesOption (sort args).kept.getLast? = namesOption args.getLast? := by
  rcases List.eq_nil_or_concat' args with rfl | ⟨before, token, rfl⟩
  · rfl
  · have hadd : sort (before ++ [token]) = (sort before).add token := by simp [sort]
    rw [hadd, namesOption_add, List.getLast?_concat]

/-- Moving sentinels keeps the tokens that stay and those that are moved in their order, and puts one
end mark between them; what counts as the token before a position is, in the loop, the token kept
last. -/
theorem shift_partitions (args : List String) :
    shift args =
      (if ∃ i < args.length, MovesAt args i then
        tokensAt args (¬ MovesAt args ·) ++ endMark :: tokensAt args (MovesAt args)
      else args) ∧
    (tokensAt args (¬ MovesAt args ·) ++ tokensAt args (MovesAt args)).Perm args ∧
    ∀ i, (∃ last, (sort (args.take i)).kept.getLast? = some last ∧ last ∈ valueOptions) ↔
      ∃ before, (args.take i).getLast? = some before ∧ before ∈ valueOptions := by
  refine ⟨?_, tokensAt_perm args (MovesAt args), fun i => ?_⟩
  · rw [shift_eq]
    by_cases hmoves : ∃ i < args.length, MovesAt args i
    · rw [if_pos hmoves, if_neg ((moved_ne_nil_iff args).mpr hmoves), sortAfter_none_eq]
    · rw [if_neg hmoves, if_pos (not_not.mp fun hmoved => hmoves ((moved_ne_nil_iff args).mp hmoved))]
  · have hnames : ∀ token : Option String,
        (∃ name, token = some name ∧ name ∈ valueOptions) ↔ namesOption token = true := by
      rintro (_ | name)
      · simp [namesOption]
      · simp [namesOption_some]
    rw [hnames, hnames, namesOption_kept]

/-- A sentinel after the name of an option stays and lets the next one go. -/
example : shift ["-.cql", "-o", "-.cql", "-.fiml", "m.cql"] =
    ["-o", "-.cql", "m.cql", "--", "-.cql", "-.fiml"] := by decide

end Arguments

end FactIntake
