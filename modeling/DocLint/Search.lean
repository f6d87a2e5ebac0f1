/-!
# Searching a list between two positions

`firstIn p xs lo hi` is the least position in `[lo, hi)` that holds an entry
with the property `p`, and `lastIn` the greatest. Positions past the end of the
list hold nothing.

Main statements: `firstIn_eq_some_iff`, `firstIn_eq_none_iff`,
`lastIn_eq_some_iff` and `lastIn_eq_none_iff`, which say just that.
-/
namespace DocLint

variable {α : Type}

/-- The least position in `[lo, hi)` that holds an entry with the property `p`. -/
def firstIn (p : α → Bool) (xs : List α) (lo hi : Nat) : Option Nat :=
  (List.range' lo (hi - lo)).find? fun i => xs[i]?.any p

/-- The greatest position in `[lo, hi)` that holds an entry with the property `p`. -/
def lastIn (p : α → Bool) (xs : List α) (lo hi : Nat) : Option Nat :=
  (List.range' lo (hi - lo)).reverse.find? fun i => xs[i]?.any p

/-! ## What the searches find -/

theorem firstIn_eq_some_iff {p : α → Bool} {xs : List α} {lo hi i : Nat} :
    firstIn p xs lo hi = some i ↔
      lo ≤ i ∧ i < hi ∧ xs[i]?.any p = true ∧ ∀ j, lo ≤ j → j < i → xs[j]?.any p = false := by
  simp only [firstIn, List.find?_range'_eq_some, List.mem_range'_1]
  constructor
  · rintro ⟨hp, hmem, hall⟩
    refine ⟨hmem.1, by omega, hp, fun j h1 h2 => ?_⟩
    simpa using hall j h1 h2
  · rintro ⟨h1, h2, hp, hall⟩
    refine ⟨hp, ⟨h1, by omega⟩, fun j hj hji => ?_⟩
    simpa using hall j hj hji

theorem firstIn_eq_none_iff {p : α → Bool} {xs : List α} {lo hi : Nat} :
    firstIn p xs lo hi = none ↔ ∀ i, lo ≤ i → i < hi → xs[i]?.any p = false := by
  simp only [firstIn, List.find?_eq_none, List.mem_range'_1]
  constructor
  · intro h i h1 h2
    simpa using h i ⟨h1, by omega⟩
  · intro h i hi
    simpa using h i hi.1 (by omega)

theorem lastIn_eq_none_iff {p : α → Bool} {xs : List α} {lo hi : Nat} :
    lastIn p xs lo hi = none ↔ ∀ i, lo ≤ i → i < hi → xs[i]?.any p = false := by
  simp only [lastIn, List.find?_eq_none, List.mem_reverse, List.mem_range'_1]
  constructor
  · intro h i h1 h2
    simpa using h i ⟨h1, by omega⟩
  · intro h i hi
    simpa using h i hi.1 (by omega)

theorem lastIn_eq_some {p : α → Bool} {xs : List α} {lo hi i : Nat}
    (h : lastIn p xs lo hi = some i) :
    lo ≤ i ∧ i < hi ∧ xs[i]?.any p = true ∧ ∀ j, i < j → j < hi → xs[j]?.any p = false := by
  obtain ⟨hp, above, below, hsplit, habove⟩ := List.find?_eq_some_iff_append.1 h
  have hmem : i ∈ List.range' lo (hi - lo) := by
    rw [← List.mem_reverse, hsplit]
    simp
  have hlt := List.mem_range'_1.1 hmem
  refine ⟨hlt.1, by omega, hp, fun j hij hj => ?_⟩
  have hdesc : (above ++ i :: below).Pairwise (· > ·) := by
    rw [← hsplit, List.pairwise_reverse]
    exact List.pairwise_lt_range'
  have hj' : j ∈ above ++ i :: below := by
    rw [← hsplit, List.mem_reverse, List.mem_range'_1]
    omega
  have hbelow := (List.pairwise_cons.1 (List.pairwise_append.1 hdesc).2.1).1
  rcases List.mem_append.1 hj' with hj' | hj'
  · simpa using habove j hj'
  · rcases List.mem_cons.1 hj' with hj' | hj'
    · omega
    · have := hbelow j hj'
      omega

theorem lastIn_eq_some_iff {p : α → Bool} {xs : List α} {lo hi i : Nat} :
    lastIn p xs lo hi = some i ↔
      lo ≤ i ∧ i < hi ∧ xs[i]?.any p = true ∧ ∀ j, i < j → j < hi → xs[j]?.any p = false := by
  refine ⟨lastIn_eq_some, fun ⟨hlo, hhi, hp, hafter⟩ => ?_⟩
  cases h : lastIn p xs lo hi with
  | none =>
    have := lastIn_eq_none_iff.1 h i hlo hhi
    simp [this] at hp
  | some k =>
    obtain ⟨h1, h2, h3, h4⟩ := lastIn_eq_some h
    rcases Nat.lt_trichotomy k i with hk | hk | hk
    · simp [h4 i hk hhi] at hp
    · rw [hk]
    · simp [hafter k hk h2] at h3

end DocLint
