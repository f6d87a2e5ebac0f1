import DocLint.Proofs.Token.Sequence
import Mathlib.Order.Bounds.Image

/-!
# The nearest match

The searches of a token sequence take any integers for bounds. One goes backward
and looks at its last position too, the other goes forward and stops before it.
Each answers with the match that is nearest to its start. A bound outside the
sequence is as good as the end of the sequence on that side.

A sequence read from its end has the same matches, and what was the greatest of
them is the least. So the two searches are one, seen from either end. Only one of
them looks at the position that it is to stop at, so there the other stops one
position later.

Results:
* `findPrevious_isGreatest`, `findNext_isLeast`: what is found is the greatest or
  the least match between the bounds as they are cut.
* `image_matchesUpTo`: seen from the other end, the matches of one search are those
  of the other.
* `nearest_mirrored`: all of this together.
-/
namespace DocLint

/-- The test for the classes `kinds`, or with `exclude` for all but these. -/
def KindTest.select (kinds : List TokenKind) (exclude : Bool) : KindTest :=
  if exclude then .noneOf kinds else .oneOf kinds

theorem KindTest.accepts_select {kinds : List TokenKind} {exclude : Bool} {kind : TokenKind} :
    (select kinds exclude).accepts kind = true ↔ (kind ∈ kinds ↔ exclude = false) := by
  cases exclude <;> simp [select, accepts]

namespace TokenSequence

variable {s : TokenSequence} {kinds : List TokenKind} {exclude : Bool} {start r : Int}
  {stop : Option Int}

/-! ## Matches between two bounds -/

/-- Whether the token at `r` is of one of the classes `kinds`, or with `exclude` of
none of them. -/
def Matches (s : TokenSequence) (kinds : List TokenKind) (exclude : Bool) (r : Int) : Prop :=
  ∃ token, s.get? r = some token ∧ (token.kind ∈ kinds ↔ exclude = false)

/-- The matches from `stop` up to `start`, both included. Without a `stop` they begin
with the sequence. -/
def matchesUpTo (s : TokenSequence) (kinds : List TokenKind) (exclude : Bool) (start : Int)
    (stop : Option Int) : Set Int :=
  {r | max (stop.getD 0) 0 ≤ r ∧ r ≤ min start (s.length - 1) ∧ s.Matches kinds exclude r}

/-- The matches from `start` on and before `stop`. Without a `stop` they end with the
sequence. -/
def matchesFrom (s : TokenSequence) (kinds : List TokenKind) (exclude : Bool) (start : Int)
    (stop : Option Int) : Set Int :=
  {r | max start 0 ≤ r ∧ r < min (stop.getD s.length) s.length ∧ s.Matches kinds exclude r}

theorem matches_natCast {i : Nat} : s.Matches kinds exclude i ↔
    s.tokens[i]?.any ((KindTest.select kinds exclude).accepts ·.kind) = true := by
  simp only [Matches, get?_natCast, Option.any_eq_true, KindTest.accepts_select]

theorem Matches.exists_natCast (h : s.Matches kinds exclude r) :
    ∃ i : Nat, r = i ∧ i < s.length := by
  obtain ⟨token, htoken, -⟩ := h
  obtain ⟨hr, hget⟩ := get?_eq_some_iff.1 htoken
  have hlt : r.toNat < s.length := (List.getElem?_eq_some_iff.1 hget).1
  exact ⟨r.toNat, by omega, hlt⟩

theorem natCast_mem_matchesUpTo {i : Nat} : (i : Int) ∈ s.matchesUpTo kinds exclude start stop ↔
    stop.getD 0 ≤ i ∧ i ≤ start ∧
      s.tokens[i]?.any ((KindTest.select kinds exclude).accepts ·.kind) = true := by
  rw [← matches_natCast]
  constructor
  · intro hmem
    obtain ⟨hstop, hstart, hi⟩ := hmem
    exact ⟨by omega, by omega, hi⟩
  · intro h
    obtain ⟨hstop, hstart, hi⟩ := h
    obtain ⟨j, hij, hlt⟩ := hi.exists_natCast
    exact ⟨by omega, by omega, hi⟩

theorem natCast_mem_matchesFrom {i : Nat} : (i : Int) ∈ s.matchesFrom kinds exclude start stop ↔
    start ≤ i ∧ (i : Int) < stop.getD s.length ∧
      s.tokens[i]?.any ((KindTest.select kinds exclude).accepts ·.kind) = true := by
  rw [← matches_natCast]
  constructor
  · intro hmem
    obtain ⟨hstart, hstop, hi⟩ := hmem
    exact ⟨by omega, by omega, hi⟩
  · intro h
    obtain ⟨hstart, hstop, hi⟩ := h
    obtain ⟨j, hij, hlt⟩ := hi.exists_natCast
    exact ⟨by omega, by omega, hi⟩

theorem exists_natCast_of_mem_matchesUpTo :
    ∀ r ∈ s.matchesUpTo kinds exclude start stop, ∃ j : Nat, r = j := by
  intro r hr
  obtain ⟨-, -, hmatch⟩ := hr
  obtain ⟨j, hj, -⟩ := hmatch.exists_natCast
  exact ⟨j, hj⟩

theorem exists_natCast_of_mem_matchesFrom :
    ∀ r ∈ s.matchesFrom kinds exclude start stop, ∃ j : Nat, r = j := by
  intro r hr
  obtain ⟨-, -, hmatch⟩ := hr
  obtain ⟨j, hj, -⟩ := hmatch.exists_natCast
  exact ⟨j, hj⟩

/-! ## Sets of positions

Positions count from zero, and only their differences may be negative. -/

section NatCast

variable {S : Set Int} {i : Nat}

theorem isGreatest_natCast_iff (hS : ∀ r ∈ S, ∃ j : Nat, r = j) :
    IsGreatest S i ↔ (i : Int) ∈ S ∧ ∀ j : Nat, i < j → (j : Int) ∉ S := by
  constructor
  · intro h
    obtain ⟨hmem, hbound⟩ := h
    refine ⟨hmem, fun j hij hj => ?_⟩
    have := hbound hj
    omega
  · intro h
    obtain ⟨hmem, hafter⟩ := h
    refine ⟨hmem, fun r hr => ?_⟩
    obtain ⟨j, rfl⟩ := hS r hr
    by_contra hlt
    exact hafter j (by omega) hr

theorem isLeast_natCast_iff (hS : ∀ r ∈ S, ∃ j : Nat, r = j) :
    IsLeast S i ↔ (i : Int) ∈ S ∧ ∀ j : Nat, j < i → (j : Int) ∉ S := by
  constructor
  · intro h
    obtain ⟨hmem, hbound⟩ := h
    refine ⟨hmem, fun j hji hj => ?_⟩
    have := hbound hj
    omega
  · intro h
    obtain ⟨hmem, hbefore⟩ := h
    refine ⟨hmem, fun r hr => ?_⟩
    obtain ⟨j, rfl⟩ := hS r hr
    by_contra hlt
    exact hbefore j (by omega) hr

theorem eq_empty_natCast_iff (hS : ∀ r ∈ S, ∃ j : Nat, r = j) :
    S = ∅ ↔ ∀ j : Nat, (j : Int) ∉ S := by
  rw [Set.eq_empty_iff_forall_notMem]
  constructor
  · intro hno j
    exact hno j
  · intro hno r hr
    obtain ⟨j, rfl⟩ := hS r hr
    exact hno j hr

theorem map_natCast_eq_some_iff {found : Option Nat} {P : Int → Prop}
    (hP : ∀ r, P r → ∃ j : Nat, r = j) (h : ∀ j : Nat, found = some j ↔ P j) :
    found.map (↑) = some r ↔ P r := by
  rw [Option.map_eq_some_iff]
  constructor
  · intro hfound
    obtain ⟨j, hj, rfl⟩ := hfound
    exact (h j).1 hj
  · intro hr
    obtain ⟨j, rfl⟩ := hP r hr
    exact ⟨j, (h j).2 hr, rfl⟩

end NatCast

/-! ## What is found -/

theorem findPrevious_isGreatest {i : Nat} :
    s.findPrevious (.select kinds exclude) start stop = some i ↔
      IsGreatest (s.matchesUpTo kinds exclude start stop) i := by
  rw [findPrevious_eq_some_iff, isGreatest_natCast_iff exists_natCast_of_mem_matchesUpTo,
    natCast_mem_matchesUpTo]
  constructor
  · intro h
    obtain ⟨hstop, hstart, hi, hafter⟩ := h
    refine ⟨⟨hstop, hstart, hi⟩, fun j hij hmem => ?_⟩
    obtain ⟨-, hj, hany⟩ := natCast_mem_matchesUpTo.1 hmem
    rw [hafter j hij hj] at hany
    cases hany
  · intro h
    obtain ⟨⟨hstop, hstart, hi⟩, hafter⟩ := h
    refine ⟨hstop, hstart, hi, fun j hij hj => ?_⟩
    rw [Bool.eq_false_iff]
    intro hany
    exact hafter j hij (natCast_mem_matchesUpTo.2 ⟨by omega, hj, hany⟩)

theorem map_findPrevious_eq_some_iff :
    (s.findPrevious (.select kinds exclude) start stop).map (↑) = some r ↔
      IsGreatest (s.matchesUpTo kinds exclude start stop) r := by
  apply map_natCast_eq_some_iff
  · intro q hq
    exact exists_natCast_of_mem_matchesUpTo q hq.1
  · intro i
    exact findPrevious_isGreatest

theorem findPrevious_eq_none_iff_empty :
    s.findPrevious (.select kinds exclude) start stop = none ↔
      s.matchesUpTo kinds exclude start stop = ∅ := by
  rw [findPrevious_eq_none_iff, eq_empty_natCast_iff exists_natCast_of_mem_matchesUpTo]
  simp only [natCast_mem_matchesUpTo, not_and, Bool.not_eq_true]

theorem findNext_isLeast {i : Nat} :
    s.findNext (.select kinds exclude) start stop = some i ↔
      IsLeast (s.matchesFrom kinds exclude start stop) i := by
  rw [findNext, findNextBy_eq_some_iff, isLeast_natCast_iff exists_natCast_of_mem_matchesFrom,
    natCast_mem_matchesFrom]
  constructor
  · intro h
    obtain ⟨hstart, hstop, hi, hbefore⟩ := h
    refine ⟨⟨hstart, hstop, hi⟩, fun j hji hmem => ?_⟩
    obtain ⟨hj, -, hany⟩ := natCast_mem_matchesFrom.1 hmem
    rw [hbefore j hj hji] at hany
    cases hany
  · intro h
    obtain ⟨⟨hstart, hstop, hi⟩, hbefore⟩ := h
    refine ⟨hstart, hstop, hi, fun j hj hji => ?_⟩
    rw [Bool.eq_false_iff]
    intro hany
    exact hbefore j hji (natCast_mem_matchesFrom.2 ⟨hj, by omega, hany⟩)

theorem map_findNext_eq_some_iff :
    (s.findNext (.select kinds exclude) start stop).map (↑) = some r ↔
      IsLeast (s.matchesFrom kinds exclude start stop) r := by
  apply map_natCast_eq_some_iff
  · intro q hq
    exact exists_natCast_of_mem_matchesFrom q hq.1
  · intro i
    exact findNext_isLeast

theorem findNext_eq_none_iff_empty :
    s.findNext (.select kinds exclude) start stop = none ↔
      s.matchesFrom kinds exclude start stop = ∅ := by
  rw [findNext, findNextBy_eq_none_iff, eq_empty_natCast_iff exists_natCast_of_mem_matchesFrom]
  simp only [natCast_mem_matchesFrom, not_and, Bool.not_eq_true]

/-! ## From the other end -/

/-- The tokens of a file from the last to the first. What a token says about its scope
and its parentheses stays as it is, since no search by classes reads it. -/
def reversed (s : TokenSequence) : TokenSequence := ⟨s.tokens.reverse⟩

@[simp] theorem length_reversed (s : TokenSequence) : s.reversed.length = s.length := by
  simp [reversed, length]

/-- Counted from the other end, a position holds the same token. Outside of the sequence
neither holds any. -/
theorem get?_reversed (s : TokenSequence) (r : Int) :
    s.reversed.get? (s.length - 1 - r) = s.get? r := by
  by_cases hr : 0 ≤ r ∧ r < s.length
  · obtain ⟨i, rfl⟩ := Int.eq_ofNat_of_zero_le hr.1
    have hlt : i < s.tokens.length := Int.ofNat_lt.1 hr.2
    have hmirror : (s.length : Int) - 1 - i = (s.tokens.length - 1 - i : Nat) := by
      simp only [length]
      omega
    have hback : s.tokens.length - 1 - (s.tokens.length - 1 - i) = i := by omega
    rw [hmirror, get?_natCast, get?_natCast, reversed, List.getElem?_reverse (by omega), hback]
  · rw [get?_eq_none hr, get?_eq_none]
    rw [length_reversed]
    omega

theorem matches_reversed : s.reversed.Matches kinds exclude (s.length - 1 - r) ↔
    s.Matches kinds exclude r := by
  simp only [Matches, get?_reversed]

/-- Counted from the other end, the matches from `stop` up to `start` are those from
`start` on and before the position after `stop`. -/
theorem image_matchesUpTo :
    (fun r : Int => s.length - 1 - r) '' s.matchesUpTo kinds exclude start stop =
      s.reversed.matchesFrom kinds exclude (s.length - 1 - start) (stop.map (s.length - ·)) := by
  have hstop : (stop.map ((s.length : Int) - ·)).getD s.length = s.length - stop.getD 0 := by
    cases stop with
    | none => simp
    | some e => rfl
  ext q
  constructor
  · intro hq
    obtain ⟨r, ⟨hlow, hhigh, hr⟩, rfl⟩ := hq
    refine ⟨?_, ?_, matches_reversed.2 hr⟩
    · simp only
      omega
    · simp only [length_reversed, hstop]
      omega
  · intro hq
    obtain ⟨hlow, hhigh, hq⟩ := hq
    rw [length_reversed, hstop] at hhigh
    have hback : (s.length : Int) - 1 - (s.length - 1 - q) = q := by omega
    refine ⟨s.length - 1 - q, ⟨by omega, by omega, ?_⟩, hback⟩
    rw [← matches_reversed, hback]
    exact hq

theorem isLeast_matchesFrom_reversed :
    IsLeast (s.reversed.matchesFrom kinds exclude (s.length - 1 - start)
        (stop.map (s.length - ·))) (s.length - 1 - r) ↔
      IsGreatest (s.matchesUpTo kinds exclude start stop) r := by
  have hanti : StrictAnti fun r : Int => s.length - 1 - r := by
    intro q r hqr
    simp only
    omega
  rw [← image_matchesUpTo]
  exact hanti.map_isLeast

/-- Each search answers with the match that is nearest to its start, between its bounds
as they are cut to the sequence, and with nothing just if there is no match. And the
backward search is the forward search in the reversed sequence, with the positions
counted from the other end. -/
theorem nearest_mirrored (s : TokenSequence) (kinds : List TokenKind) (exclude : Bool)
    (start : Int) (stop : Option Int) :
    (∀ i : Nat, s.findPrevious (.select kinds exclude) start stop = some i ↔
      IsGreatest (s.matchesUpTo kinds exclude start stop) i) ∧
    (s.findPrevious (.select kinds exclude) start stop = none ↔
      s.matchesUpTo kinds exclude start stop = ∅) ∧
    (∀ i : Nat, s.findNext (.select kinds exclude) start stop = some i ↔
      IsLeast (s.matchesFrom kinds exclude start stop) i) ∧
    (s.findNext (.select kinds exclude) start stop = none ↔
      s.matchesFrom kinds exclude start stop = ∅) ∧
    (∀ r : Int, (s.findPrevious (.select kinds exclude) start stop).map (↑) = some r ↔
      (s.reversed.findNext (.select kinds exclude) (s.length - 1 - start)
        (stop.map (s.length - ·))).map (↑) = some (s.length - 1 - r)) ∧
    (s.findPrevious (.select kinds exclude) start stop = none ↔
      s.reversed.findNext (.select kinds exclude) (s.length - 1 - start)
        (stop.map (s.length - ·)) = none) := by
  refine ⟨fun i => findPrevious_isGreatest, findPrevious_eq_none_iff_empty,
    fun i => findNext_isLeast, findNext_eq_none_iff_empty, fun r => ?_, ?_⟩
  · rw [map_findPrevious_eq_some_iff, map_findNext_eq_some_iff, isLeast_matchesFrom_reversed]
  · rw [findPrevious_eq_none_iff_empty, findNext_eq_none_iff_empty, ← image_matchesUpTo,
      Set.image_eq_empty]

/-- The last token that is not white space, from both ends of a sequence. -/
example :
    let s : TokenSequence := ⟨[⟨.openTag, "", 1, 0, {}⟩, ⟨.name, "x", 1, 0, {}⟩,
      ⟨.whitespace, " ", 1, 1, {}⟩, ⟨.comment, "# c", 1, 2, {}⟩, ⟨.whitespace, "\n", 1, 5, {}⟩]⟩
    s.findPrevious (.noneOf [.whitespace]) 99 (some (-1)) = some 3 ∧
      s.reversed.findNext (.noneOf [.whitespace]) (-95) (some 6) = some 1 := by
  decide

end TokenSequence

end DocLint
