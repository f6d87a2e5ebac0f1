import DocLint.Proofs.Search
import DocLint.Token.Sequence

/-!
# What the searches of a sequence find

The bounds of a search may be any integers. Since what is found is a token, the
ends of the sequence need not be named with them.

Results:
* `findNextBy_eq_some_iff`, `findNextBy_eq_none_iff`: the search forward.
* `findPrevious_eq_some_iff`, `findPrevious_eq_none_iff`: the search backward.
-/
namespace DocLint.TokenSequence

variable {s : TokenSequence} {test : KindTest} {p : Token → Bool} {start : Int}
  {stop : Option Int} {r : Nat}

theorem get_natCast {t : Token} {n : Nat} (h : s.tokens[n]? = some t) : s.get n = .ok t := by
  rw [get_eq_ok_iff, get?_natCast, h]

theorem get?_eq_none {index : Int} (h : ¬(0 ≤ index ∧ index < s.length)) :
    s.get? index = none := by
  rw [Option.eq_none_iff_forall_ne_some]
  intro token htoken
  exact h (get_isOk_iff.1 ⟨token, get_eq_ok_iff.2 htoken⟩)

/-! ## Forward -/

/-- Where a search stops. -/
def stopAt (s : TokenSequence) : Option Int → Nat
  | none => s.length
  | some stop => (min stop s.length).toNat

theorem stopAt_of_lt {c : Nat} (h : c < s.length) : s.stopAt (some ((c : Int) + 1)) = c + 1 := by
  simp only [stopAt]
  omega

theorem lt_stopAt_iff {i : Nat} :
    i < s.stopAt stop ↔ (i : Int) < stop.getD s.length ∧ i < s.length := by
  cases stop <;> simp only [stopAt, Option.getD_none, Option.getD_some] <;> omega

theorem findNextBy_eq (s : TokenSequence) (p : Token → Bool) (start : Int) (stop : Option Int) :
    s.findNextBy p start stop = firstIn p s.tokens start.toNat (s.stopAt stop) := by
  cases stop <;> rfl

theorem findNextBy_eq_some_iff : s.findNextBy p start stop = some r ↔
    start ≤ r ∧ (r : Int) < stop.getD s.length ∧ s.tokens[r]?.any p = true ∧
      ∀ j : Nat, start ≤ j → j < r → s.tokens[j]?.any p = false := by
  rw [findNextBy_eq, firstIn_eq_some_iff, lt_stopAt_iff]
  constructor
  · intro h
    obtain ⟨hstart, ⟨hstop, -⟩, hr, hbefore⟩ := h
    exact ⟨by omega, hstop, hr, fun j hj hjr => hbefore j (by omega) hjr⟩
  · intro h
    obtain ⟨hstart, hstop, hr, hbefore⟩ := h
    have hlt : r < s.length := lt_length_of_any hr
    exact ⟨by omega, ⟨hstop, hlt⟩, hr, fun j hj hjr => hbefore j (by omega) hjr⟩

theorem findNextBy_eq_none_iff : s.findNextBy p start stop = none ↔
    ∀ j : Nat, start ≤ j → (j : Int) < stop.getD s.length → s.tokens[j]?.any p = false := by
  rw [findNextBy_eq, firstIn_eq_none_iff]
  constructor
  · intro hno j hstart hstop
    apply any_eq_false_of_lt
    intro hlt
    exact hno j (by omega) (lt_stopAt_iff.2 ⟨hstop, hlt⟩)
  · intro hno j hstart hstop
    exact hno j (by omega) (lt_stopAt_iff.1 hstop).1

/-! ## Backward -/

theorem findPrevious_eq_some_iff : s.findPrevious test start stop = some r ↔
    stop.getD 0 ≤ r ∧ r ≤ start ∧ s.tokens[r]?.any (test.accepts ·.kind) = true ∧
      ∀ j : Nat, r < j → j ≤ start → s.tokens[j]?.any (test.accepts ·.kind) = false := by
  rw [findPrevious, lastIn_eq_some_iff]
  constructor
  · intro h
    obtain ⟨hstop, hstart, hr, hafter⟩ := h
    refine ⟨by omega, by omega, hr, fun j hrj hj => ?_⟩
    apply any_eq_false_of_lt
    intro (hlt : j < s.length)
    exact hafter j hrj (by omega)
  · intro h
    obtain ⟨hstop, hstart, hr, hafter⟩ := h
    have hlt : r < s.length := lt_length_of_any hr
    exact ⟨by omega, by omega, hr, fun j hrj hj => hafter j hrj (by omega)⟩

theorem findPrevious_eq_none_iff : s.findPrevious test start stop = none ↔
    ∀ j : Nat, stop.getD 0 ≤ j → j ≤ start →
      s.tokens[j]?.any (test.accepts ·.kind) = false := by
  rw [findPrevious, lastIn_eq_none_iff]
  constructor
  · intro hno j hstop hstart
    apply any_eq_false_of_lt
    intro (hlt : j < s.length)
    exact hno j (by omega) (by omega)
  · intro hno j hstop hstart
    exact hno j (by omega) (by omega)

end DocLint.TokenSequence
