import DocLint.Search

/-!
# Moving a search

Two searches agree, up to a shift of the positions, if the entries that they
look at are accepted alike. Entries after the one that is found play no part.

Results:
* `firstIn_shift`: a search in another list, further down.
* `firstIn_shift_of_any`: a search that would go on, but finds something before
  anything differs.
* `firstIn_of_append`, `firstIn_of_split`, `lastIn_of_split`: a search by the
  parts of the list.
* `firstIn_congr`, `lastIn_congr`, `firstIn_map`, `firstIn_take`, `lastIn_take`: a
  search looks at the entries between its bounds only.
* `firstIn_extend`, `firstIn_skip`: a search that succeeds may go on further,
  and one that accepts nothing at first may start later.
-/
namespace DocLint

variable {α β : Type} {p : α → Bool} {q : β → Bool} {xs : List α} {ys : List β}

theorem firstIn_shift (m : Nat) {lo hi : Nat}
    (h : ∀ j, lo ≤ j → j < hi → ys[m + j]?.any q = xs[j]?.any p) :
    firstIn q ys (m + lo) (m + hi) = (firstIn p xs lo hi).map (m + ·) := by
  cases hx : firstIn p xs lo hi with
  | none =>
    rw [firstIn_eq_none_iff] at hx
    rw [Option.map_none, firstIn_eq_none_iff]
    intro j h1 h2
    obtain ⟨k, rfl⟩ := Nat.exists_eq_add_of_le (show m ≤ j by omega)
    rw [h k (by omega) (by omega)]
    exact hx k (by omega) (by omega)
  | some i =>
    obtain ⟨h1, h2, h3, h4⟩ := firstIn_eq_some_iff.1 hx
    rw [Option.map_some, firstIn_eq_some_iff]
    refine ⟨by omega, by omega, by rw [h i h1 h2]; exact h3, fun j hj1 hj2 => ?_⟩
    obtain ⟨k, rfl⟩ := Nat.exists_eq_add_of_le (show m ≤ j by omega)
    rw [h k (by omega) (by omega)]
    exact h4 k (by omega) (by omega)

/-- Only the entries between the bounds are looked at. -/
theorem firstIn_congr {lo hi : Nat}
    (h : ∀ j, lo ≤ j → j < hi → ys[j]?.any q = xs[j]?.any p) :
    firstIn q ys lo hi = firstIn p xs lo hi := by
  have hshift : firstIn q ys (0 + lo) (0 + hi) = (firstIn p xs lo hi).map (0 + ·) := by
    apply firstIn_shift
    intro j h1 h2
    rw [Nat.zero_add]
    exact h j h1 h2
  simpa using hshift

theorem lastIn_congr {lo hi : Nat}
    (h : ∀ j, lo ≤ j → j < hi → ys[j]?.any q = xs[j]?.any p) :
    lastIn q ys lo hi = lastIn p xs lo hi := by
  cases hx : lastIn p xs lo hi with
  | none =>
    rw [lastIn_eq_none_iff] at hx ⊢
    intro j h1 h2
    rw [h j h1 h2]
    exact hx j h1 h2
  | some i =>
    rw [lastIn_eq_some_iff] at hx ⊢
    obtain ⟨h1, h2, h3, h4⟩ := hx
    refine ⟨h1, h2, ?_, ?_⟩
    · rw [h i h1 h2]
      exact h3
    · intro j hij hj
      rw [h j (by omega) hj]
      exact h4 j hij hj

theorem firstIn_map (f : α → β) (xs : List α) (lo hi : Nat) :
    firstIn q (xs.map f) lo hi = firstIn (fun x => q (f x)) xs lo hi := by
  apply firstIn_congr
  intro j _ _
  rw [List.getElem?_map, Option.any_map]

theorem firstIn_take {lo hi n : Nat} (h : hi ≤ n) :
    firstIn p (xs.take n) lo hi = firstIn p xs lo hi := by
  apply firstIn_congr
  intro j _ hj
  rw [List.getElem?_take_of_lt (by omega)]

theorem lastIn_take {lo hi n : Nat} (h : hi ≤ n) :
    lastIn p (xs.take n) lo hi = lastIn p xs lo hi := by
  apply lastIn_congr
  intro j _ hj
  rw [List.getElem?_take_of_lt (by omega)]

/-- A search from the end of `before` passes over `skip` and finds `x`. -/
theorem firstIn_of_append {before skip rest : List α} {x : α} {hi : Nat}
    (hskip : ∀ y ∈ skip, p y = false) (hx : p x = true) (hhi : before.length + skip.length < hi) :
    firstIn p (before ++ (skip ++ x :: rest)) before.length hi =
      some (before.length + skip.length) := by
  rw [firstIn_eq_some_iff]
  refine ⟨by omega, hhi, ?_, fun j h1 h2 => ?_⟩
  · rw [List.getElem?_append_right (by omega), Nat.add_sub_cancel_left,
      List.getElem?_append_right (Nat.le_refl _), Nat.sub_self, List.getElem?_cons_zero]
    simpa using hx
  · rw [List.getElem?_append_right h1, List.getElem?_append_left (by omega)]
    cases hy : skip[j - before.length]? with
    | none => rfl
    | some y => simpa using hskip y (List.mem_of_getElem? hy)

/-- The same, for a list that is cut up as it is needed. -/
theorem firstIn_of_split {before skip rest : List α} {x : α} {lo hi : Nat}
    (hxs : xs = before ++ (skip ++ x :: rest)) (hlo : before.length = lo)
    (hskip : ∀ y ∈ skip, p y = false) (hx : p x = true) (hhi : lo + skip.length < hi) :
    firstIn p xs lo hi = some (lo + skip.length) := by
  subst hxs hlo
  exact firstIn_of_append hskip hx hhi

/-- A search from the end passes over `rest` and finds `x`. -/
theorem lastIn_of_split {before rest : List α} {x : α} (hxs : xs = before ++ x :: rest)
    (hx : p x = true) (hrest : ∀ y ∈ rest, p y = false) :
    lastIn p xs 0 xs.length = some before.length := by
  subst hxs
  rw [lastIn_eq_some_iff]
  refine ⟨by omega, by simp, by simpa using hx, fun j h1 h2 => ?_⟩
  obtain ⟨k, rfl⟩ := Nat.exists_eq_add_of_le h1
  rw [List.getElem?_append_right (by omega), show before.length.succ + k - before.length = k + 1 by
    omega, List.getElem?_cons_succ]
  cases hy : rest[k]? with
  | none => rfl
  | some y => simpa using hrest y (List.mem_of_getElem? hy)

/-- A search that succeeds finds the same if it may go on further. -/
theorem firstIn_extend {lo hi hi' i : Nat} (h : firstIn p xs lo hi = some i) (hle : hi ≤ hi') :
    firstIn p xs lo hi' = some i := by
  rw [firstIn_eq_some_iff] at h ⊢
  exact ⟨h.1, by omega, h.2.2⟩

/-- A search may start later if nothing is accepted in between. -/
theorem firstIn_skip {lo lo' hi : Nat} (h : lo ≤ lo')
    (hno : ∀ j, lo ≤ j → j < lo' → xs[j]?.any p = false) :
    firstIn p xs lo hi = firstIn p xs lo' hi := by
  cases hx : firstIn p xs lo' hi with
  | none =>
    rw [firstIn_eq_none_iff] at hx ⊢
    intro j h1 h2
    by_cases hj : j < lo'
    · exact hno j h1 hj
    · exact hx j (by omega) h2
  | some k =>
    rw [firstIn_eq_some_iff] at hx ⊢
    obtain ⟨h1, h2, h3, h4⟩ := hx
    refine ⟨by omega, h2, h3, fun j hj1 hj2 => ?_⟩
    by_cases hj : j < lo'
    · exact hno j hj1 hj
    · exact h4 j (by omega) hj2

theorem isSome_firstIn {lo hi i : Nat} (h1 : lo ≤ i) (h2 : i < hi) (hp : xs[i]?.any p = true) :
    ∃ k, firstIn p xs lo hi = some k ∧ k ≤ i := by
  cases h : firstIn p xs lo hi with
  | none =>
    rw [firstIn_eq_none_iff] at h
    rw [h i h1 h2] at hp
    cases hp
  | some k =>
    obtain ⟨-, -, -, h4⟩ := firstIn_eq_some_iff.1 h
    refine ⟨k, rfl, ?_⟩
    by_cases hk : k ≤ i
    · exact hk
    · rw [h4 i h1 (by omega)] at hp
      cases hp

theorem lt_length_of_any {i : Nat} (h : xs[i]?.any p = true) : i < xs.length := by
  obtain ⟨x, hx, -⟩ := (Option.any_eq_true ..).1 h
  exact (List.getElem?_eq_some_iff.1 hx).1

theorem any_eq_false_of_lt {i : Nat} (h : i < xs.length → xs[i]?.any p = false) :
    xs[i]?.any p = false := by
  rw [Bool.eq_false_iff]
  intro hany
  rw [h (lt_length_of_any hany)] at hany
  cases hany

/-- Two searches up to the ends of their lists agree if an entry is accepted
before anything differs. -/
theorem firstIn_shift_of_any (m : Nat) {lo e : Nat} (hle : lo ≤ e)
    (h : ∀ j, lo ≤ j → j ≤ e → ys[m + j]?.any q = xs[j]?.any p) (he : xs[e]?.any p = true) :
    ∃ k, lo ≤ k ∧ k ≤ e ∧ firstIn p xs lo xs.length = some k ∧
      firstIn q ys (m + lo) ys.length = some (m + k) := by
  obtain ⟨k, hk, hke⟩ := isSome_firstIn hle (Nat.lt_succ_self e) he
  have hk' := firstIn_shift m fun j h1 h2 => h j h1 (Nat.le_of_lt_succ h2)
  rw [hk, Option.map_some] at hk'
  have hlt := lt_length_of_any he
  have hlt' := lt_length_of_any ((h e hle (Nat.le_refl e)).trans he)
  exact ⟨k, (firstIn_eq_some_iff.1 hk).1, hke, firstIn_extend hk hlt, firstIn_extend hk' hlt'⟩

end DocLint
