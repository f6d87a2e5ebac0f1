import DocLint.Token.OfLexemes

/-!
# Lexemes and their places

`place` sends a lexeme's position to a position in the token sequence. On kept
lexemes it is a strictly increasing map onto the positions after the open tag.

Results:
* `getElem?_ofLexemes_place`: the token at the place of a kept lexeme is the
  token of that lexeme.
* `exists_lexeme_of_token`: every token after the open tag is the token of a
  kept lexeme at its place.
* `place_lt_place_iff`: places of kept lexemes are in the order of the lexemes.
* `take_place`: what stands before a place, for any position in the file.
-/
namespace DocLint

/-! ## Filtered lists by position -/

/-- An entry of a filtered list stands where the number of accepted entries
before it says. -/
theorem getElem?_filter_eq_some_iff {α : Type} {p : α → Bool} {xs : List α} {j : Nat} {a : α} :
    (xs.filter p)[j]? = some a ↔ ∃ i, xs[i]? = some a ∧ p a = true ∧ (xs.take i).countP p = j := by
  induction xs generalizing j with
  | nil => simp
  | cons x rest ih =>
    constructor
    · intro h
      by_cases hx : p x = true
      · rw [List.filter_cons_of_pos hx] at h
        cases j with
        | zero =>
          rw [List.getElem?_cons_zero, Option.some.injEq] at h
          subst h
          exact ⟨0, rfl, hx, rfl⟩
        | succ j =>
          obtain ⟨i, hi, ha, hj⟩ := ih.1 (by simpa using h)
          exact ⟨i + 1, by simpa using hi, ha, by simp [hx, hj]⟩
      · rw [List.filter_cons_of_neg hx] at h
        obtain ⟨i, hi, ha, hj⟩ := ih.1 h
        exact ⟨i + 1, by simpa using hi, ha, by simp [hx, hj]⟩
    · rintro ⟨i, hi, ha, rfl⟩
      cases i with
      | zero =>
        rw [List.getElem?_cons_zero, Option.some.injEq] at hi
        subst hi
        simp [List.filter_cons_of_pos ha]
      | succ i =>
        have := ih.2 ⟨i, by simpa using hi, ha, rfl⟩
        by_cases hx : p x = true <;> simpa [List.filter_cons, hx] using this

/-- The accepted entries of a prefix are a prefix of the accepted entries. -/
theorem take_filter_countP {α : Type} (p : α → Bool) (xs : List α) (i : Nat) :
    (xs.filter p).take ((xs.take i).countP p) = (xs.take i).filter p := by
  conv => lhs; arg 2; rw [← List.take_append_drop i xs]
  rw [List.filter_append, List.countP_eq_length_filter]
  exact List.take_left

theorem countP_take_zipIdx (p : Lexeme → Bool) (xs : List Lexeme) (i : Nat) :
    (xs.zipIdx.take i).countP (fun x => p x.1) = (xs.take i).countP p := by
  have h : (xs.zipIdx.take i).map Prod.fst = xs.take i := by
    rw [List.map_take, List.zipIdx_map_fst]
  rw [← h, List.countP_map]
  rfl

/-! ## Places -/

variable {xs : List Lexeme} {i j : Nat} {x y : Lexeme}

theorem place_pos (xs : List Lexeme) (i : Nat) : 0 < place xs i := Nat.succ_pos _

theorem place_le_place (xs : List Lexeme) (h : i ≤ j) : place xs i ≤ place xs j := by
  unfold place
  have : (xs.take i).Sublist (xs.take j) := by
    rw [← Nat.min_eq_left h, ← List.take_take]
    exact List.take_sublist _ _
  exact Nat.succ_le_succ this.countP_le

theorem place_succ (hx : xs[i]? = some x) (hk : x.isKept = true) :
    place xs (i + 1) = place xs i + 1 := by
  unfold place
  rw [List.take_add_one, hx, Option.toList_some, List.countP_append]
  simp [hk]

theorem place_lt_place (hx : xs[i]? = some x) (hk : x.isKept = true) (h : i < j) :
    place xs i < place xs j := by
  have h1 := place_succ hx hk
  have h2 := place_le_place xs (show i + 1 ≤ j by omega)
  omega

theorem place_lt_place_iff (hx : xs[i]? = some x) (hk : x.isKept = true) (hy : xs[j]? = some y)
    (hky : y.isKept = true) : place xs i < place xs j ↔ i < j := by
  refine ⟨fun h => ?_, place_lt_place hx hk⟩
  rcases Nat.lt_trichotomy i j with hij | rfl | hji
  · exact hij
  · omega
  · have := place_lt_place hy hky hji
    omega

theorem place_injective (hx : xs[i]? = some x) (hk : x.isKept = true) (hy : xs[j]? = some y)
    (hky : y.isKept = true) (h : place xs i = place xs j) : i = j := by
  have h1 := place_lt_place_iff hx hk hy hky
  have h2 := place_lt_place_iff hy hky hx hk
  omega

theorem place_append_right (pre xs : List Lexeme) (i : Nat) :
    place (pre ++ xs) (pre.length + i) = pre.countP Lexeme.isKept + place xs i := by
  unfold place
  rw [List.take_length_add_append, List.countP_append]
  omega

theorem place_append_left (xs post : List Lexeme) (h : i ≤ xs.length) :
    place (xs ++ post) i = place xs i := by
  unfold place
  rw [List.take_append_of_le_length h]

/-! ## The token sequence of a file -/

theorem any_isKept (hx : xs[i]? = some x) (hk : x.isKept = true) : xs.any Lexeme.isKept = true :=
  List.any_eq_true.2 ⟨x, List.mem_of_getElem? hx, hk⟩

theorem tokens_ofLexemes (h : xs.any Lexeme.isKept = true) :
    (TokenSequence.ofLexemes xs).tokens =
      TokenSequence.openTag :: (xs.zipIdx.filter fun x => x.1.isKept).map fun x =>
        x.1.toToken xs (docStrings xs) x.2 := by
  simp [TokenSequence.ofLexemes, h]

theorem tokens_ofLexemes_of_dropped (h : ∀ x ∈ xs, x.isKept = false) :
    (TokenSequence.ofLexemes xs).tokens = [] := by
  have : xs.any Lexeme.isKept = false := by simpa using h
  simp [TokenSequence.ofLexemes, this]

theorem getElem?_ofLexemes_succ {t : Token} {n : Nat} :
    (TokenSequence.ofLexemes xs).tokens[n + 1]? = some t ↔ ∃ i x, xs[i]? = some x ∧
      x.isKept = true ∧ place xs i = n + 1 ∧ t = x.toToken xs (docStrings xs) i := by
  by_cases h : xs.any Lexeme.isKept = true
  · rw [tokens_ofLexemes h, List.getElem?_cons_succ, List.getElem?_map, Option.map_eq_some_iff]
    constructor
    · rintro ⟨⟨x, i⟩, hx, rfl⟩
      obtain ⟨k, hk, hkept, hcount⟩ := getElem?_filter_eq_some_iff.1 hx
      rw [countP_take_zipIdx] at hcount
      rw [List.getElem?_zipIdx, Option.map_eq_some_iff] at hk
      obtain ⟨y, hy, hyx⟩ := hk
      simp only [Prod.mk.injEq, Nat.zero_add] at hyx
      obtain ⟨rfl, rfl⟩ := hyx
      exact ⟨k, y, hy, hkept, by rw [place, hcount], rfl⟩
    · rintro ⟨i, x, hx, hk, hplace, rfl⟩
      refine ⟨(x, i), getElem?_filter_eq_some_iff.2 ⟨i, ?_, hk, ?_⟩, rfl⟩
      · simp [List.getElem?_zipIdx, hx]
      · rw [countP_take_zipIdx]
        simpa [place] using hplace
  · refine ⟨fun ht => ?_, fun ⟨i, x, hx, hk, _⟩ => absurd (any_isKept hx hk) h⟩
    rw [tokens_ofLexemes_of_dropped (by simpa using h)] at ht
    simp at ht

/-- The token at the place of a kept lexeme. -/
theorem getElem?_ofLexemes_place (hx : xs[i]? = some x) (hk : x.isKept = true) :
    (TokenSequence.ofLexemes xs).tokens[place xs i]? =
      some (x.toToken xs (docStrings xs) i) :=
  getElem?_ofLexemes_succ.2 ⟨i, x, hx, hk, rfl, rfl⟩

theorem getElem?_ofLexemes_zero (h : xs.any Lexeme.isKept = true) :
    (TokenSequence.ofLexemes xs).tokens[0]? = some TokenSequence.openTag := by
  rw [tokens_ofLexemes h, List.getElem?_cons_zero]

/-- Every token is the open tag or the token of a kept lexeme. -/
theorem exists_lexeme_of_token {t : Token} {n : Nat}
    (h : (TokenSequence.ofLexemes xs).tokens[n]? = some t) :
    (n = 0 ∧ t = TokenSequence.openTag) ∨ ∃ i x, xs[i]? = some x ∧ x.isKept = true ∧
      place xs i = n ∧ t = x.toToken xs (docStrings xs) i := by
  cases n with
  | zero =>
    by_cases hany : xs.any Lexeme.isKept = true
    · rw [getElem?_ofLexemes_zero hany, Option.some.injEq] at h
      exact Or.inl ⟨rfl, h.symm⟩
    · rw [tokens_ofLexemes_of_dropped (by simpa using hany)] at h
      simp at h
  | succ n => exact Or.inr (getElem?_ofLexemes_succ.1 h)

theorem place_lt_length (hx : xs[i]? = some x) (hk : x.isKept = true) :
    place xs i < (TokenSequence.ofLexemes xs).length :=
  (List.getElem?_eq_some_iff.1 (getElem?_ofLexemes_place hx hk)).1

/-- What stands before a place: the open tag, and the tokens of the kept
lexemes before the position. -/
theorem take_place (h : xs.any Lexeme.isKept = true) (i : Nat) :
    (TokenSequence.ofLexemes xs).tokens.take (place xs i) =
      TokenSequence.openTag :: ((xs.zipIdx.take i).filter fun x => x.1.isKept).map fun x =>
        x.1.toToken xs (docStrings xs) x.2 := by
  rw [tokens_ofLexemes h, place, List.take_succ_cons, ← List.map_take, ← countP_take_zipIdx,
    take_filter_countP]

end DocLint
