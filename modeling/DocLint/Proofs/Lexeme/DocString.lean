import DocLint.Proofs.Lexeme.Header
import DocLint.Proofs.Lexeme.Scope
import DocLint.Token.OfLexemes

/-!
# The layout of any declaration, and its documenting string

Nothing is assumed of the lexemes here: brackets may close that never opened,
and lines, blocks and colons may be missing.

Results:
* `Layout.Sound`, `sound_ofDeclaration`: the parts of a declaration are kept
  lexemes of the right kind and in the right order.
* `docString?_eq_some_iff`: the documenting string is the first lexeme after
  the colon that can start a statement.
* `mem_docStrings`: the strings that document some declaration.
-/
namespace DocLint

variable {xs : List Lexeme} {k : Nat} {x : Lexeme}

theorem Lexeme.type_of_isDeclaration (h : x.isDeclaration = true) : x.type = .name := by
  simp only [Lexeme.isDeclaration, Bool.and_eq_true, beq_iff_eq] at h
  exact h.1

theorem Lexeme.isKept_of_isDeclaration (h : x.isDeclaration = true) : x.isKept = true := by
  simp [Lexeme.isKept, Lexeme.type_of_isDeclaration h, LexemeType.isKept]

theorem Lexeme.isKept_of_string (h : x.type = .string) : x.isKept = true := by
  simp [Lexeme.isKept, h, LexemeType.isKept]

theorem mem_declarations : k ∈ declarations xs ↔ ∃ x, xs[k]? = some x ∧ x.isDeclaration = true := by
  simp only [declarations, List.mem_filter, List.mem_range, Option.any_eq_true]
  refine ⟨fun h => h.2, fun ⟨x, hx, hd⟩ => ⟨?_, x, hx, hd⟩⟩
  exact (List.getElem?_eq_some_iff.1 hx).1

namespace Layout

/-! ## The order of the parts -/

/-- What can be said of the layout of the declaration at `k`, whatever the
lexemes are. -/
structure Sound (xs : List Lexeme) (k : Nat) (l : Layout) : Prop where
  scopeOpener : ∀ o, l.scopeOpener = some o →
    k < o ∧ ∃ x, xs[o]? = some x ∧ x.isOperator ":" = true
  scopeCloser : l.scopeCloser = l.scopeOpener.map (scopeEnd xs)
  parenOpener : ∀ a, l.parenOpener = some a →
    k < a ∧ (∃ x, xs[a]? = some x ∧ x.isOperator "(" = true) ∧
      ∀ o, l.scopeOpener = some o → a < o
  parenCloser : ∀ b, l.parenCloser = some b → ∃ a x, l.parenOpener = some a ∧ a < b ∧
    xs[b]? = some x ∧ x.closesBracket = true ∧
    bracketDepth (xs.take (b + 1)) = bracketDepth (xs.take a) ∧
    (∀ j, a < j → j ≤ b → bracketDepth (xs.take a) < bracketDepth (xs.take j)) ∧
    ∀ o, l.scopeOpener = some o → b < o
  closed : l.scopeOpener.isSome = true → l.parenOpener.isSome = true →
    l.parenCloser.isSome = true

theorem scopeCloser_ofDeclaration (xs : List Lexeme) (k : Nat) :
    (ofDeclaration xs k).scopeCloser = (ofDeclaration xs k).scopeOpener.map (scopeEnd xs) := rfl

/-- The scan of a header, as a cut of the lexemes after the keyword. -/
theorem exists_header (hx : xs[k]? = some x) : ∃ before words rest,
    xs = before ++ x :: (words ++ rest) ∧ before.length = k ∧ (∀ y ∈ words, y.type ≠ .newline) ∧
    Header.Traced (k + 1) words (Header.scan {} 0 (k + 1) (xs.drop (k + 1))) ∧
    Header.Stops (k + 1) words (Header.scan {} 0 (k + 1) (xs.drop (k + 1))) rest := by
  obtain ⟨hlt, hget⟩ := List.getElem?_eq_some_iff.1 hx
  obtain ⟨words, rest, e, hn, ht, hs⟩ := Header.scan_traced (xs.drop (k + 1)) [] {}
    (Header.traced_nil (k + 1)) rfl (by simp)
  refine ⟨xs.take k, words, rest, ?_, by rw [List.length_take]; omega, hn, ht, hs⟩
  rw [← e, List.nil_append, ← hget, ← List.drop_eq_getElem_cons hlt, List.take_append_drop]

theorem sound_ofDeclaration (hx : xs[k]? = some x) : Sound xs k (ofDeclaration xs k) := by
  obtain ⟨before, words, rest, hxs, hk, -, ht, hs⟩ := exists_header hx
  have hget : ∀ i, xs[k + 1 + i]? = (words ++ rest)[i]? := fun i => by
    rw [hxs, List.getElem?_append_right (by omega), show k + 1 + i - before.length = i + 1 by omega,
      List.getElem?_cons_succ]
  have hword : ∀ i y, words[i]? = some y → xs[k + 1 + i]? = some y := fun i y hy => by
    rw [hget, List.getElem?_append_left (List.getElem?_eq_some_iff.1 hy).1, hy]
  -- Depths in the file differ from depths in the header by the depth at the keyword.
  have hdepth : ∀ i, i ≤ words.length → bracketDepth (xs.take (k + 1 + i)) =
      bracketDepth before + x.bracketStep + bracketDepth (words.take i) := fun i hi => by
    rw [hxs, ← hk, Nat.add_assoc, List.take_length_add_append, Nat.add_comm 1,
      List.take_succ_cons, List.take_append_of_le_length hi]
    simp [Int.add_assoc]
  have hscope : ∀ o, (ofDeclaration xs k).scopeOpener = some o → o = k + 1 + words.length ∧
      ∃ y, xs[o]? = some y ∧ y.isOperator ":" = true ∧ bracketDepth words = 0 := by
    intro o ho
    cases hs with
    | atEnd hnone => cases ho.symm.trans hnone
    | atNewline y rest' _ hnone => cases ho.symm.trans hnone
    | atColon y rest' hy hz hsome =>
      have e := ho.symm.trans hsome
      rw [Option.some.injEq] at e
      refine ⟨e, y, ?_, hy, hz⟩
      rw [e, hget, List.getElem?_append_right (Nat.le_refl _), Nat.sub_self]
      rfl
  refine ⟨?_, rfl, ?_, ?_, ?_⟩
  · intro o ho
    obtain ⟨rfl, y, hy, hc, -⟩ := hscope o ho
    exact ⟨by omega, y, hy, hc⟩
  · intro a ha
    obtain ⟨i, y, rfl, hy, hp, -⟩ := ht.opener a ha
    have hlt := (List.getElem?_eq_some_iff.1 hy).1
    refine ⟨by omega, ⟨y, hword i y hy, hp⟩, fun o ho => ?_⟩
    obtain ⟨rfl, -⟩ := hscope o ho
    omega
  · intro b hb
    obtain ⟨i, j, y, rfl, ha, hij, hy, hcl, hz, hm⟩ := ht.closer b hb
    have hlt := (List.getElem?_eq_some_iff.1 hy).1
    obtain ⟨i', z, hi', -, -, hzero⟩ := ht.opener _ ha
    obtain rfl : i = i' := by omega
    refine ⟨k + 1 + i, y, ha, by omega, hword j y hy, hcl, ?_, fun m h1 h2 => ?_, fun o ho => ?_⟩
    · rw [Nat.add_assoc, hdepth (j + 1) (by omega), hdepth i (by omega), hz, hzero]
    · obtain ⟨n, rfl⟩ := Nat.exists_eq_add_of_le (show k + 1 ≤ m by omega)
      rw [hdepth n (by omega), hdepth i (by omega), hzero]
      have := hm n (by omega) (by omega)
      omega
    · obtain ⟨rfl, -⟩ := hscope o ho
      omega
  · intro ho hp
    obtain ⟨o, ho⟩ := Option.isSome_iff_exists.1 ho
    obtain ⟨a, ha⟩ := Option.isSome_iff_exists.1 hp
    obtain ⟨-, y, -, -, hzero⟩ := hscope o ho
    cases hc : (ofDeclaration xs k).parenCloser with
    | some b => rfl
    | none =>
      obtain ⟨i, z, rfl, hz, -⟩ := ht.opener a ha
      have := ht.depth_pos ha hc
      omega

theorem sound_of_mem (hk : k ∈ declarations xs) : Sound xs k (ofDeclaration xs k) := by
  obtain ⟨x, hx, -⟩ := mem_declarations.1 hk
  exact sound_ofDeclaration hx

/-! ## The documenting string -/

/-- The string at `d` is a statement on its own. -/
def StandsAlone (xs : List Lexeme) (d : Nat) : Prop :=
  (∃ x, xs[d]? = some x ∧ x.type = .string) ∧
    ∃ after, firstIn (·.type != .comment) xs (d + 1) xs.length = some after ∧
      xs[after]?.any endsStatement = true

variable {l : Layout} {d : Nat}

/-- The documenting string is the first lexeme after the colon that can start a
statement, if it lies in the scope and stands alone. -/
theorem docString?_eq_some_iff : l.docString? xs = some d ↔ ∃ o c, l.scopeOpener = some o ∧
    l.scopeCloser = some c ∧ firstIn (fun x => !isBodySkip x) xs (o + 1) xs.length = some d ∧
    d ≤ c ∧ StandsAlone xs d := by
  have hbound : ∀ o c, firstIn (fun x => !isBodySkip x) xs (o + 1) (min (c + 1) xs.length) =
      some d ↔ firstIn (fun x => !isBodySkip x) xs (o + 1) xs.length = some d ∧ d ≤ c := by
    intro o c
    simp only [firstIn_eq_some_iff]
    constructor
    · rintro ⟨h1, h2, h3⟩
      exact ⟨⟨h1, by omega, h3⟩, by omega⟩
    · rintro ⟨⟨h1, h2, h3⟩, h4⟩
      exact ⟨h1, by omega, h3⟩
  have hstring : xs[d]?.any (·.type == .string) = true ↔ ∃ x, xs[d]? = some x ∧ x.type = .string := by
    simp [Option.any_eq_true]
  simp only [docString?, Option.bind_eq_bind, Option.bind_eq_some_iff, StandsAlone, ← hstring]
  constructor
  · rintro ⟨o, ho, c, hc, i, hi, after, ha, h⟩
    split at h
    · next hcond =>
      rw [Option.some.injEq] at h
      subst h
      rw [Bool.and_eq_true] at hcond
      obtain ⟨h1, h2⟩ := (hbound o c).1 hi
      exact ⟨o, c, ho, hc, h1, h2, hcond.1, after, ha, hcond.2⟩
    · cases h
  · rintro ⟨o, c, ho, hc, h1, h2, hs, after, ha, he⟩
    exact ⟨o, ho, c, hc, d, (hbound o c).2 ⟨h1, h2⟩, after, ha, by rw [hs, he]; rfl⟩

theorem docString_kept (h : l.docString? xs = some d) :
    ∃ x, xs[d]? = some x ∧ x.isKept = true := by
  obtain ⟨o, c, -, -, -, -, ⟨x, hx, hs⟩, -⟩ := docString?_eq_some_iff.1 h
  exact ⟨x, hx, Lexeme.isKept_of_string hs⟩

end Layout

theorem mem_docStrings {d : Nat} : d ∈ docStrings xs ↔ ∃ k ∈ declarations xs,
    (Layout.ofDeclaration xs k).docString? xs = some d := by
  simp [docStrings]

theorem type_of_mem_docStrings {d : Nat} (h : d ∈ docStrings xs) (hx : xs[d]? = some x) :
    x.type = .string := by
  obtain ⟨k, -, hk⟩ := mem_docStrings.1 h
  obtain ⟨o, c, -, -, -, -, ⟨y, hy, ht⟩, -⟩ := Layout.docString?_eq_some_iff.1 hk
  rw [hx, Option.some.injEq] at hy
  rw [hy, ht]

end DocLint
