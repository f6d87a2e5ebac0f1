import DocLint.Proofs.Lexeme.DocString
import DocLint.Proofs.Token.Placement
import Mathlib.Data.List.Forall2

/-!
# The structure of a token sequence

What `TokenSequence.ofLexemes` promises for every list of lexemes, well formed
or not.

Results:
* `Layout.Sound.toExtent?`: every part of a declaration has a place.
* `forall₂_renders`: the tokens after the open tag are the kept lexemes in
  order.
* `extent_sound`: the positions that a declaration's token holds are in range,
  in order and at tokens of the right text.
* `ofLexemes_structure`: all of this together.
-/
namespace DocLint

variable {xs : List Lexeme} {i : Nat} {x : Lexeme}

/-! ## The token of a lexeme -/

/-- A token with the text and the position of a lexeme, and with its class,
unless it is a string that documents a declaration. -/
structure Token.Renders (t : Token) (x : Lexeme) : Prop where
  text : t.text = x.text
  line : t.line = x.line
  column : t.column = x.column
  kind : t.kind = x.kind ∨ x.type = .string ∧ t.kind = .docComment

theorem kind_toToken_of_mem (h : i ∈ docStrings xs) :
    (x.toToken xs (docStrings xs) i).kind = .docComment := by
  simp [Lexeme.toToken, h]

theorem kind_toToken_of_not_mem (h : i ∉ docStrings xs) :
    (x.toToken xs (docStrings xs) i).kind = x.kind := by
  simp [Lexeme.toToken, h]

theorem renders_toToken (hx : xs[i]? = some x) : (x.toToken xs (docStrings xs) i).Renders x where
  text := rfl
  line := rfl
  column := rfl
  kind := by
    by_cases h : i ∈ docStrings xs
    · exact .inr ⟨type_of_mem_docStrings h hx, kind_toToken_of_mem h⟩
    · exact .inl (kind_toToken_of_not_mem h)

theorem Lexeme.kind_eq_operator_iff : x.kind = .operator ↔ x.type = .operator ∧ x.text ≠ ";" := by
  unfold Lexeme.kind
  split <;> simp_all
  split
  · simp
  · split
    · simp
    · split <;> simp

theorem Token.Renders.isOperator {t : Token} (h : t.Renders x) {text : String} (ht : text ≠ ";") :
    t.isOperator text = x.isOperator text := by
  rw [Bool.eq_iff_iff]
  simp only [Token.isOperator, Lexeme.isOperator, Bool.and_eq_true, beq_iff_eq, h.text]
  rcases h.kind with hk | ⟨hs, hk⟩
  · rw [hk, Lexeme.kind_eq_operator_iff]
    constructor
    · rintro ⟨⟨h1, -⟩, h2⟩
      exact ⟨h1, h2⟩
    · rintro ⟨h1, h2⟩
      exact ⟨⟨h1, by rw [h2]; exact ht⟩, h2⟩
  · simp [hk, hs]

theorem Token.Renders.opensBracket {t : Token} (h : t.Renders x) :
    t.opensBracket = x.opensBracket := by
  simp only [Token.opensBracket, Lexeme.opensBracket]
  rw [h.isOperator (by decide), h.isOperator (by decide), h.isOperator (by decide)]

theorem Token.Renders.closesBracket {t : Token} (h : t.Renders x) :
    t.closesBracket = x.closesBracket := by
  simp only [Token.closesBracket, Lexeme.closesBracket]
  rw [h.isOperator (by decide), h.isOperator (by decide), h.isOperator (by decide)]

/-- Whether a token declares a function or a class. -/
def Token.isDeclaration (t : Token) : Bool := t.kind == .function || t.kind == .classKeyword

theorem Lexeme.kind_of_isDeclaration : x.isDeclaration = true ↔
    x.kind = .function ∨ x.kind = .classKeyword := by
  simp only [Lexeme.isDeclaration, Bool.and_eq_true, Bool.or_eq_true, beq_iff_eq]
  unfold Lexeme.kind
  split <;> simp_all
  · next h =>
    by_cases hd : x.text = "def"
    · simp [hd]
    · by_cases hc : x.text = "class"
      · simp [hc]
      · simp only [hd, hc, if_false]
        split <;> simp
  · split <;> simp

theorem Token.Renders.isDeclaration {t : Token} (h : t.Renders x) :
    t.isDeclaration = x.isDeclaration := by
  rw [Bool.eq_iff_iff, Lexeme.kind_of_isDeclaration]
  simp only [Token.isDeclaration, Bool.or_eq_true, beq_iff_eq]
  rcases h.kind with hk | ⟨hs, hk⟩
  · rw [hk]
  · simp [hk, Lexeme.kind, hs]

theorem isDeclaration_iff {n : Nat} {t : Token}
    (h : (TokenSequence.ofLexemes xs).tokens[n]? = some t) : t.isDeclaration = true ↔
      ∃ k ∈ declarations xs, place xs k = n := by
  constructor
  · intro hd
    rcases exists_lexeme_of_token h with ⟨-, rfl⟩ | ⟨k, x, hx, -, hp, rfl⟩
    · cases hd
    · rw [(renders_toToken hx).isDeclaration] at hd
      exact ⟨k, mem_declarations.2 ⟨x, hx, hd⟩, hp⟩
  · rintro ⟨k, hk, rfl⟩
    obtain ⟨x, hx, hd⟩ := mem_declarations.1 hk
    rw [getElem?_ofLexemes_place hx (Lexeme.isKept_of_isDeclaration hd), Option.some.injEq] at h
    rw [← h, (renders_toToken hx).isDeclaration, hd]

/-! ## Every part has a place -/

/-- The place of a lexeme. A dropped lexeme has none. -/
def place? (xs : List Lexeme) (i : Nat) : Option Nat :=
  if xs[i]?.any Lexeme.isKept then some (place xs i) else none

/-- The place of a part that a declaration may lack. -/
def partPlace? (xs : List Lexeme) : Option Nat → Option (Option Int)
  | none => some none
  | some i => match place? xs i with
    | none => none
    | some n => some (some (n : Int))

/-- A layout in terms of the token sequence, if every part has a place. -/
def Layout.toExtent? (l : Layout) (xs : List Lexeme) : Option Extent := do
  let scopeOpener ← partPlace? xs l.scopeOpener
  let scopeCloser ← partPlace? xs l.scopeCloser
  let parenOpener ← partPlace? xs l.parenOpener
  let parenCloser ← partPlace? xs l.parenCloser
  return { scopeOpener, scopeCloser, parenOpener, parenCloser }

theorem place?_eq (hx : xs[i]? = some x) (hk : x.isKept = true) :
    place? xs i = some (place xs i) := by
  simp [place?, hx, hk]

theorem partPlace?_eq {part : Option Nat}
    (h : ∀ n, part = some n → ∃ x, xs[n]? = some x ∧ x.isKept = true) :
    partPlace? xs part = some (part.map fun n => (place xs n : Int)) := by
  cases part with
  | none => rfl
  | some n =>
    obtain ⟨x, hx, hk⟩ := h n rfl
    simp [partPlace?, place?_eq hx hk]

namespace Layout

variable {k : Nat} {l : Layout}

theorem Sound.scopeOpener_kept (s : Sound xs k l) {o : Nat} (ho : l.scopeOpener = some o) :
    ∃ x, xs[o]? = some x ∧ x.isKept = true := by
  obtain ⟨-, x, hx, hc⟩ := s.scopeOpener o ho
  exact ⟨x, hx, Lexeme.isKept_of_isOperator hc⟩

theorem Sound.scopeCloser_kept (s : Sound xs k l) {c : Nat} (hc : l.scopeCloser = some c) :
    ∃ o, l.scopeOpener = some o ∧ c = scopeEnd xs o ∧ o ≤ c ∧
      ∃ x, xs[c]? = some x ∧ x.isKept = true := by
  rw [s.scopeCloser, Option.map_eq_some_iff] at hc
  obtain ⟨o, ho, rfl⟩ := hc
  obtain ⟨x, hx, hk⟩ := s.scopeOpener_kept ho
  exact ⟨o, ho, rfl, scopeEnd_mem hx hk⟩

theorem Sound.parenOpener_kept (s : Sound xs k l) {a : Nat} (ha : l.parenOpener = some a) :
    ∃ x, xs[a]? = some x ∧ x.isKept = true := by
  obtain ⟨-, ⟨x, hx, hp⟩, -⟩ := s.parenOpener a ha
  exact ⟨x, hx, Lexeme.isKept_of_isOperator hp⟩

theorem Sound.parenCloser_kept (s : Sound xs k l) {b : Nat} (hb : l.parenCloser = some b) :
    ∃ x, xs[b]? = some x ∧ x.isKept = true := by
  obtain ⟨a, x, -, -, hx, hcl, -⟩ := s.parenCloser b hb
  exact ⟨x, hx, Lexeme.isKept_of_closesBracket hcl⟩

theorem Sound.toExtent? (s : Sound xs k l) : l.toExtent? xs = some (l.toExtent xs) := by
  simp only [Layout.toExtent?, partPlace?_eq fun n => s.scopeOpener_kept,
    partPlace?_eq fun n hn => (s.scopeCloser_kept hn).elim fun _ h => h.2.2.2,
    partPlace?_eq fun n => s.parenOpener_kept, partPlace?_eq fun n => s.parenCloser_kept]
  rfl

end Layout

/-! ## Depth in a token sequence -/

/-- What a token does to the number of open brackets. -/
def Token.bracketStep (t : Token) : Int :=
  if t.opensBracket then 1 else if t.closesBracket then -1 else 0

/-- The number of brackets that the tokens from `first` to `last` leave open. -/
def TokenSequence.depthFrom (s : TokenSequence) (first last : Nat) : Int :=
  depthBy Token.bracketStep ((s.tokens.take (last + 1)).drop first)

theorem Token.Renders.bracketStep {t : Token} (h : t.Renders x) :
    t.bracketStep = x.bracketStep := by
  simp only [Token.bracketStep, Lexeme.bracketStep, h.opensBracket, h.closesBracket]

theorem Lexeme.bracketStep_of_dropped (h : x.isKept = false) : x.bracketStep = 0 := by
  refine Lexeme.bracketStep_of_not_operator fun ht => ?_
  rw [Lexeme.isKept_of_operator ht] at h
  cases h

/-- Dropped lexemes and the open tag leave the depth alone. -/
theorem depthBy_take_place (h : xs.any Lexeme.isKept = true) (i : Nat) :
    depthBy Token.bracketStep ((TokenSequence.ofLexemes xs).tokens.take (place xs i)) =
      bracketDepth (xs.take i) := by
  induction i with
  | zero =>
    rw [take_place h]
    rfl
  | succ i ih =>
    cases hx : xs[i]? with
    | none =>
      have hle := List.getElem?_eq_none_iff.1 hx
      have hp : place xs (i + 1) = place xs i := by
        simp only [place]
        rw [List.take_of_length_le hle, List.take_of_length_le (by omega)]
      rw [hp, ih, List.take_of_length_le hle, List.take_of_length_le (by omega)]
    | some x =>
      rw [List.take_add_one, hx, Option.toList_some, bracketDepth_append, ← ih]
      by_cases hk : x.isKept = true
      · rw [place_succ hx hk, List.take_add_one, getElem?_ofLexemes_place hx hk]
        rw [depthBy_append, Option.toList_some, bracketDepth_cons, bracketDepth_nil,
          ← (renders_toToken hx).bracketStep]
        rfl
      · have hp : place xs (i + 1) = place xs i := by
          simp only [place]
          rw [List.take_add_one, hx, Option.toList_some, List.countP_append]
          simp [hk]
        rw [hp]
        simp [Lexeme.bracketStep_of_dropped (by simpa using hk)]

theorem depthFrom_place {a b : Nat} {y : Lexeme} (hab : a ≤ b) (hy : xs[b]? = some y)
    (hk : y.isKept = true) : (TokenSequence.ofLexemes xs).depthFrom (place xs a) (place xs b) =
      bracketDepth (xs.take (b + 1)) - bracketDepth (xs.take a) := by
  have hany := any_isKept hy hk
  have hle := place_le_place xs hab
  have hsum := depthBy_take_place hany (b + 1)
  rw [place_succ hy hk, ← List.take_append_drop (place xs a) (List.take _ _), List.take_take,
    Nat.min_eq_left (by omega), depthBy_append, depthBy_take_place hany a] at hsum
  unfold TokenSequence.depthFrom
  omega

/-- A token between two places is the token of a lexeme between the two, so
where brackets stay open among the lexemes, they stay open among the tokens. -/
theorem depthFrom_ne_zero {a b n : Nat} {y z : Lexeme} (hz : xs[a]? = some z)
    (hkz : z.isKept = true) (hy : xs[b]? = some y) (hky : y.isKept = true)
    (hopen : ∀ j, a < j → j ≤ b → bracketDepth (xs.take a) < bracketDepth (xs.take j))
    (h1 : place xs a ≤ n) (h2 : n < place xs b) :
    (TokenSequence.ofLexemes xs).depthFrom (place xs a) n ≠ 0 := by
  have hn : n < (TokenSequence.ofLexemes xs).length := Nat.lt_trans h2 (place_lt_length hy hky)
  rcases exists_lexeme_of_token (List.getElem?_eq_getElem hn) with ⟨rfl, -⟩ |
    ⟨j, w, hw, hkw, rfl, -⟩
  · have := place_pos xs a
    omega
  · have haj : a ≤ j := by
      have := place_lt_place_iff hw hkw hz hkz
      omega
    have hjb := (place_lt_place_iff hw hkw hy hky).1 h2
    rw [depthFrom_place haj hw hkw]
    have := hopen (j + 1) (by omega) (by omega)
    omega

/-! ## The order of the parts, by their places -/

/-- What can be said of the positions that the token at `p` holds. -/
structure Extent.Sound (s : TokenSequence) (p : Nat) (e : Extent) : Prop where
  scope_isSome : e.scopeOpener.isSome = e.scopeCloser.isSome
  scope : ∀ o c, e.scopeOpener = some o → e.scopeCloser = some c →
    p < o ∧ o ≤ c ∧ c < s.length ∧ ∃ t, s.get? o = some t ∧ t.text = ":"
  parenOpener : ∀ a, e.parenOpener = some a →
    p < a ∧ (∃ t, s.get? a = some t ∧ t.text = "(") ∧ ∀ o, e.scopeOpener = some o → a < o
  /-- The closer is the first position that leads back to depth zero. -/
  parenCloser : ∀ b, e.parenCloser = some b → ∃ a, e.parenOpener = some a ∧ a < b ∧
    b < s.length ∧ s.depthFrom a.toNat b.toNat = 0 ∧
    (∀ n : Nat, a ≤ n → n < b → s.depthFrom a.toNat n ≠ 0) ∧
    ∀ o, e.scopeOpener = some o → b < o
  closed : e.scopeOpener.isSome = true → e.parenOpener.isSome = true →
    e.parenCloser.isSome = true

theorem extent_sound {k : Nat} {l : Layout} (hx : xs[k]? = some x) (hk : x.isKept = true)
    (s : l.Sound xs k) :
    (l.toExtent xs).Sound (TokenSequence.ofLexemes xs) (place xs k) := by
  have token : ∀ {n y text}, xs[n]? = some y → y.isOperator text = true →
      ∃ t, (TokenSequence.ofLexemes xs).get? (place xs n) = some t ∧ t.text = text := by
    intro n y text hy ho
    refine ⟨y.toToken xs (docStrings xs) n, ?_, Lexeme.text_eq ho⟩
    rw [TokenSequence.get?_natCast,
      getElem?_ofLexemes_place hy (Lexeme.isKept_of_isOperator ho)]
  simp only [Layout.toExtent]
  refine ⟨?_, ?_, ?_, ?_, ?_⟩
  · simp [s.scopeCloser]
  · intro o' c' ho' hc'
    obtain ⟨o, ho, rfl⟩ := Option.map_eq_some_iff.1 ho'
    obtain ⟨c, hc, rfl⟩ := Option.map_eq_some_iff.1 hc'
    obtain ⟨hko, y, hy, hcolon⟩ := s.scopeOpener o ho
    obtain ⟨o₂, ho₂, -, hle, z, hz, hkz⟩ := s.scopeCloser_kept hc
    rw [ho, Option.some.injEq] at ho₂
    subst ho₂
    refine ⟨by exact_mod_cast place_lt_place hx hk hko,
      by exact_mod_cast place_le_place xs hle, by exact_mod_cast place_lt_length hz hkz,
      token hy hcolon⟩
  · intro a' ha'
    obtain ⟨a, ha, rfl⟩ := Option.map_eq_some_iff.1 ha'
    obtain ⟨hka, ⟨y, hy, hp⟩, hao⟩ := s.parenOpener a ha
    refine ⟨by exact_mod_cast place_lt_place hx hk hka, token hy hp, fun o' ho' => ?_⟩
    obtain ⟨o, ho, rfl⟩ := Option.map_eq_some_iff.1 ho'
    obtain ⟨z, hz, hkz⟩ := s.parenOpener_kept ha
    exact_mod_cast place_lt_place hz hkz (hao o ho)
  · intro b' hb'
    obtain ⟨b, hb, rfl⟩ := Option.map_eq_some_iff.1 hb'
    obtain ⟨a, y, ha, hab, hy, hcl, hzero, hpos, hbo⟩ := s.parenCloser b hb
    have hky : y.isKept = true := Lexeme.isKept_of_closesBracket hcl
    obtain ⟨z, hz, hkz⟩ := s.parenOpener_kept ha
    refine ⟨place xs a, by rw [ha]; rfl, by exact_mod_cast place_lt_place hz hkz hab,
      by exact_mod_cast place_lt_length hy hky, ?_, fun n h1 h2 => ?_, fun o' ho' => ?_⟩
    · rw [Int.toNat_natCast, Int.toNat_natCast, depthFrom_place (by omega) hy hky, hzero,
        Int.sub_self]
    · rw [Int.toNat_natCast]
      exact depthFrom_ne_zero hz hkz hy hky hpos (by omega) (by omega)
    · obtain ⟨o, ho, rfl⟩ := Option.map_eq_some_iff.1 ho'
      exact_mod_cast place_lt_place hy hky (hbo o ho)
  · simpa using s.closed

/-- The positions that the token of a declaration holds are sound. -/
theorem sound_of_token {p : Nat} {t : Token} (ht : (TokenSequence.ofLexemes xs).tokens[p]? = some t)
    (hd : t.isDeclaration = true) : t.extent.Sound (TokenSequence.ofLexemes xs) p := by
  rcases exists_lexeme_of_token ht with ⟨-, rfl⟩ | ⟨i, x, hx, hk, rfl, rfl⟩
  · cases hd
  · rw [(renders_toToken hx).isDeclaration] at hd
    simp only [Lexeme.toToken, hd, if_true]
    exact extent_sound hx hk (Layout.sound_ofDeclaration hx)

theorem forall₂_renders (xs : List Lexeme) : List.Forall₂ Token.Renders
    ((xs.zipIdx.filter fun x => x.1.isKept).map fun x => x.1.toToken xs (docStrings xs) x.2)
    (xs.filter Lexeme.isKept) := by
  have hfst : xs.filter Lexeme.isKept = (xs.zipIdx.filter fun x => x.1.isKept).map Prod.fst := by
    conv => lhs; rw [← List.zipIdx_map_fst 0 xs]
    rw [List.filter_map]
    rfl
  rw [hfst, List.forall₂_map_left_iff, List.forall₂_map_right_iff, List.forall₂_same]
  rintro ⟨x, i⟩ hmem
  have hx := (List.mem_filter.1 hmem).1
  rw [List.mem_zipIdx_iff_getElem?] at hx
  exact renders_toToken hx

/-- The structure of the token sequence of any list of lexemes. Every part of
every declaration has a place. Without kept lexemes the sequence is empty.
Otherwise it is the open tag and then the kept lexemes in order. A token that
declares nothing holds no positions, and the positions of a declaration are
sound. -/
theorem ofLexemes_structure (xs : List Lexeme) :
    (∀ k ∈ declarations xs, (Layout.ofDeclaration xs k).toExtent? xs =
      some ((Layout.ofDeclaration xs k).toExtent xs)) ∧
    ((∀ x ∈ xs, x.isKept = false) → (TokenSequence.ofLexemes xs).tokens = []) ∧
    ((∃ x ∈ xs, x.isKept = true) → ∃ rest, (TokenSequence.ofLexemes xs).tokens =
      { kind := .openTag, text := "", line := 1 } :: rest ∧
        List.Forall₂ Token.Renders rest (xs.filter Lexeme.isKept)) ∧
    (∀ (p : Nat) (t : Token), (TokenSequence.ofLexemes xs).tokens[p]? = some t →
      t.isDeclaration = false → t.extent = {}) ∧
    ∀ (p : Nat) (t : Token), (TokenSequence.ofLexemes xs).tokens[p]? = some t →
      t.isDeclaration = true → t.extent.Sound (TokenSequence.ofLexemes xs) p := by
  refine ⟨fun k hk => ?_, tokens_ofLexemes_of_dropped, fun h => ?_, fun p t ht hd => ?_,
    fun p t ht hd => ?_⟩
  · exact (Layout.sound_of_mem hk).toExtent?
  · exact ⟨_, tokens_ofLexemes (List.any_eq_true.2 h), forall₂_renders xs⟩
  · rcases exists_lexeme_of_token ht with ⟨-, rfl⟩ | ⟨i, x, hx, -, -, rfl⟩
    · rfl
    · rw [(renders_toToken hx).isDeclaration] at hd
      simp [Lexeme.toToken, hd]
  · rcases exists_lexeme_of_token ht with ⟨-, rfl⟩ | ⟨i, x, hx, hk, rfl, rfl⟩
    · cases hd
    · rw [(renders_toToken hx).isDeclaration] at hd
      simp only [Lexeme.toToken, hd, if_true]
      exact extent_sound hx hk (Layout.sound_ofDeclaration hx)

/-! ## A small file -/

/-- `def f():` with a documenting string as its block, and the end of the file. -/
def smallFile : List Lexeme :=
  [⟨.encoding, "utf-8", 0, 0⟩, ⟨.name, "def", 1, 0⟩, ⟨.name, "f", 1, 4⟩, ⟨.operator, "(", 1, 5⟩,
    ⟨.operator, ")", 1, 6⟩, ⟨.operator, ":", 1, 7⟩, ⟨.newline, "\n", 1, 8⟩, ⟨.indent, "  ", 2, 0⟩,
    ⟨.string, "'d'", 2, 2⟩, ⟨.newline, "\n", 2, 5⟩, ⟨.dedent, "", 3, 0⟩, ⟨.endMarker, "", 3, 0⟩]

/-- In the small file the keyword's token comes right after the open tag. -/
theorem smallFile_structure : ((Layout.ofDeclaration smallFile 1).toExtent? smallFile).isSome ∧
    ∃ t, (TokenSequence.ofLexemes smallFile).tokens[1]? = some t ∧ t.kind = .function ∧
      t.extent = { scopeOpener := some 5, scopeCloser := some 9, parenOpener := some 3,
                   parenCloser := some 4 } ∧
      t.extent.Sound (TokenSequence.ofLexemes smallFile) 1 := by
  obtain ⟨h1, -, -, -, h5⟩ := ofLexemes_structure smallFile
  refine ⟨by rw [h1 1 (by decide)]; rfl, ?_⟩
  have ht : (TokenSequence.ofLexemes smallFile).tokens[1]? =
      some ⟨.function, "def", 1, 0, ⟨some 5, some 9, some 3, some 4⟩⟩ := by decide
  exact ⟨_, ht, rfl, rfl, h5 1 _ ht rfl⟩

end DocLint
