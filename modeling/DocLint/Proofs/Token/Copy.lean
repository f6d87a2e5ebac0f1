import DocLint.Proofs.Token.DocComment
import DocLint.Rule.FunctionComment.Extended

/-!
# The same function in another sequence

A stretch of tokens may stand in two sequences, some positions apart. What is
read off such a stretch is the same in both, also where a search is not bounded
by the stretch: it ends within it. Strings may be marked in one of the two only,
since other declarations may reach into the stretch.

Results:
* `SameStretch.firstIn_eq`: a search within the stretch.
* `SameStretch.declaredName_eq`, `SameStretch.parameterNames_eq`: what a header
  in the stretch says.
* `SameFunction.firstBodyToken_copy`: what the body starts with.
* `SameFunction.returnsValue_eq`: whether a value is returned.
-/
namespace DocLint

/-! ## Tokens but for their marks -/

/-- The class of a token before strings are marked. -/
def TokenKind.unmarked : TokenKind → TokenKind
  | .docComment => .string
  | kind => kind

theorem TokenKind.unmarked_eq_iff {k l : TokenKind} (h1 : l ≠ .string) (h2 : l ≠ .docComment) :
    k.unmarked = l ↔ k = l := by
  cases k <;> simp [TokenKind.unmarked]
  exact ⟨fun h => absurd h.symm h1, fun h => absurd h.symm h2⟩

/-- Two tokens that differ in their position, their extent and their mark only. -/
structure Token.Alike (t u : Token) : Prop where
  text : t.text = u.text
  line : t.line = u.line
  kind : t.kind.unmarked = u.kind.unmarked

theorem Token.Renders.alike {x : Lexeme} {t u : Token} (h : t.Renders x) (h' : u.Renders x) :
    t.Alike u where
  text := h.text.trans h'.text.symm
  line := h.line.trans h'.line.symm
  kind := by
    have key : ∀ v : Token, v.Renders x → v.kind.unmarked = x.kind.unmarked := by
      intro v hv
      rcases hv.kind with hk | ⟨hs, hk⟩
      · rw [hk]
      · rw [hk, Lexeme.kind, hs]
        rfl
    rw [key t h, key u h']

namespace Token.Alike

variable {t u : Token} {k : TokenKind}

theorem kind_eq_iff (h : t.Alike u) (h1 : k ≠ .string) (h2 : k ≠ .docComment) :
    t.kind = k ↔ u.kind = k := by
  rw [← TokenKind.unmarked_eq_iff h1 h2, h.kind, TokenKind.unmarked_eq_iff h1 h2]

theorem kind_beq (h : t.Alike u) (h1 : k ≠ .string) (h2 : k ≠ .docComment) :
    (t.kind == k) = (u.kind == k) := by
  rw [Bool.eq_iff_iff, beq_iff_eq, beq_iff_eq]
  exact h.kind_eq_iff h1 h2

theorem contains (h : t.Alike u) {kinds : List TokenKind} (h1 : .string ∉ kinds)
    (h2 : .docComment ∉ kinds) : kinds.contains t.kind = kinds.contains u.kind := by
  rw [Bool.eq_iff_iff, List.contains_iff_mem, List.contains_iff_mem]
  constructor
  · intro hm
    have := (h.kind_eq_iff (fun e => h1 (e ▸ hm)) fun e => h2 (e ▸ hm)).1 rfl
    rwa [this]
  · intro hm
    have := (h.kind_eq_iff (fun e => h1 (e ▸ hm)) fun e => h2 (e ▸ hm)).2 rfl
    rwa [this]

theorem isOperator (h : t.Alike u) (text : String) : t.isOperator text = u.isOperator text := by
  simp only [Token.isOperator, h.text, h.kind_beq (k := .operator) (by decide) (by decide)]

theorem opensBracket (h : t.Alike u) : t.opensBracket = u.opensBracket := by
  simp only [Token.opensBracket, h.isOperator]

theorem closesBracket (h : t.Alike u) : t.closesBracket = u.closesBracket := by
  simp only [Token.closesBracket, h.isOperator]

theorem startsStatement (h : t.Alike u) :
    TokenSequence.startsStatement t = TokenSequence.startsStatement u := by
  simp only [TokenSequence.startsStatement, KindTest.accepts]
  rw [h.contains (by decide) (by decide)]

theorem startsBody (h : t.Alike u) (line : Int) :
    TokenSequence.startsBody line t = TokenSequence.startsBody line u := by
  simp only [TokenSequence.startsBody, TokenSequence.isBodySkip, h.line,
    h.kind_beq (k := .whitespace) (by decide) (by decide),
    h.kind_beq (k := .terminator) (by decide) (by decide),
    h.kind_beq (k := .comment) (by decide) (by decide)]

/-- A mark makes no difference to the machine that reads parameter names. -/
theorem step (h : t.Alike u) (s : ParameterScan) : s.step t = s.step u := by
  simp only [ParameterScan.step, ParameterScan.stepInside, h.opensBracket, h.closesBracket,
    h.isOperator, h.text, h.kind_beq (k := .whitespace) (by decide) (by decide),
    h.kind_beq (k := .comment) (by decide) (by decide),
    h.kind_beq (k := .name) (by decide) (by decide)]

end Token.Alike

/-! ## A stretch of tokens in two sequences -/

namespace TokenSequence

variable {s s' : TokenSequence} {m lo hi : Nat}

/-- The tokens of `s` from `lo` to `hi` stand in `s'` too, `m` positions on. -/
def SameStretch (s s' : TokenSequence) (m lo hi : Nat) : Prop :=
  ∀ j, lo ≤ j → j ≤ hi → ∃ t t', s.tokens[j]? = some t ∧ s'.tokens[m + j]? = some t' ∧ t.Alike t'

/-- Lexemes that stand in two files give such a stretch. -/
theorem SameStretch.of_lexemes {xs ys : List Lexeme} (hlo : 1 ≤ lo)
    (hhi : hi < (ofLexemes xs).length)
    (h : ∀ i x, xs[i]? = some x → x.isKept = true → lo ≤ place xs i → place xs i ≤ hi →
      ∃ i', ys[i']? = some x ∧ place ys i' = m + place xs i) :
    SameStretch (ofLexemes xs) (ofLexemes ys) m lo hi := by
  intro j h1 h2
  have ht := List.getElem?_eq_getElem (Nat.lt_of_le_of_lt h2 hhi)
  rcases exists_lexeme_of_token ht with ⟨rfl, -⟩ | ⟨i, x, hx, hk, rfl, hrender⟩
  · omega
  · obtain ⟨i', hx', hplace⟩ := h i x hx hk h1 h2
    have ht' := getElem?_ofLexemes_place hx' hk
    rw [hplace] at ht'
    refine ⟨_, _, ht, ht', ?_⟩
    rw [hrender]
    exact (renders_toToken hx).alike (renders_toToken hx')

/-- Whether marks make no difference to a property of tokens. -/
def IgnoresMarks (p : Token → Bool) : Prop := ∀ t u : Token, t.Alike u → p t = p u

theorem SameStretch.any_eq (h : SameStretch s s' m lo hi) {p : Token → Bool}
    (hp : IgnoresMarks p) {j : Nat} (h1 : lo ≤ j) (h2 : j ≤ hi) :
    s'.tokens[m + j]?.any p = s.tokens[j]?.any p := by
  obtain ⟨t, t', ht, ht', halike⟩ := h j h1 h2
  rw [ht, ht', Option.any_some, Option.any_some, hp t t' halike]

theorem SameStretch.firstIn_eq (h : SameStretch s s' m lo hi) {p : Token → Bool}
    (hp : IgnoresMarks p) {a b : Nat} (h1 : lo ≤ a) (h2 : b ≤ hi + 1) :
    firstIn p s'.tokens (m + a) (m + b) = (firstIn p s.tokens a b).map (m + ·) :=
  firstIn_shift m fun _ _ _ => h.any_eq hp (by omega) (by omega)

/-- A search that goes on to the end of the sequence, but ends within the stretch. -/
theorem SameStretch.firstIn_of_any (h : SameStretch s s' m lo hi) {p : Token → Bool}
    (hp : IgnoresMarks p) {a e : Nat} (h1 : lo ≤ a) (h2 : a ≤ e) (h3 : e ≤ hi)
    (he : s.tokens[e]?.any p = true) :
    ∃ k, a ≤ k ∧ k ≤ e ∧ firstIn p s.tokens a s.length = some k ∧
      firstIn p s'.tokens (m + a) s'.length = some (m + k) := by
  exact firstIn_shift_of_any m h2 (fun j hj1 hj2 => h.any_eq hp (by omega) (by omega)) he

/-! ## Declared names -/

def isName (t : Token) : Bool := (KindTest.oneOf [.name]).accepts t.kind

theorem isName_ignoresMarks : IgnoresMarks isName := fun t u h => by
  unfold isName KindTest.accepts
  exact h.contains (by decide) (by decide)

theorem findNext_name (s : TokenSequence) (n : Nat) :
    s.findNext (.oneOf [.name]) ((n : Int) + 1) = firstIn isName s.tokens (n + 1) s.length := by
  rw [findNext, findNextBy_eq, Int.toNat_natCast_add_one]
  rfl

section DeclaredName

variable {n a : Nat} {t : Token}

theorem declaredName_of_some {k : Nat} {u : Token} (ht : s.tokens[n]? = some t)
    (hp : t.extent.parenOpener = some (a : Int))
    (hk : firstIn isName s.tokens (n + 1) (a + 1) = some k) (hu : s.tokens[k]? = some u)
    (ha : a < s.length) : s.declaredName n = .ok u.text := by
  have hle := (firstIn_eq_some_iff.1 hk).2.1
  simp only [declaredName, findNext_name, firstIn_extend hk (show a + 1 ≤ s.length by omega),
    get_natCast ht, get_natCast hu, hp,
    bind, Except.bind, pure, Except.pure]
  rw [if_neg (by omega)]

/-- A name after the parenthesis does not count. -/
theorem declaredName_of_none (ht : s.tokens[n]? = some t)
    (hp : t.extent.parenOpener = some (a : Int))
    (hnone : firstIn isName s.tokens (n + 1) (a + 1) = none) : s.declaredName n = .ok "" := by
  simp only [declaredName, findNext_name]
  cases hk : firstIn isName s.tokens (n + 1) s.length with
  | none => rfl
  | some k =>
    obtain ⟨h1, -, h3, -⟩ := firstIn_eq_some_iff.1 hk
    have hlt : a < k := by
      by_contra hle
      rw [firstIn_eq_none_iff.1 hnone k h1 (by omega)] at h3
      cases h3
    simp only [get_natCast ht, hp, bind, Except.bind, pure,
      Except.pure]
    rw [if_pos (by omega)]

/-- A declaration without parentheses is named by the first name after its keyword. -/
theorem declaredName_of_free (ht : s.tokens[n]? = some t) (hp : t.extent.parenOpener = none) :
    s.declaredName n = match firstIn isName s.tokens (n + 1) s.length with
      | none => .ok ""
      | some k => (s.get k).map Token.text := by
  simp only [declaredName, findNext_name]
  cases firstIn isName s.tokens (n + 1) s.length with
  | none => rfl
  | some k =>
    simp only [get_natCast ht, hp, bind, Except.bind, pure, Except.pure]
    cases s.get k <;> rfl

/-- The declared name in two sequences. It is looked for up to the end of the
sequence, but a name after the parenthesis does not count. -/
theorem SameStretch.declaredName_eq (h : SameStretch s s' m lo hi) {t' : Token}
    (ht : s.tokens[n]? = some t) (ht' : s'.tokens[m + n]? = some t')
    (hp : t.extent.parenOpener = some (a : Int))
    (hp' : t'.extent.parenOpener = some ((m + a : Nat) : Int))
    (hn : lo ≤ n) (hna : n < a) (ha : a ≤ hi) :
    s'.declaredName ((m + n : Nat) : Int) = s.declaredName n := by
  obtain ⟨v, v', hv, hv', -⟩ := h a (by omega) ha
  have hlt := (List.getElem?_eq_some_iff.1 hv).1
  have hlt' := (List.getElem?_eq_some_iff.1 hv').1
  have hsame := h.firstIn_eq isName_ignoresMarks (show lo ≤ n + 1 by omega)
    (show a + 1 ≤ hi + 1 by omega)
  cases hk : firstIn isName s.tokens (n + 1) (a + 1) with
  | none =>
    rw [hk] at hsame
    rw [declaredName_of_none ht hp hk, declaredName_of_none ht' hp' hsame]
  | some k =>
    obtain ⟨hk1, hk2, -, -⟩ := firstIn_eq_some_iff.1 hk
    obtain ⟨u, u', hu, hu', halike⟩ := h k (by omega) (by omega)
    rw [hk] at hsame
    rw [declaredName_of_some ht hp hk hu hlt,
      declaredName_of_some ht' hp' hsame hu' hlt', halike.text]

end DeclaredName

/-! ## Parameter names -/

theorem span_eq {a b : Nat} (hab : a ≤ b) (hb : b < s.length) :
    s.span a b = .ok ((List.range (b - a + 1)).filterMap fun k => s.tokens[a + k]?) := by
  have hlen : ((b : Int) - a + 1).toNat = b - a + 1 := by omega
  unfold span
  rw [if_neg (by omega), if_neg (by omega), hlen]
  rfl

theorem run_filterMap_eq {f g : Nat → Option Token} (positions : List Nat) :
    ∀ scan : ParameterScan,
      (∀ k ∈ positions, ∃ t u, f k = some t ∧ g k = some u ∧ t.Alike u) →
        scan.run (positions.filterMap f) = scan.run (positions.filterMap g) := by
  induction positions with
  | nil => exact fun scan _ => rfl
  | cons k positions ih =>
    intro scan h
    obtain ⟨t, u, ht, hu, halike⟩ := h k (by simp)
    rw [List.filterMap_cons_some ht, List.filterMap_cons_some hu]
    show (scan.step t).run _ = (scan.step u).run _
    rw [halike.step, ih _ fun j hj => h j (by simp [hj])]

theorem parameterNames_of_parens {n a b : Nat} {t : Token} (ht : s.tokens[n]? = some t)
    (ha : t.extent.parenOpener = some (a : Int)) (hb : t.extent.parenCloser = some (b : Int))
    (hab : a ≤ b) (hlt : b < s.length) : s.parameterNames n = .ok (ParameterScan.run {}
      ((List.range (b - a + 1)).filterMap fun k => s.tokens[a + k]?)).names := by
  simp only [parameterNames, get_natCast ht, ha, hb,
    span_eq hab hlt, bind, Except.bind, pure, Except.pure]

/-- Parentheses that are never closed give no names. -/
theorem parameterNames_of_unclosed {n : Nat} {t : Token} (ht : s.tokens[n]? = some t)
    (hb : t.extent.parenCloser = none) : s.parameterNames n = .ok [] := by
  simp only [parameterNames, get_natCast ht, hb, bind, Except.bind, pure, Except.pure]
  cases t.extent.parenOpener <;> rfl

theorem SameStretch.parameterNames_eq (h : SameStretch s s' m lo hi) {n a b : Nat} {t t' : Token}
    (ht : s.tokens[n]? = some t) (ht' : s'.tokens[m + n]? = some t')
    (ha : t.extent.parenOpener = some (a : Int)) (hb : t.extent.parenCloser = some (b : Int))
    (ha' : t'.extent.parenOpener = some ((m + a : Nat) : Int))
    (hb' : t'.extent.parenCloser = some ((m + b : Nat) : Int))
    (hlo : lo ≤ a) (hab : a ≤ b) (hhi : b ≤ hi) :
    s'.parameterNames ((m + n : Nat) : Int) = s.parameterNames n := by
  obtain ⟨v, v', hv, hv', -⟩ := h b (by omega) hhi
  have hlt := (List.getElem?_eq_some_iff.1 hv).1
  have hlt' := (List.getElem?_eq_some_iff.1 hv').1
  rw [parameterNames_of_parens ht ha hb hab hlt,
    parameterNames_of_parens ht' ha' hb' (by omega) hlt',
    show m + b - (m + a) = b - a by omega]
  congr 2
  refine (run_filterMap_eq _ _ fun k hk => ?_).symm
  have hle := List.mem_range.1 hk
  rw [Nat.add_assoc]
  exact h _ (by omega) (by omega)

/-! ## Returned values -/

def isSignificant (t : Token) : Bool := (KindTest.noneOf [.whitespace, .comment]).accepts t.kind

theorem isSignificant_ignoresMarks : IgnoresMarks isSignificant := fun t u h => by
  simp only [isSignificant, KindTest.accepts]
  rw [h.contains (by decide) (by decide)]

theorem isReturn_ignoresMarks : IgnoresMarks (·.kind == .returnKeyword) := fun t u h =>
  h.kind_beq (by decide) (by decide)

theorem isValue_ignoresMarks : IgnoresMarks (·.kind != .terminator) := fun t u h => by
  simp only [bne, h.kind_beq (k := .terminator) (by decide) (by decide)]

theorem findNext_significant (s : TokenSequence) (i : Nat) :
    s.findNext (.noneOf [.whitespace, .comment]) ((i : Int) + 1) =
      firstIn isSignificant s.tokens (i + 1) s.length := by
  rw [findNext, findNextBy_eq, Int.toNat_natCast_add_one]
  rfl

theorem givesValue_eq (s : TokenSequence) (i : Nat) : s.givesValue i =
    (firstIn isSignificant s.tokens (i + 1) s.length).any fun k =>
      s.tokens[k]?.any (·.kind != .terminator) := by
  rw [givesValue, findNext_significant]
  cases firstIn isSignificant s.tokens (i + 1) s.length with
  | none => rfl
  | some k => rw [Option.any_some, ← get?_natCast]

/-- Only the returns between two positions count, wherever these are. -/
theorem returnsValue_iff {o c : Int} : s.returnsValue o c = true ↔
    ∃ i : Nat, o ≤ i ∧ (i : Int) ≤ c ∧ s.tokens[i]?.any (·.kind == .returnKeyword) = true ∧
      s.givesValue i = true := by
  simp only [returnsValue, List.any_eq_true, List.mem_range'_1, Bool.and_eq_true]
  constructor
  · rintro ⟨i, ⟨h1, h2⟩, hr, hv⟩
    exact ⟨i, by omega, by omega, hr, hv⟩
  · rintro ⟨i, h1, h2, hr, hv⟩
    have hlt : i < s.length := lt_length_of_any hr
    exact ⟨i, by omega, hr, hv⟩

/-! ## A function in two sequences -/

/-- Where the parts of a function with a scope and parameters are. -/
structure Parts where
  opener : Nat
  closer : Nat
  parenOpener : Nat
  parenCloser : Nat

def Parts.toExtent (p : Parts) : Extent :=
  { scopeOpener := some p.opener
    scopeCloser := some p.closer
    parenOpener := some p.parenOpener
    parenCloser := some p.parenCloser }

def Parts.shift (p : Parts) (m : Nat) : Parts :=
  { opener := m + p.opener
    closer := m + p.closer
    parenOpener := m + p.parenOpener
    parenCloser := m + p.parenCloser }

/-- Whether a token may follow the last statement of a block. -/
def isTrailing (t : Token) : Bool := t.kind == .whitespace || t.kind == .comment

/-- The function at `n` in `s`, whose scope ends with the end of a statement,
stands in `s'` too, `m` positions on. What its body starts with is marked as
its comment in both sequences or in none. -/
structure SameFunction (s s' : TokenSequence) (m n : Nat) (p : Parts) : Prop where
  stretch : SameStretch s s' m n p.closer
  extent : ∃ t, s.tokens[n]? = some t ∧ t.extent = p.toExtent
  extent' : ∃ t, s'.tokens[m + n]? = some t ∧ t.extent = (p.shift m).toExtent
  order : n < p.parenOpener ∧ p.parenOpener < p.parenCloser ∧ p.parenCloser < p.opener ∧
    p.opener < p.closer
  ended : ∃ e, p.opener < e ∧ e ≤ p.closer ∧ s.tokens[e]?.any (·.kind == .terminator) = true ∧
    ∀ j, e < j → j ≤ p.closer → s.tokens[j]?.any isTrailing = true
  marked : ∀ d, firstIn startsStatement s.tokens (p.opener + 1) (p.closer + 1) = some d →
    s'.isDocComment (m + d) = s.isDocComment d
  openTag : s.tokens[0]? = some openTag ∧ s'.tokens[0]? = some openTag ∧ 0 < n

namespace SameFunction

variable {n : Nat} {p : Parts}

theorem header_line (h : SameFunction s s' m n p) : ∃ t t', s.tokens[p.opener]? = some t ∧
    s'.tokens[m + p.opener]? = some t' ∧ t.line = t'.line := by
  obtain ⟨h1, h2, h3, h4⟩ := h.order
  obtain ⟨t, t', ht, ht', ha⟩ := h.stretch p.opener (by omega) (by omega)
  exact ⟨t, t', ht, ht', ha.line⟩

theorem closer_lt (h : SameFunction s s' m n p) :
    p.closer < s.length ∧ m + p.closer < s'.length := by
  obtain ⟨h1, h2, h3, h4⟩ := h.order
  obtain ⟨t, t', ht, ht', -⟩ := h.stretch p.closer (by omega) (Nat.le_refl _)
  exact ⟨(List.getElem?_eq_some_iff.1 ht).1, (List.getElem?_eq_some_iff.1 ht').1⟩

theorem bodyStart_eq (h : SameFunction s s' m n p) (line : Int) :
    s'.bodyStart line (m + (p.opener + 1)) (m + (p.closer + 1)) =
      (s.bodyStart line (p.opener + 1) (p.closer + 1)).map (m + ·) := by
  obtain ⟨h1, h2, h3, h4⟩ := h.order
  unfold bodyStart
  rw [h.stretch.firstIn_eq (fun t u ha => ha.startsBody line) (by omega) (Nat.le_refl _)]
  cases hf : firstIn (startsBody line) s.tokens (p.opener + 1) (p.closer + 1) with
  | none => rfl
  | some f =>
    obtain ⟨hf1, hf2, -, -⟩ := firstIn_eq_some_iff.1 hf
    have hcomment : s'.tokens[m + f]?.any (·.kind == .comment) =
        s.tokens[f]?.any (·.kind == .comment) :=
      h.stretch.any_eq (fun t u ha => ha.kind_beq (by decide) (by decide)) (by omega) (by omega)
    simp only [Option.map_some, hcomment]
    by_cases hc : s.tokens[f]?.any (·.kind == .comment) = true
    · rw [if_pos hc, if_pos hc, Nat.add_assoc m,
        h.stretch.firstIn_eq (fun t u ha => ha.startsStatement) (by omega) (Nat.le_refl _)]
      have hgo := firstIn_startsStatement_of_comment hf hc
      cases hst : firstIn startsStatement s.tokens (f + 1) (p.closer + 1) with
      | none => rfl
      | some st =>
        rw [hst] at hgo
        simp only [Option.map_some, Option.filter_some, h.marked st hgo]
        split <;> rfl
    · rw [if_neg hc, if_neg hc, Option.map_some]

/-- What the body starts with is a doc comment in both sequences or in none. -/
theorem isDocComment_eq (h : SameFunction s s' m n p) {line : Int} {d : Nat}
    (hd : s.bodyStart line (p.opener + 1) (p.closer + 1) = some d) :
    s'.isDocComment (m + d) = s.isDocComment d := by
  have hn : n ≤ p.opener + 1 := by
    have := h.order
    omega
  have hfilter := filter_bodyStart s line (p.opener + 1) (p.closer + 1)
  have hfilter' := filter_bodyStart s' line (m + (p.opener + 1)) (m + (p.closer + 1))
  rw [hd, Option.filter_some] at hfilter
  rw [h.bodyStart_eq, hd, Option.map_some, Option.filter_some, h.stretch.firstIn_eq
    (fun t u ha => ha.startsStatement) hn (Nat.le_refl _)] at hfilter'
  by_cases hdoc : s.isDocComment d = true
  · rw [if_pos hdoc] at hfilter
    exact h.marked d (Option.filter_eq_some_iff.1 hfilter.symm).1
  · by_cases hdoc' : s'.isDocComment (m + d) = true
    · rw [if_pos hdoc'] at hfilter'
      obtain ⟨e, he, hed⟩ := Option.map_eq_some_iff.1 (Option.filter_eq_some_iff.1 hfilter'.symm).1
      obtain rfl : e = d := by omega
      exact h.marked e he
    · rw [Bool.not_eq_true] at hdoc hdoc'
      rw [hdoc, hdoc']

/-- What the body of the function starts with: the same in both sequences, and a
doc comment in both or in none. -/
theorem firstBodyToken_copy (h : SameFunction s s' m n p) : ∃ first : Option Nat,
    s.firstBodyToken n = .ok first ∧
    s'.firstBodyToken ((m + n : Nat) : Int) = .ok (first.map (m + ·)) ∧
    ∀ d, first = some d → n ≤ d ∧ d ≤ p.closer ∧ s'.isDocComment (m + d) = s.isDocComment d := by
  obtain ⟨t, ht, he⟩ := h.extent
  obtain ⟨t', ht', he'⟩ := h.extent'
  obtain ⟨u, u', hu, hu', hline⟩ := h.header_line
  obtain ⟨hlt, hlt'⟩ := h.closer_lt
  have e := TokenSequence.firstBodyToken_eq ((get?_natCast ..).trans ht)
    (show t.extent.scopeOpener = some (p.opener : Int) by rw [he]; rfl)
    ((get?_natCast ..).trans hu)
  have e' := TokenSequence.firstBodyToken_eq ((get?_natCast ..).trans ht')
    (show t'.extent.scopeOpener = some ((m + p.opener : Nat) : Int) by rw [he']; rfl)
    ((get?_natCast ..).trans hu')
  have hc : t.extent.scopeCloser = some (p.closer : Int) := by rw [he]; rfl
  have hc' : t'.extent.scopeCloser = some ((m + p.closer : Nat) : Int) := by rw [he']; rfl
  rw [hc, Option.map_some, stopAt_of_lt hlt, Int.toNat_natCast_add_one] at e
  rw [hc', Option.map_some, stopAt_of_lt hlt', Int.toNat_natCast_add_one, Nat.add_assoc,
    Nat.add_assoc, ← hline, h.bodyStart_eq] at e'
  refine ⟨_, e, e', fun d hd => ?_⟩
  obtain ⟨-, -, h1, h2⟩ := bodyStart_mem hd
  have hn := h.order
  exact ⟨by omega, by omega, h.isDocComment_eq hd⟩

theorem declaredName_eq (h : SameFunction s s' m n p) :
    s'.declaredName ((m + n : Nat) : Int) = s.declaredName n := by
  obtain ⟨t, ht, he⟩ := h.extent
  obtain ⟨t', ht', he'⟩ := h.extent'
  obtain ⟨h1, h2, h3, h4⟩ := h.order
  exact h.stretch.declaredName_eq ht ht' (by rw [he]; rfl) (by rw [he']; rfl) (Nat.le_refl n) h1
    (by omega)

theorem parameterNames_eq (h : SameFunction s s' m n p) :
    s'.parameterNames ((m + n : Nat) : Int) = s.parameterNames n := by
  obtain ⟨t, ht, he⟩ := h.extent
  obtain ⟨t', ht', he'⟩ := h.extent'
  obtain ⟨h1, h2, h3, h4⟩ := h.order
  exact h.stretch.parameterNames_eq ht ht' (by rw [he]; rfl) (by rw [he]; rfl) (by rw [he']; rfl)
    (by rw [he']; rfl) (by omega) (by omega) (by omega)

/-- Whether a return statement gives a value. What follows the keyword is looked
for up to the end of the sequence, but the scope ends with the end of a
statement. -/
theorem givesValue_eq (h : SameFunction s s' m n p) {i : Nat} (h1 : p.opener ≤ i)
    (h2 : i ≤ p.closer) (hr : s.tokens[i]?.any (·.kind == .returnKeyword) = true) :
    s'.givesValue ((m + i : Nat) : Int) = s.givesValue i := by
  obtain ⟨hn, hp, hq, hlast⟩ := h.order
  obtain ⟨e, he1, he2, hterm, htrail⟩ := h.ended
  obtain ⟨u, hu, hukind⟩ := (Option.any_eq_true ..).1 hr
  obtain ⟨v, hv, hvkind⟩ := (Option.any_eq_true ..).1 hterm
  rw [beq_iff_eq] at hukind hvkind
  have hie : i < e := by
    rcases Nat.lt_trichotomy i e with hlt | rfl | hgt
    · exact hlt
    · rw [hu, Option.some.injEq] at hv
      rw [hv, hvkind] at hukind
      cases hukind
    · have := htrail i hgt h2
      simp [hu, isTrailing, hukind] at this
  have hsig : s.tokens[e]?.any isSignificant = true := by
    simp [hv, isSignificant, KindTest.accepts, hvkind]
  obtain ⟨k, hk1, hk2, hk, hk'⟩ := h.stretch.firstIn_of_any isSignificant_ignoresMarks
    (show n ≤ i + 1 by omega) hie he2 hsig
  have hkind : s'.tokens[m + k]?.any (·.kind != .terminator) =
      s.tokens[k]?.any (·.kind != .terminator) :=
    h.stretch.any_eq isValue_ignoresMarks (by omega) (by omega)
  rw [TokenSequence.givesValue_eq, TokenSequence.givesValue_eq, Nat.add_assoc, hk, hk',
    Option.any_some, Option.any_some, hkind]

theorem returnsValue_eq (h : SameFunction s s' m n p) :
    s'.returnsValue ((m + p.opener : Nat) : Int) ((m + p.closer : Nat) : Int) =
      s.returnsValue p.opener p.closer := by
  obtain ⟨h1, h2, h3, h4⟩ := h.order
  have hreturn : ∀ i, p.opener ≤ i → i ≤ p.closer →
      s'.tokens[m + i]?.any (·.kind == .returnKeyword) =
        s.tokens[i]?.any (·.kind == .returnKeyword) := fun i hi1 hi2 =>
    h.stretch.any_eq isReturn_ignoresMarks (by omega) hi2
  rw [Bool.eq_iff_iff, returnsValue_iff, returnsValue_iff]
  constructor
  · rintro ⟨i, hi1, hi2, hr, hv⟩
    obtain ⟨j, rfl⟩ := Nat.exists_eq_add_of_le (show m ≤ i by omega)
    rw [hreturn j (by omega) (by omega)] at hr
    exact ⟨j, by omega, by omega, hr, by rwa [h.givesValue_eq (by omega) (by omega) hr] at hv⟩
  · rintro ⟨i, hi1, hi2, hr, hv⟩
    rw [Int.ofNat_le] at hi1 hi2
    refine ⟨m + i, by omega, by omega, by rwa [hreturn i hi1 hi2], ?_⟩
    rwa [h.givesValue_eq hi1 hi2 hr]

end SameFunction

end TokenSequence

end DocLint
