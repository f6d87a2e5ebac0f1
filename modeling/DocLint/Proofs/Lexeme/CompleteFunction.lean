import DocLint.Proofs.Lexeme.SuiteLayout

/-!
# Complete functions

A function whose header, line end and block are all there is laid out alike
wherever it stands. The lexemes before it and after it may be anything: open
blocks, brackets that close too late, other declarations that reach into it.

Results:
* `CompleteFunction.ofDeclaration_eq`: its layout, up to a shift.
* `CompleteFunction.docString_eq`: its documenting string, up to a shift.
-/
namespace DocLint

/-- A declaration with parameters, the end of its header line, and its block,
which ends with the end of a statement. Nothing is asked of the words of the
header but that the colon after them is the first one outside brackets. -/
structure CompleteFunction where
  keyword : Lexeme
  words : List Lexeme
  colon : Lexeme
  frame : Frame
  /-- The block up to the end of its last statement. -/
  body : List Lexeme
  last : Lexeme
  tail : List Lexeme
  declares : keyword.isDeclaration = true
  header : Header.Words words
  paren : ∃ i, ∃ hi : i < words.length,
    words[i].isOperator "(" = true ∧ bracketDepth (words.take i) = 0
  isColon : colon.isOperator ":" = true
  balanced : IndentBalanced (body ++ last :: tail)
  last_type : last.type = .newline
  tail_type : ∀ x ∈ tail, x.isFiller = true ∨ x.isKept = false

/-- A list of lexemes has a complete function whose keyword is at `k`. -/
def CompleteAt (xs : List Lexeme) (k : Nat) : Prop :=
  ∃ (f : CompleteFunction) (before after : List Lexeme), before.length = k ∧
    xs = before ++ (f.keyword :: (f.words ++ f.colon :: (f.frame.opening ++
      ((f.body ++ f.last :: f.tail) ++ f.frame.dedent :: after))))

/-- A layout further down in a file. -/
def Layout.shift (l : Layout) (n : Nat) : Layout :=
  { scopeOpener := l.scopeOpener.map (n + ·)
    scopeCloser := l.scopeCloser.map (n + ·)
    parenOpener := l.parenOpener.map (n + ·)
    parenCloser := l.parenCloser.map (n + ·) }

namespace CompleteFunction

variable (f : CompleteFunction) {before after xs : List Lexeme}

/-- The statements of the block, with what follows the last of them. -/
def block : List Lexeme := f.body ++ f.last :: f.tail

/-- All lexemes of the function, up to the dedent that closes its block. -/
def lexemes : List Lexeme :=
  f.keyword :: (f.words ++ f.colon :: (f.frame.opening ++ (f.block ++ [f.frame.dedent])))

def opener : Nat := 1 + f.words.length

def lastAt : Nat := f.opener + 1 + f.frame.opening.length + f.body.length

def dedentAt : Nat := f.opener + 1 + f.frame.opening.length + f.block.length

theorem length_lexemes : f.lexemes.length = f.dedentAt + 1 := by
  simp only [lexemes, dedentAt, opener, List.length_cons, List.length_append, List.length_nil]
  omega

theorem opener_lt_lastAt : f.opener < f.lastAt := by
  unfold lastAt
  omega

theorem lastAt_lt_dedentAt : f.lastAt < f.dedentAt := by
  simp only [lastAt, dedentAt, block, List.length_append, List.length_cons]
  omega

theorem getElem?_lexemes (hxs : xs = before ++ (f.lexemes ++ after)) {i : Nat}
    (hi : i < f.lexemes.length) : xs[before.length + i]? = f.lexemes[i]? := by
  rw [hxs, List.getElem?_append_right (by omega), Nat.add_sub_cancel_left,
    List.getElem?_append_left hi]

theorem getElem?_dedentAt : f.lexemes[f.dedentAt]? = some f.frame.dedent := by
  have e : f.lexemes = (f.keyword :: (f.words ++ f.colon :: (f.frame.opening ++ f.block))) ++
      [f.frame.dedent] := by simp [lexemes]
  have hlen : (f.keyword :: (f.words ++ f.colon :: (f.frame.opening ++ f.block))).length =
      f.dedentAt := by
    simp only [dedentAt, opener, List.length_cons, List.length_append]
    omega
  rw [e, List.getElem?_append_right (by omega), hlen, Nat.sub_self]
  rfl

theorem getElem?_lastAt : f.lexemes[f.lastAt]? = some f.last := by
  have e : f.lexemes = (f.keyword :: (f.words ++ f.colon :: (f.frame.opening ++ f.body))) ++
      (f.last :: (f.tail ++ [f.frame.dedent])) := by simp [lexemes, block]
  have hlen : (f.keyword :: (f.words ++ f.colon :: (f.frame.opening ++ f.body))).length =
      f.lastAt := by
    simp only [lastAt, opener, List.length_cons, List.length_append]
    omega
  rw [e, List.getElem?_append_right (by omega), hlen, Nat.sub_self]
  rfl

/-- Between the last statement and the dedent there are only blank lines,
comments and dropped lexemes. -/
theorem getElem?_tail {i : Nat} {x : Lexeme} (h1 : f.lastAt < i) (h2 : i < f.dedentAt)
    (hx : f.lexemes[i]? = some x) : x.isFiller = true ∨ x.isKept = false := by
  have e : f.lexemes = (f.keyword :: (f.words ++ f.colon :: (f.frame.opening ++
      (f.body ++ [f.last])))) ++ (f.tail ++ [f.frame.dedent]) := by simp [lexemes, block]
  have hlen : (f.keyword :: (f.words ++ f.colon :: (f.frame.opening ++
      (f.body ++ [f.last])))).length = f.lastAt + 1 := by
    simp only [lastAt, opener, List.length_cons, List.length_append, List.length_nil]
    omega
  have htail : f.dedentAt = f.lastAt + 1 + f.tail.length := by
    simp only [dedentAt, lastAt, block, List.length_append, List.length_cons]
    omega
  rw [e, List.getElem?_append_right (by omega), hlen, List.getElem?_append_left (by omega)] at hx
  exact f.tail_type x (List.mem_of_getElem? hx)

/-! ## The layout -/

theorem cut (hxs : xs = before ++ (f.lexemes ++ after)) :
    xs = (before ++ f.keyword :: f.words) ++ f.colon :: (f.frame.opening ++ (f.block ++
      f.frame.dedent :: after)) := by
  simp [hxs, lexemes]

theorem length_front (before : List Lexeme) :
    (before ++ f.keyword :: f.words).length = before.length + f.opener := by
  simp only [opener, List.length_append, List.length_cons]
  omega

/-- The scan of the header stops at the colon. -/
theorem scan_eq (hxs : xs = before ++ (f.lexemes ++ after)) :
    Header.scan {} 0 (before.length + 1) (xs.drop (before.length + 1)) =
      { (Header.scan {} 0 1 f.words).shift before.length with
        scopeOpener := some (before.length + f.opener) } := by
  have hdrop : xs.drop (before.length + 1) = f.words ++ f.colon :: (f.frame.opening ++ (f.block ++
      f.frame.dedent :: after)) := by
    rw [f.cut hxs, List.append_assoc, List.cons_append, List.append_cons]
    exact List.drop_left' (by simp)
  rw [hdrop, Header.scan_words f.header f.isColon, ← Header.scan_shift, opener, ← Nat.add_assoc]
  rfl

/-- The scope ends with the last kept lexeme before the dedent. -/
theorem lastIn_eq (hxs : xs = before ++ (f.lexemes ++ after)) :
    lastIn Lexeme.isKept xs 0 (before.length + f.dedentAt) =
      some (Layout.scopeEnd xs (before.length + f.opener)) := by
  have h := Layout.lastIn_eq_scopeEnd f.frame f.balanced (f.cut hxs)
  rw [f.length_front] at h
  rw [← h, dedentAt, block]
  congr 1
  omega

theorem scopeEnd_eq (hxs : xs = before ++ (f.lexemes ++ after)) :
    Layout.scopeEnd xs (before.length + f.opener) =
      before.length + Layout.scopeEnd f.lexemes f.opener := by
  have h0 := f.lastIn_eq (show f.lexemes = [] ++ (f.lexemes ++ []) by simp)
  rw [List.length_nil, Nat.zero_add, Nat.zero_add] at h0
  obtain ⟨-, hc, hkept, hafter⟩ := lastIn_eq_some_iff.1 h0
  have hlen := f.length_lexemes
  have h := f.lastIn_eq hxs
  rw [← Option.some.injEq, ← h, lastIn_eq_some_iff]
  refine ⟨by omega, by omega, by rwa [f.getElem?_lexemes hxs (by omega)], fun j h1 h2 => ?_⟩
  obtain ⟨i, rfl⟩ := Nat.exists_eq_add_of_le (show before.length ≤ j by omega)
  rw [f.getElem?_lexemes hxs (by omega)]
  exact hafter i (by omega) (by omega)

theorem ofDeclaration_eq (hxs : xs = before ++ (f.lexemes ++ after)) :
    Layout.ofDeclaration xs before.length =
      (Layout.ofDeclaration f.lexemes 0).shift before.length := by
  have h0 : f.lexemes = [] ++ (f.lexemes ++ []) := by simp
  have e := f.scan_eq hxs
  have e0 := f.scan_eq h0
  simp only [List.length_nil, Nat.zero_add] at e0
  unfold Layout.ofDeclaration Layout.shift
  rw [e, e0]
  simp only [Option.map_some, f.scopeEnd_eq hxs]
  simp [Header.shift]

theorem scopeOpener_eq : (Layout.ofDeclaration f.lexemes 0).scopeOpener = some f.opener := by
  have e := f.scan_eq (show f.lexemes = [] ++ (f.lexemes ++ []) by simp)
  simp only [List.length_nil, Nat.zero_add] at e
  unfold Layout.ofDeclaration
  rw [e]

theorem exists_parens : ∃ a b, (Layout.ofDeclaration f.lexemes 0).parenOpener = some a ∧
    (Layout.ofDeclaration f.lexemes 0).parenCloser = some b := by
  have e := f.scan_eq (show f.lexemes = [] ++ (f.lexemes ++ []) by simp)
  simp only [List.length_nil, Nat.zero_add] at e
  obtain ⟨i, hi, hparen, hz⟩ := f.paren
  have hopen : (Layout.ofDeclaration f.lexemes 0).parenOpener.isSome = true := by
    unfold Layout.ofDeclaration
    rw [e]
    simpa [Header.shift] using
      Header.isSome_parenOpener_of_paren f.header.oneLine f.header.noColon hi hparen hz 1
  have hclose := (Layout.sound_ofDeclaration (x := f.keyword) rfl : Layout.Sound f.lexemes 0 _).closed
    (by rw [f.scopeOpener_eq]; rfl) hopen
  obtain ⟨a, ha⟩ := Option.isSome_iff_exists.1 hopen
  obtain ⟨b, hb⟩ := Option.isSome_iff_exists.1 hclose
  exact ⟨a, b, ha, hb⟩

/-- The scope ends after its last statement and before the dedent. -/
theorem closer_bounds : f.lastAt ≤ Layout.scopeEnd f.lexemes f.opener ∧
    Layout.scopeEnd f.lexemes f.opener < f.dedentAt := by
  have h := f.lastIn_eq (show f.lexemes = [] ++ (f.lexemes ++ []) by simp)
  rw [List.length_nil, Nat.zero_add, Nat.zero_add] at h
  obtain ⟨-, hlt, -, hafter⟩ := lastIn_eq_some_iff.1 h
  refine ⟨?_, hlt⟩
  rcases Nat.lt_or_ge (Layout.scopeEnd f.lexemes f.opener) f.lastAt with hearly | hle
  · have := hafter f.lastAt hearly f.lastAt_lt_dedentAt
    rw [f.getElem?_lastAt, Option.any_some, Lexeme.isKept_of_newline f.last_type] at this
    cases this
  · exact hle

/-! ## The documenting string -/

/-- A search from within the function ends within it, at the dedent at the latest. -/
theorem firstIn_eq (hxs : xs = before ++ (f.lexemes ++ after)) {p : Lexeme → Bool}
    (hp : p f.frame.dedent = true) {i : Nat} (hi : i ≤ f.dedentAt) :
    ∃ k, i ≤ k ∧ k ≤ f.dedentAt ∧ firstIn p f.lexemes i f.lexemes.length = some k ∧
      firstIn p xs (before.length + i) xs.length = some (before.length + k) := by
  have hlen := f.length_lexemes
  refine firstIn_shift_of_any before.length hi (fun j _ hj => ?_) ?_
  · rw [f.getElem?_lexemes hxs (by omega)]
  · rw [f.getElem?_dedentAt, Option.any_some, hp]

/-- The documenting string of the function, wherever it stands. -/
theorem docString_eq (hxs : xs = before ++ (f.lexemes ++ after)) :
    (Layout.ofDeclaration xs before.length).docString? xs =
      ((Layout.ofDeclaration f.lexemes 0).docString? f.lexemes).map (before.length + ·) := by
  have hlen := f.length_lexemes
  have hc := Layout.scopeCloser_ofDeclaration f.lexemes 0
  rw [f.scopeOpener_eq, Option.map_some] at hc
  have hbound := f.closer_bounds
  have hxlen : xs.length = before.length + (f.lexemes.length + after.length) := by
    rw [hxs, List.length_append, List.length_append]
  have hmin : min (before.length + (Layout.scopeEnd f.lexemes f.opener + 1)) xs.length =
      before.length + (Layout.scopeEnd f.lexemes f.opener + 1) := by
    omega
  have hmin0 : min (Layout.scopeEnd f.lexemes f.opener + 1) f.lexemes.length =
      Layout.scopeEnd f.lexemes f.opener + 1 := by
    omega
  have hfirst : firstIn (fun x => !Layout.isBodySkip x) xs (before.length + (f.opener + 1))
      (before.length + (Layout.scopeEnd f.lexemes f.opener + 1)) =
        (firstIn (fun x => !Layout.isBodySkip x) f.lexemes (f.opener + 1)
          (Layout.scopeEnd f.lexemes f.opener + 1)).map (before.length + ·) :=
    firstIn_shift before.length fun j _ hj => by rw [f.getElem?_lexemes hxs (by omega)]
  rw [f.ofDeclaration_eq hxs]
  simp only [Layout.docString?, Layout.shift, f.scopeOpener_eq, hc, Option.map_some,
    Option.bind_eq_bind, Option.bind_some, hmin, hmin0, Nat.add_assoc, hfirst]
  cases hi : firstIn (fun x => !Layout.isBodySkip x) f.lexemes (f.opener + 1)
      (Layout.scopeEnd f.lexemes f.opener + 1) with
  | none => rfl
  | some i =>
    obtain ⟨-, hlt, -, -⟩ := firstIn_eq_some_iff.1 hi
    obtain ⟨k, -, hk, e, e'⟩ := f.firstIn_eq hxs (p := (·.type != .comment))
      (by simp [f.frame.dedent_type]) (show i + 1 ≤ f.dedentAt by omega)
    simp only [Option.map_some, Option.bind_some, Nat.add_assoc, e, e',
      f.getElem?_lexemes hxs (show i < f.lexemes.length by omega),
      f.getElem?_lexemes hxs (show k < f.lexemes.length by omega)]
    split <;> rfl

end CompleteFunction

end DocLint
