import DocLint.Proofs.Lexeme.Depth

/-!
# What the scan of a header finds

`Header.scan` counts brackets from the keyword on. `Header.Traced` is what
holds of its result so far after any number of lexemes: where the parentheses
are, and how deep the brackets are around them. It holds for lexemes in any
order, so also where brackets close that never opened.

Results:
* `scan_traced`: the scan keeps `Traced` up to where it stops, and it stops at
  a colon outside brackets, at the end of the line or at the end of the file.
* `scan_cons`: what one lexeme does to the scan.
* `scan_words`: the colon after the words of a header opens the scope.
* `scan_append_of_lt`: what follows the colon makes no difference.
* `scan_shift`: positions shift with the position of the first lexeme.
-/
namespace DocLint

/-! ## The invariant of the scan -/

namespace Header

/-- The parentheses that have been found in the lexemes `done`, of which the
first is at `base`. -/
structure Traced (base : Nat) (done : List Lexeme) (h : Header) : Prop where
  opener : ∀ a, h.parenOpener = some a → ∃ i x, a = base + i ∧ done[i]? = some x ∧
    x.isOperator "(" = true ∧ bracketDepth (done.take i) = 0
  inside : ∀ i, h.parenOpener = some (base + i) → h.parenCloser = none →
    ∀ j, i < j → j ≤ done.length → 0 < bracketDepth (done.take j)
  closer : ∀ b, h.parenCloser = some b → ∃ i j x, b = base + j ∧ h.parenOpener = some (base + i) ∧
    i < j ∧ done[j]? = some x ∧ x.closesBracket = true ∧ bracketDepth (done.take (j + 1)) = 0 ∧
    ∀ m, i < m → m ≤ j → 0 < bracketDepth (done.take m)

variable {base : Nat} {done : List Lexeme} {h : Header} {x : Lexeme}

theorem traced_nil (base : Nat) : Traced base [] {} where
  opener := by intro a ha; cases ha
  inside := by intro i hi; cases hi
  closer := by intro b hb; cases hb

theorem take_snoc {j : Nat} (hj : j ≤ done.length) : (done ++ [x]).take j = done.take j :=
  List.take_append_of_le_length hj

theorem getElem?_snoc {j : Nat} {y : Lexeme} (h : done[j]? = some y) :
    (done ++ [x])[j]? = some y := by
  rw [List.getElem?_append_left (List.getElem?_eq_some_iff.1 h).1, h]

/-- A closer that has been found stays where it is. -/
theorem Traced.closer_snoc (t : Traced base done h) (x : Lexeme) {b : Nat}
    (hb : h.parenCloser = some b) : ∃ i j y, b = base + j ∧ h.parenOpener = some (base + i) ∧
      i < j ∧ (done ++ [x])[j]? = some y ∧ y.closesBracket = true ∧
      bracketDepth ((done ++ [x]).take (j + 1)) = 0 ∧
      ∀ m, i < m → m ≤ j → 0 < bracketDepth ((done ++ [x]).take m) := by
  obtain ⟨i, j, y, rfl, ho, hij, hy, hc, hz, hm⟩ := t.closer b hb
  have hlt := (List.getElem?_eq_some_iff.1 hy).1
  refine ⟨i, j, y, rfl, ho, hij, getElem?_snoc hy, hc, ?_, fun m h1 h2 => ?_⟩
  · rw [take_snoc (by omega)]
    exact hz
  · rw [take_snoc (by omega)]
    exact hm m h1 h2

/-- An opener that has been found stays where it is. -/
theorem Traced.opener_snoc (t : Traced base done h) (x : Lexeme) {a : Nat}
    (ha : h.parenOpener = some a) : ∃ i y, a = base + i ∧ (done ++ [x])[i]? = some y ∧
      y.isOperator "(" = true ∧ bracketDepth ((done ++ [x]).take i) = 0 := by
  obtain ⟨i, y, rfl, hy, hp, hz⟩ := t.opener a ha
  have hlt := (List.getElem?_eq_some_iff.1 hy).1
  refine ⟨i, y, rfl, getElem?_snoc hy, hp, ?_⟩
  rw [take_snoc (by omega)]
  exact hz

/-- Inside the parentheses a step keeps the depth positive, unless it is the
one that closes them. -/
theorem Traced.inside_snoc (t : Traced base done h) {i : Nat}
    (ho : h.parenOpener = some (base + i)) (hc : h.parenCloser = none)
    (hpos : 0 < bracketDepth (done ++ [x])) {j : Nat} (hij : i < j)
    (hj : j ≤ (done ++ [x]).length) : 0 < bracketDepth ((done ++ [x]).take j) := by
  rw [List.length_append, List.length_singleton] at hj
  by_cases hlast : j = done.length + 1
  · rw [List.take_of_length_le (by simp; omega)]
    exact hpos
  · rw [take_snoc (by omega)]
    exact t.inside i ho hc j hij (by omega)

theorem Traced.depth_pos (t : Traced base done h) {i : Nat}
    (ho : h.parenOpener = some (base + i)) (hc : h.parenCloser = none) :
    0 < bracketDepth done := by
  obtain ⟨k, y, hk, hy, -, -⟩ := t.opener _ ho
  have hlt := (List.getElem?_eq_some_iff.1 hy).1
  have := t.inside i ho hc done.length (by omega) (Nat.le_refl _)
  rwa [List.take_length] at this

/-- Parentheses are closed only after they have been opened. -/
theorem Traced.closer_none (t : Traced base done h) (ho : h.parenOpener = none) :
    h.parenCloser = none := by
  cases hc : h.parenCloser with
  | none => rfl
  | some b =>
    obtain ⟨i, j, y, -, ha, -⟩ := t.closer b hc
    rw [ho] at ha
    cases ha

theorem Traced.opens (t : Traced base done h) (hx : x.opensBracket = true) :
    Traced base (done ++ [x])
      { h with parenOpener :=
          if bracketDepth done == 0 && x.text == "(" && h.parenOpener.isNone then
            some (base + done.length) else h.parenOpener } := by
  by_cases hnew : (bracketDepth done == 0 && x.text == "(" && h.parenOpener.isNone) = true
  · rw [if_pos hnew]
    simp only [Bool.and_eq_true, beq_iff_eq, Option.isNone_iff_eq_none] at hnew
    obtain ⟨⟨hz, htext⟩, hnone⟩ := hnew
    have hclose := t.closer_none hnone
    have hparen : x.isOperator "(" = true := by
      simp [Lexeme.isOperator, Lexeme.type_of_opensBracket hx, htext]
    refine ⟨?_, ?_, ?_⟩
    · intro a ha
      simp only [Option.some.injEq] at ha
      refine ⟨done.length, x, ha.symm, by simp, hparen, ?_⟩
      rw [take_snoc (Nat.le_refl _), List.take_length]
      exact hz
    · intro i hi _ j hij hj
      simp only [Option.some.injEq] at hi
      rw [List.length_append, List.length_singleton] at hj
      rw [List.take_of_length_le (by simp; omega), bracketDepth_append, hz]
      simp [Lexeme.bracketStep_of_opens hx]
    · intro b hb
      rw [hclose] at hb
      cases hb
  · rw [if_neg hnew]
    refine ⟨fun a ha => t.opener_snoc x ha, fun i ho hc j hij hj => ?_,
      fun b hb => t.closer_snoc x hb⟩
    have hpos := t.depth_pos ho hc
    refine t.inside_snoc ho hc ?_ hij hj
    rw [bracketDepth_append, bracketDepth_cons, Lexeme.bracketStep_of_opens hx, bracketDepth_nil]
    omega

theorem Traced.closes (t : Traced base done h) (hx : x.closesBracket = true) :
    Traced base (done ++ [x])
      { h with parenCloser :=
          if bracketDepth done - 1 == 0 && h.parenOpener.isSome && h.parenCloser.isNone then
            some (base + done.length) else h.parenCloser } := by
  have hstep : bracketDepth (done ++ [x]) = bracketDepth done - 1 := by
    rw [bracketDepth_append, bracketDepth_cons, Lexeme.bracketStep_of_closes hx, bracketDepth_nil]
    omega
  by_cases hnew : (bracketDepth done - 1 == 0 && h.parenOpener.isSome && h.parenCloser.isNone) =
    true
  · rw [if_pos hnew]
    simp only [Bool.and_eq_true, beq_iff_eq, Option.isNone_iff_eq_none] at hnew
    obtain ⟨⟨hz, hsome⟩, hnone⟩ := hnew
    refine ⟨fun a ha => t.opener_snoc x ha, fun i _ hc => (by cases hc), fun b hb => ?_⟩
    rw [Option.some.injEq] at hb
    obtain ⟨a, ha⟩ := Option.isSome_iff_exists.1 hsome
    obtain ⟨i, y, rfl, hy, -, -⟩ := t.opener a ha
    have hlt := (List.getElem?_eq_some_iff.1 hy).1
    refine ⟨i, done.length, x, hb.symm, ha, hlt, by simp, hx, ?_, fun m h1 h2 => ?_⟩
    · rw [List.take_of_length_le (by simp), hstep]
      exact hz
    · rw [take_snoc h2]
      exact t.inside i ha hnone m h1 h2
  · rw [if_neg hnew]
    refine ⟨fun a ha => t.opener_snoc x ha, fun i ho hc j hij hj => ?_,
      fun b hb => t.closer_snoc x hb⟩
    change h.parenOpener = some (base + i) at ho
    change h.parenCloser = none at hc
    have hpos := t.depth_pos ho hc
    refine t.inside_snoc ho hc ?_ hij hj
    have hne : bracketDepth done - 1 ≠ 0 := fun e => hnew (by simp [e, ho, hc])
    omega

theorem Traced.passes (t : Traced base done h) (hx : x.bracketStep = 0) :
    Traced base (done ++ [x]) h := by
  refine ⟨fun a ha => t.opener_snoc x ha, fun i ho hc j hij hj => ?_,
    fun b hb => t.closer_snoc x hb⟩
  have := t.depth_pos ho hc
  exact t.inside_snoc ho hc (by simpa [hx] using this) hij hj

/-! ## The scan -/

/-- Where a scan stops: at the end of the file, at the end of the line, or at a
colon outside brackets, which opens the scope. -/
inductive Stops (base : Nat) (done : List Lexeme) (h : Header) : List Lexeme → Prop
  | atEnd (hs : h.scopeOpener = none) : Stops base done h []
  | atNewline (x : Lexeme) (rest : List Lexeme) (hx : x.type = .newline)
      (hs : h.scopeOpener = none) : Stops base done h (x :: rest)
  | atColon (x : Lexeme) (rest : List Lexeme) (hx : x.isOperator ":" = true)
      (hz : bracketDepth done = 0) (hs : h.scopeOpener = some (base + done.length)) :
      Stops base done h (x :: rest)

/-- The scan keeps the invariant up to where it stops. -/
theorem scan_traced (rest : List Lexeme) : ∀ (done : List Lexeme) (h : Header),
    Traced base done h → h.scopeOpener = none → (∀ x ∈ done, x.type ≠ .newline) →
      ∃ done' rest', done ++ rest = done' ++ rest' ∧ (∀ x ∈ done', x.type ≠ .newline) ∧
        Traced base done' (scan h (bracketDepth done) (base + done.length) rest) ∧
        Stops base done' (scan h (bracketDepth done) (base + done.length) rest) rest' := by
  induction rest with
  | nil => exact fun done h t hs hn => ⟨done, [], rfl, hn, t, .atEnd hs⟩
  | cons x rest ih =>
    intro done h t hs hn
    by_cases hnl : x.type = .newline
    · refine ⟨done, x :: rest, rfl, hn, ?_, ?_⟩ <;> simp only [scan, hnl, beq_self_eq_true, if_true]
      · exact t
      · exact .atNewline x rest hnl hs
    have hn' : ∀ y ∈ done ++ [x], y.type ≠ .newline := by
      intro y hy
      rcases List.mem_append.1 hy with hy | hy
      · exact hn y hy
      · rw [List.mem_singleton.1 hy]
        exact hnl
    have step : ∀ h' : Header, Traced base (done ++ [x]) h' → h'.scopeOpener = none →
        scan h (bracketDepth done) (base + done.length) (x :: rest) =
          scan h' (bracketDepth (done ++ [x])) (base + (done ++ [x]).length) rest →
        ∃ done' rest', done ++ x :: rest = done' ++ rest' ∧ (∀ x ∈ done', x.type ≠ .newline) ∧
          Traced base done' (scan h (bracketDepth done) (base + done.length) (x :: rest)) ∧
          Stops base done' (scan h (bracketDepth done) (base + done.length) (x :: rest)) rest' := by
      intro h' t' hs' e
      rw [e, List.append_cons]
      exact ih (done ++ [x]) h' t' hs' hn'
    have hlen : base + done.length + 1 = base + (done ++ [x]).length := by simp; omega
    by_cases ho : x.opensBracket = true
    · refine step _ (t.opens ho) hs ?_
      simp [scan, hnl, ho, Lexeme.bracketStep_of_opens, Nat.add_assoc]
    by_cases hc : x.closesBracket = true
    · refine step _ (t.closes hc) hs ?_
      simp [scan, hnl, ho, hc, Lexeme.bracketStep_of_closes, Nat.add_assoc, Int.sub_eq_add_neg]
    have hz : x.bracketStep = 0 := by simp [Lexeme.bracketStep, ho, hc]
    by_cases hcolon : (x.isOperator ":" && bracketDepth done == 0) = true
    · have hcol := hcolon
      simp only [Bool.and_eq_true, beq_iff_eq] at hcol
      refine ⟨done, x :: rest, rfl, hn, ?_, ?_⟩ <;>
        simp only [scan, hnl, ho, hc, hcolon, beq_iff_eq, if_true, if_false, Bool.false_eq_true]
      · exact ⟨t.opener, t.inside, t.closer⟩
      · exact .atColon x rest hcol.1 hcol.2 rfl
    · refine step _ (t.passes hz) hs ?_
      simp [scan, hnl, ho, hc, hcolon, hz, Nat.add_assoc]

/-! ## Headers by their words -/

/-- What may stand between a keyword and the colon that opens its scope: words
on one logical line with balanced brackets, and no colon outside brackets. -/
structure Words (words : List Lexeme) : Prop where
  oneLine : ∀ x ∈ words, x.type ≠ .newline
  balanced : bracketDepth words = 0
  noColon : ∀ i (hi : i < words.length),
    words[i].isOperator ":" = true → bracketDepth (words.take i) ≠ 0

/-- The scan passes over words without the end of the line and without a colon
outside brackets. -/
theorem scan_append (rest words : List Lexeme) : ∀ (h : Header) (depth : Int) (position : Nat),
    (∀ x ∈ words, x.type ≠ .newline) →
    (∀ i (hi : i < words.length),
      words[i].isOperator ":" = true → depth + bracketDepth (words.take i) ≠ 0) →
    (scan h depth position words).scopeOpener = h.scopeOpener ∧
      scan h depth position (words ++ rest) =
        scan (scan h depth position words) (depth + bracketDepth words)
          (position + words.length) rest := by
  induction words with
  | nil => intro h depth position _ _; simp [scan]
  | cons x words ih =>
    intro h depth position hn hc
    have hnl : x.type ≠ .newline := hn x (by simp)
    have hc0 : x.isOperator ":" = true → depth ≠ 0 := fun hx => by simpa using hc 0 (by simp) hx
    have hcs : ∀ d', d' = depth + x.bracketStep → ∀ i (hi : i < words.length),
        words[i].isOperator ":" = true → d' + bracketDepth (words.take i) ≠ 0 := by
      rintro d' rfl i hi hx
      have := hc (i + 1) (by simpa using hi) (by simpa using hx)
      simpa [Int.add_assoc] using this
    have tail : ∀ (h' : Header) (d' : Int), d' = depth + x.bracketStep →
        h'.scopeOpener = h.scopeOpener →
        (scan h' d' (position + 1) words).scopeOpener = h.scopeOpener ∧
          scan h' d' (position + 1) (words ++ rest) =
            scan (scan h' d' (position + 1) words) (depth + bracketDepth (x :: words))
              (position + (x :: words).length) rest := by
      intro h' d' hd hs
      obtain ⟨e1, e2⟩ := ih h' d' (position + 1) (fun y hy => hn y (by simp [hy])) (hcs d' hd)
      refine ⟨e1.trans hs, ?_⟩
      rw [e2, hd, bracketDepth_cons, List.length_cons, Int.add_assoc]
      congr 1
      omega
    simp only [List.cons_append, scan, beq_iff_eq, hnl, if_false]
    by_cases ho : x.opensBracket = true
    · simp only [ho, if_true]
      exact tail _ _ (by rw [Lexeme.bracketStep_of_opens ho]) rfl
    by_cases hcl : x.closesBracket = true
    · simp only [ho, hcl, if_true, if_false, Bool.false_eq_true]
      exact tail _ _ (by rw [Lexeme.bracketStep_of_closes hcl, Int.sub_eq_add_neg]) rfl
    have hcolon : (x.isOperator ":" && depth == 0) = false := by
      cases hx : x.isOperator ":"
      · rfl
      · simpa using hc0 hx
    simp only [ho, hcl, hcolon, if_false, Bool.false_eq_true]
    exact tail h depth (by simp [Lexeme.bracketStep, ho, hcl]) rfl

/-- The colon after the words of a header opens the scope. -/
theorem scan_words {words : List Lexeme} {colon : Lexeme} (hw : Words words)
    (hc : colon.isOperator ":" = true) (position : Nat) (rest : List Lexeme) :
    scan {} 0 position (words ++ colon :: rest) =
      { scan {} 0 position words with scopeOpener := some (position + words.length) } := by
  obtain ⟨-, e⟩ := scan_append (colon :: rest) words {} 0 position hw.oneLine
    (fun i hi hx => by simpa using hw.noColon i hi hx)
  have hstep := Lexeme.bracketStep_colon hc
  have ho : colon.opensBracket = false := by
    cases ho : colon.opensBracket
    · rfl
    · simp [Lexeme.bracketStep_of_opens ho] at hstep
  have hcl : colon.closesBracket = false := by
    cases hcl : colon.closesBracket
    · rfl
    · simp [Lexeme.bracketStep_of_closes hcl] at hstep
  rw [e, hw.balanced]
  simp [scan, Lexeme.type_eq_operator hc, ho, hcl, hc]

/-- What one lexeme does to the scan, whatever follows: the scan stops, perhaps at
the colon, or it goes on without one. An opener that has been found is kept. -/
theorem scan_cons (h : Header) (depth : Int) (position : Nat) (x : Lexeme) :
    ∃ h' : Header, (h.parenOpener.isSome = true → h'.parenOpener.isSome = true) ∧
      (((h'.scopeOpener = h.scopeOpener ∨ h'.scopeOpener = some position) ∧
        ∀ rest, scan h depth position (x :: rest) = h') ∨
      ∃ depth' : Int, h'.scopeOpener = h.scopeOpener ∧
        ∀ rest, scan h depth position (x :: rest) = scan h' depth' (position + 1) rest) := by
  by_cases hn : x.type = .newline
  · exact ⟨h, id, .inl ⟨.inl rfl, fun rest => by simp [scan, hn]⟩⟩
  by_cases ho : x.opensBracket = true
  · refine ⟨{ h with parenOpener :=
      if depth == 0 && x.text == "(" && h.parenOpener.isNone then some position
      else h.parenOpener }, ?_, .inr ⟨depth + 1, rfl, fun rest => ?_⟩⟩
    · intro hs
      dsimp only
      split
      · rfl
      · exact hs
    · simp only [scan, hn, ho, beq_iff_eq, if_false, if_true]
  by_cases hc : x.closesBracket = true
  · refine ⟨{ h with parenCloser :=
      if depth - 1 == 0 && h.parenOpener.isSome && h.parenCloser.isNone then some position
      else h.parenCloser }, id, .inr ⟨depth - 1, rfl, fun rest => ?_⟩⟩
    simp only [scan, hn, ho, hc, beq_iff_eq, if_false, if_true, Bool.false_eq_true]
  by_cases hcolon : (x.isOperator ":" && depth == 0) = true
  · refine ⟨{ h with scopeOpener := some position }, id, .inl ⟨.inr rfl, fun rest => ?_⟩⟩
    simp only [scan, hn, ho, hc, hcolon, beq_iff_eq, if_false, if_true, Bool.false_eq_true]
  · refine ⟨h, id, .inr ⟨depth, rfl, fun rest => ?_⟩⟩
    simp only [scan, hn, ho, hc, hcolon, beq_iff_eq, if_false, Bool.false_eq_true]

theorem isSome_parenOpener_scan (rest : List Lexeme) : ∀ (h : Header) (depth : Int)
    (position : Nat), h.parenOpener.isSome = true →
      (scan h depth position rest).parenOpener.isSome = true := by
  induction rest with
  | nil => exact fun h depth position hs => hs
  | cons x rest ih =>
    intro h depth position hs
    obtain ⟨h', hkeep, ⟨-, e⟩ | ⟨depth', -, e⟩⟩ := scan_cons h depth position x
    · rw [e]
      exact hkeep hs
    · rw [e]
      exact ih h' depth' (position + 1) (hkeep hs)

theorem isSome_parenOpener_of_paren {words : List Lexeme} (hn : ∀ x ∈ words, x.type ≠ .newline)
    (hc : ∀ i (hi : i < words.length),
      words[i].isOperator ":" = true → bracketDepth (words.take i) ≠ 0)
    {i : Nat} (hi : i < words.length) (hp : words[i].isOperator "(" = true)
    (hz : bracketDepth (words.take i) = 0) (position : Nat) :
    (scan {} 0 position words).parenOpener.isSome = true := by
  have hsplit : words = words.take i ++ words[i] :: words.drop (i + 1) := by
    rw [← List.drop_eq_getElem_cons hi, List.take_append_drop]
  obtain ⟨-, e⟩ := scan_append (words[i] :: words.drop (i + 1)) (words.take i) {} 0 position
    (fun x hx => hn x (List.mem_of_mem_take hx)) (fun j hj hx => by
      rw [List.length_take] at hj
      rw [List.getElem_take] at hx
      rw [List.take_take, Nat.min_eq_left (by omega)]
      simpa using hc j (by omega) hx)
  have hopen : words[i].opensBracket = true := by simp [Lexeme.opensBracket, hp]
  rw [hsplit, e, hz]
  unfold scan
  simp only [Lexeme.type_eq_operator hp, hopen, Lexeme.text_eq hp, beq_iff_eq, reduceCtorEq,
    if_false, if_true]
  refine isSome_parenOpener_scan _ _ _ _ ?_
  cases hs : (scan {} 0 position (words.take i)).parenOpener <;> simp

/-! ## What follows the colon -/

theorem le_scopeOpener {o : Nat} (rest : List Lexeme) : ∀ (h : Header) (depth : Int)
    (position : Nat), h.scopeOpener = none →
      (scan h depth position rest).scopeOpener = some o → position ≤ o := by
  induction rest with
  | nil =>
    intro h depth position hnone ho
    rw [scan, hnone] at ho
    cases ho
  | cons x rest ih =>
    intro h depth position hnone ho
    obtain ⟨h', -, ⟨hstop, e⟩ | ⟨depth', hgo, e⟩⟩ := scan_cons h depth position x
    · rw [e] at ho
      rcases hstop with hstop | hstop
      · rw [ho, hnone] at hstop
        cases hstop
      · rw [ho, Option.some.injEq] at hstop
        omega
    · rw [e] at ho
      have := ih h' depth' (position + 1) (hgo.trans hnone) ho
      omega

/-- What follows the colon makes no difference. -/
theorem scan_append_of_lt {o : Nat} (rest rest' words : List Lexeme) : ∀ (h : Header) (depth : Int)
    (position : Nat), h.scopeOpener = none →
      (scan h depth position (words ++ rest)).scopeOpener = some o → o < position + words.length →
        scan h depth position (words ++ rest') = scan h depth position (words ++ rest) := by
  induction words with
  | nil =>
    intro h depth position hnone ho hlt
    have hle := le_scopeOpener rest h depth position hnone ho
    rw [List.length_nil] at hlt
    omega
  | cons x words ih =>
    intro h depth position hnone ho hlt
    rw [List.cons_append] at ho ⊢
    rw [List.cons_append]
    obtain ⟨h', -, ⟨-, e⟩ | ⟨depth', hgo, e⟩⟩ := scan_cons h depth position x
    · rw [e, e]
    · rw [e] at ho
      rw [e, e]
      rw [List.length_cons] at hlt
      exact ih h' depth' (position + 1) (hgo.trans hnone) ho (by omega)

/-! ## Reading the same line elsewhere -/

/-- A header further down in a file. -/
def shift (h : Header) (n : Nat) : Header :=
  { parenOpener := h.parenOpener.map (n + ·)
    parenCloser := h.parenCloser.map (n + ·)
    scopeOpener := h.scopeOpener.map (n + ·) }

/-- Positions shift with the position of the first lexeme. -/
theorem scan_shift (n : Nat) (rest : List Lexeme) : ∀ (h : Header) (depth : Int)
    (position : Nat), scan (h.shift n) depth (n + position) rest =
      (scan h depth position rest).shift n := by
  induction rest with
  | nil => exact fun h depth position => rfl
  | cons x rest ih =>
    intro h depth position
    unfold scan
    split
    · rfl
    · split
      · rw [← ih]
        simp only [shift, Option.isNone_map]
        split <;> rfl
      · split
        · rw [← ih]
          simp only [shift, Option.isNone_map, Option.isSome_map]
          split <;> rfl
        · split
          · rfl
          · exact ih h depth (position + 1)

end Header

end DocLint
