import DocLint.Literal.Evaluation

/-!
# Reading one quoted literal

A text that is flags and a body between quotes, and nothing else, has one
symbol, and as an expression it stands for what the body stands for.

Results:
* `Expression.ofSymbols?_text`: the expression of one quoted literal.
* `symbols?_quoted`: the symbol of one quoted literal.
* `readText_quoted`: what one quoted literal stands for, whatever names there are.
-/
namespace DocLint.Literal

/-! ## The expression of one symbol

Nothing follows the symbol, so no reader on the way down to the atom goes on. -/

section

variable (value : List Char) (fuel : Nat)

theorem readAtom_text :
    readAtom (fuel + 1) [.quotation (.text value)] = some (.text value, []) := by
  rw [readAtom.eq_def]
  simp [splitQuotations, Expression.ofQuotations, Quotation.isBytes, Quotation.text?]

theorem readTrailers_nil (e : Expression) : readTrailers (fuel + 1) e [] = some (e, []) := by
  rw [readTrailers.eq_def]

theorem readPrimary_text :
    readPrimary (fuel + 2) [.quotation (.text value)] = some (.text value, []) := by
  rw [readPrimary.eq_def]
  simp only [readAtom_text, readTrailers_nil, bind, Option.bind]

theorem readPower_text :
    readPower (fuel + 3) [.quotation (.text value)] = some (.text value, []) := by
  rw [readPower.eq_def]
  simp only [readPrimary_text]
  rfl

theorem readOperand_text (level : Nat) :
    readOperand (fuel + 4) level [.quotation (.text value)] = some (.text value, []) := by
  rw [readOperand.eq_def]
  exact readPower_text value fuel

theorem readOperators_nil (level : Nat) (e : Expression) :
    readOperators (fuel + 1) level e [] = some (e, []) := by
  rw [readOperators.eq_def]
  rfl

theorem readOperands_text (level : Nat) :
    readOperands (fuel + 5) level [.quotation (.text value)] = some (.text value, []) := by
  rw [readOperands.eq_def]
  simp only [readOperand_text, readOperators_nil, bind, Option.bind]

theorem readExpression_text :
    readExpression (fuel + 6) [.quotation (.text value)] = some (.text value, []) := by
  rw [readExpression.eq_def]
  simp only [readOperands_text]
  rfl

theorem Expression.ofSymbols?_text :
    Expression.ofSymbols? [.quotation (.text value)] = some (.text value) := by
  simp only [Expression.ofSymbols?, readToEnd, List.length_singleton, readExpression_text]
  rfl

end

/-! ## The symbol of one literal -/

/-- The spellings of the flags of a text. -/
def textFlags : List (List Char) := [[], ['u'], ['U'], ['r'], ['R']]

/-- Whether flags say that escapes do not count. -/
def isRaw (flags : List Char) : Bool := flags.map Char.toLower == ['r']

def quoteMarks : List Char := ['\'', '"']

variable {lexicon : Lexicon} {flags rest body value : List Char} {mark : Char}

theorem eq_of_mem_quoteMarks (h : mark ∈ quoteMarks) : mark = '\'' ∨ mark = '"' := by
  simpa [quoteMarks] using h

theorem ofSpelling?_of_mem_textFlags (h : flags ∈ textFlags) :
    QuoteFlags.ofSpelling? flags = some (.text (isRaw flags)) := by
  revert flags
  decide

theorem quoted_eq_cons (hflags : flags ∈ textFlags) (hmark : mark ∈ quoteMarks)
    (rest : List Char) :
    ∃ c more, flags ++ mark :: rest = c :: more ∧
      c ∈ ['\'', '"', 'u', 'U', 'r', 'R'] := by
  cases flags with
  | nil =>
    refine ⟨mark, rest, rfl, ?_⟩
    rcases eq_of_mem_quoteMarks hmark with rfl | rfl <;> decide
  | cons c flags =>
    refine ⟨c, flags ++ mark :: rest, rfl, ?_⟩
    simp only [textFlags, List.mem_cons, List.not_mem_nil, or_false, List.cons.injEq,
      reduceCtorEq, false_or] at hflags ⊢
    rcases hflags with ⟨rfl, -⟩ | ⟨rfl, -⟩ | ⟨rfl, -⟩ | ⟨rfl, -⟩ <;> decide

/-- Nothing lies before a literal: no blanks, no line start and no gap. -/
theorem starts_of_mem {c : Char} {more : List Char} (h : c ∈ ['\'', '"', 'u', 'U', 'r', 'R']) :
    (c :: more).dropWhile (fun c => c == ' ' || c == '\t') = c :: more ∧
      skipLines (.blanks 0 0) (c :: more) = some (c :: more) ∧
      skipGap 0 false (c :: more) = some (c :: more) := by
  simp only [List.mem_cons, List.not_mem_nil, or_false] at h
  rcases h with rfl | rfl | rfl | rfl | rfl | rfl <;> exact ⟨rfl, rfl, rfl⟩

/-- Flags and a mark are neither line ends nor zero characters. -/
theorem plain_of_mem (hflags : flags ∈ textFlags) (hmark : mark ∈ quoteMarks) :
    '\n' ∉ flags ++ [mark] ∧ '\r' ∉ flags ++ [mark] ∧ '\x00' ∉ flags ++ [mark] := by
  rcases eq_of_mem_quoteMarks hmark with rfl | rfl
  · revert flags
    decide
  · revert flags
    decide

theorem quoted?_text (hflags : flags ∈ textFlags)
    (hclose : closeQuote mark rest = some (body, []))
    (hvalue : (QuoteFlags.text (isRaw flags)).quotation? lexicon body = some (.text value)) :
    quoted? lexicon flags mark rest = some (.quotation (.text value), []) := by
  simp only [quoted?, ofSpelling?_of_mem_textFlags hflags, hclose, hvalue, bind, Option.bind, pure]

theorem not_isWordPart_mark (h : mark ∈ quoteMarks) : isWordPart mark = false := by
  rcases eq_of_mem_quoteMarks h with rfl | rfl <;> decide

theorem symbol?_quoted (hflags : flags ∈ textFlags) (hmark : mark ∈ quoteMarks)
    (hclose : closeQuote mark rest = some (body, []))
    (hvalue : (QuoteFlags.text (isRaw flags)).quotation? lexicon body = some (.text value))
    {c : Char} {more : List Char} (hcons : flags ++ mark :: rest = c :: more) :
    symbol? lexicon c more = some (.quotation (.text value), []) := by
  have hquoted := quoted?_text hflags hclose hvalue
  have hmark' := eq_of_mem_quoteMarks hmark
  cases flags with
  | nil =>
    obtain ⟨rfl, rfl⟩ := List.cons.inj hcons
    rw [symbol?, if_pos (by simpa using hmark'), hquoted]
  | cons f flags =>
    obtain ⟨rfl, rfl⟩ := List.cons.inj hcons
    obtain rfl : flags = [] := by
      simp only [textFlags, List.mem_cons, List.cons.injEq, List.not_mem_nil, or_false,
        reduceCtorEq, false_or] at hflags
      rcases hflags with ⟨-, h⟩ | ⟨-, h⟩ | ⟨-, h⟩ | ⟨-, h⟩ <;> exact h
    have hf : (f = '\'' || f = '"') = false ∧ f.isDigit = false ∧ isWordStart f = true := by
      simp only [textFlags, List.mem_cons, List.cons.injEq, List.not_mem_nil, or_false,
        reduceCtorEq, false_or, and_true] at hflags
      rcases hflags with rfl | rfl | rfl | rfl <;> decide
    have hspelled : (QuoteFlags.ofSpelling? [f]).isSome := by
      rw [ofSpelling?_of_mem_textFlags hflags]
      rfl
    have hstop := not_isWordPart_mark hmark
    show symbol? lexicon f (mark :: rest) = _
    simp only [symbol?, hf, Bool.false_eq_true, if_false, if_true, wordOrQuoted?,
      List.takeWhile_cons, List.dropWhile_cons, hstop, hspelled, hquoted]
    simp [hmark']

theorem symbolsFrom?_quoted (hflags : flags ∈ textFlags) (hmark : mark ∈ quoteMarks)
    (hclose : closeQuote mark rest = some (body, []))
    (hvalue : (QuoteFlags.text (isRaw flags)).quotation? lexicon body = some (.text value)) :
    symbolsFrom? lexicon 0 (flags ++ mark :: rest) = some [.quotation (.text value)] := by
  obtain ⟨c, more, hcons, hc⟩ := quoted_eq_cons hflags hmark rest
  have hsymbol := symbol?_quoted hflags hmark hclose hvalue hcons
  have hend : symbolsFrom? lexicon 0 [] = some [] := by rw [symbolsFrom?]; rfl
  rw [hcons, symbolsFrom?.eq_def, (starts_of_mem hc).2.2]
  simp only [hsymbol, depthAfter?, hend, List.length_nil, List.length_cons, Nat.zero_lt_succ,
    if_true, bind, Option.bind, pure]

/-! ## Line ends -/

theorem normalizeLineEnds_cons {c : Char} (h : c ≠ '\r') (rest : List Char) :
    normalizeLineEnds (c :: rest) = c :: normalizeLineEnds rest := by
  rw [normalizeLineEnds.eq_def]
  split
  · next heq => exact absurd (List.cons.inj heq).1 h
  · next heq =>
    obtain ⟨rfl, rfl⟩ := List.cons.inj heq
    rw [if_neg h]
  · next heq => exact absurd heq (List.cons_ne_nil _ _)

theorem normalizeLineEnds_append {before : List Char} (h : '\r' ∉ before) (rest : List Char) :
    normalizeLineEnds (before ++ rest) = before ++ normalizeLineEnds rest := by
  induction before with
  | nil => rfl
  | cons c before ih =>
    rw [List.mem_cons, not_or] at h
    rw [List.cons_append, normalizeLineEnds_cons (Ne.symm h.1), ih h.2, List.cons_append]

theorem normalizeLineEnds_of_not_mem {text : List Char} (h : '\r' ∉ text) :
    normalizeLineEnds text = text := by
  have := normalizeLineEnds_append h []
  rwa [List.append_nil, normalizeLineEnds, List.append_nil] at this

/-! ## The literal in a text -/

theorem symbols?_quoted (hflags : flags ∈ textFlags) (hmark : mark ∈ quoteMarks)
    (hnul : '\x00' ∉ rest) (hclose : closeQuote mark (normalizeLineEnds rest) = some (body, []))
    (hvalue : (QuoteFlags.text (isRaw flags)).quotation? lexicon body = some (.text value)) :
    symbols? lexicon (flags ++ mark :: rest) = some [.quotation (.text value)] := by
  obtain ⟨c, more, hcons, hc⟩ := quoted_eq_cons hflags hmark rest
  obtain ⟨c', more', hcons', hc'⟩ := quoted_eq_cons hflags hmark (normalizeLineEnds rest)
  obtain ⟨-, hreturn, hzero⟩ := plain_of_mem hflags hmark
  have hnul' : (flags ++ mark :: rest).contains '\x00' = false := by
    rw [List.append_cons, Bool.eq_false_iff, Ne, List.contains_iff_mem, List.mem_append, not_or]
    exact ⟨hzero, hnul⟩
  have hdrop : (flags ++ mark :: rest).dropWhile (fun c => c == ' ' || c == '\t') =
      flags ++ mark :: rest := by
    rw [hcons]
    exact (starts_of_mem hc).1
  have hnormal : normalizeLineEnds (flags ++ mark :: rest) =
      flags ++ mark :: normalizeLineEnds rest := by
    rw [List.append_cons, normalizeLineEnds_append hreturn, ← List.append_cons]
  have hskip : skipLines (.blanks 0 0) (flags ++ mark :: normalizeLineEnds rest) =
      some (flags ++ mark :: normalizeLineEnds rest) := by
    rw [hcons']
    exact (starts_of_mem hc').2.1
  simp only [symbols?, hnul', Bool.false_eq_true, if_false, hdrop, hnormal, hskip, bind,
    Option.bind, symbolsFrom?_quoted hflags hmark hclose hvalue]

/-- What a text stands for that is one quoted literal. -/
theorem readText_quoted (flags : List Char) (mark : Char) (rest body : List Char)
    (hflags : flags ∈ textFlags) (hmark : mark ∈ quoteMarks)
    (hnul : '\x00' ∉ rest) (hclose : closeQuote mark (normalizeLineEnds rest) = some (body, []))
    (hvalue : (QuoteFlags.text (isRaw flags)).quotation? lexicon body = some (.text value)) :
    readText lexicon (String.ofList (flags ++ mark :: rest)) = .ok value := by
  have hsymbols := symbols?_quoted hflags hmark hnul hclose hvalue
  simp only [readText, Expression.shapeOfText, String.toList_ofList, Expression.ofText?,
    Expression.ofTextWithin?, hsymbols, Expression.ofSymbols?_text, bind, Option.bind]
  rfl

/-! ## A lexicon -/

/-- A lexicon with two names, in capitals only. -/
def Lexicon.small : Lexicon where
  named? name :=
    if name = "BULLET".toList then some '•'
    else if name = "LINE FEED".toList then some '\n'
    else none
  half _ := '\uFFFD'
  refusal text := "malformed: " ++ text

/-- A name in braces is read. -/
example : readText .small "'\\N\x7bBULLET\x7d A.'" = .ok "• A.".toList := by cbv

end DocLint.Literal
