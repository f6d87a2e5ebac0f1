import DocLint.Proofs.Literal.Quoted
import Mathlib.Data.List.TakeWhile

/-!
# Line feeds in a quoted literal

How many line feeds are in the text that a quoted literal stands for, and how
many in the literal as it is written. The two differ by the escapes that stand
for a line feed, by the backslashes that join a line with the next, and by the
line ends that are a carriage return alone.

Results:
* `count_unescape`: what escapes do.
* `count_of_closeQuote`: the quotes hold no line feeds.
* `count_normalizeLineEnds`: what line ends of other forms do.
* `QuotedText.count_value`: all of this together.
-/
namespace DocLint.Literal

/-! ## Escapes -/

/-- The escapes in the text between quotes, in order: what comes after the
backslash, and what the escape stands for. -/
def escapes (lexicon : Lexicon) (body : List Char) : List (Char × List Char) :=
  match body with
  | [] => []
  | '\\' :: c :: rest =>
    match escape lexicon c rest with
    | some (shown, count) => (c, shown) :: escapes lexicon (rest.drop count)
    | none => []
  | _ :: rest => escapes lexicon rest
termination_by body.length
decreasing_by all_goals simp; try omega

def lineFeedEscapes (es : List (Char × List Char)) : Nat := (es.flatMap Prod.snd).count '\n'

def joinedLines (es : List (Char × List Char)) : Nat := es.countP fun e => e.1 == '\n'

variable {lexicon : Lexicon} {body value rest text : List Char} {mark : Char}

theorem hexEscape_take {width : Nat} {shown : List Char} {count : Nat}
    (h : lexicon.hexEscape width rest = some (shown, count)) : '\n' ∉ rest.take count := by
  have hhex : isHex '\n' = false := by decide
  simp only [Lexicon.hexEscape, startsHex, Bool.and_eq_true, Option.ite_none_right_eq_some,
    Option.some.injEq, Prod.mk.injEq] at h
  obtain ⟨⟨⟨-, hdigits⟩, -⟩, -, rfl⟩ := h
  intro hmem
  have := List.all_eq_true.1 hdigits '\n' hmem
  rw [hhex] at this
  cases this

/-- A name in braces starts the text that it is found in. -/
theorem eq_of_braced? {name : List Char} (h : braced? rest = some name) :
    ∃ more, rest = '\x7b' :: (name ++ '\x7d' :: more) := by
  unfold braced? at h
  split at h
  · next after =>
    obtain ⟨hclosed, heq⟩ := Option.ite_none_right_eq_some.1 h
    obtain rfl := Option.some.inj heq
    have hmem : '\x7d' ∈ after := List.contains_iff_mem.1 hclosed
    -- What is left after the name starts with the brace that ends it.
    cases hdrop : after.dropWhile (· != '\x7d') with
    | nil =>
      have := List.dropWhile_eq_nil_iff.1 hdrop _ hmem
      simp at this
    | cons c more =>
      have hc := List.head_dropWhile_not (· != '\x7d') (hdrop ▸ List.cons_ne_nil c more)
      refine ⟨more, ?_⟩
      have hsplit := (after.takeWhile_append_dropWhile (p := (· != '\x7d'))).symm
      simp only [hdrop, List.head_cons, bne_eq_false_iff_eq] at hc
      rw [hdrop, hc] at hsplit
      exact congrArg _ hsplit
  · cases h

theorem namedEscape_take {shown : List Char} {count : Nat}
    (h : lexicon.namedEscape rest = some (shown, count)) : '\n' ∉ rest.take count := by
  simp only [Lexicon.namedEscape, Option.bind_eq_bind, Option.bind_eq_some_iff] at h
  obtain ⟨name, hname, h⟩ := h
  obtain ⟨more, rfl⟩ := eq_of_braced? hname
  obtain ⟨hchars, h⟩ := Option.ite_none_right_eq_some.1 h
  obtain ⟨c, -, heq⟩ := Option.bind_eq_some_iff.1 h
  obtain ⟨-, rfl⟩ := Prod.mk.inj (Option.some.inj heq)
  have htake : ('\x7b' :: (name ++ '\x7d' :: more)).take (name.length + 2) =
      '\x7b' :: (name ++ ['\x7d']) := by
    simp [List.take_append, List.take_of_length_le]
  have hline : '\n' ∉ name := by
    intro hmem
    have := List.all_eq_true.1 (Bool.and_eq_true_iff.1 hchars).2 _ hmem
    revert this
    decide
  rw [htake]
  simp [hline]

theorem octal_take (rest : List Char) :
    '\n' ∉ rest.take ((rest.take 2).takeWhile isOctal).length := by
  have hoctal : isOctal '\n' = false := by decide
  have hprefix : (rest.take 2).takeWhile isOctal <+: rest :=
    (List.takeWhile_prefix _).trans (List.take_prefix _ _)
  rw [← List.prefix_iff_eq_take.1 hprefix]
  intro hmem
  have := List.mem_takeWhile_imp hmem
  rw [hoctal] at this
  cases this

/-- No escape holds a line feed after its first character. -/
theorem escape_take {c : Char} {shown : List Char} {count : Nat} :
    escape lexicon c rest = some (shown, count) → '\n' ∉ rest.take count := by
  have plain (text : List Char) (h : some (text, 0) = some (shown, count)) :
      '\n' ∉ rest.take count := by
    cases h
    exact List.not_mem_nil
  have octal (text : List Char)
      (h : some (text, ((rest.take 2).takeWhile isOctal).length) = some (shown, count)) :
      '\n' ∉ rest.take count := by
    cases h
    exact octal_take rest
  have step {p : Prop} [Decidable p] {a b : Option (List Char × Nat)}
      (ha : a = some (shown, count) → '\n' ∉ rest.take count)
      (hb : b = some (shown, count) → '\n' ∉ rest.take count) :
      (if p then a else b) = some (shown, count) → '\n' ∉ rest.take count := by
    split <;> assumption
  unfold escape
  -- One branch after the other; what belongs to an escape after its first
  -- character are digits or a name in braces, if anything.
  repeat
    refine step (by
      first | exact plain _ | exact hexEscape_take | exact namedEscape_take | exact octal _) ?_
  exact plain _

/-- An escape has its line feed, if it joins two lines, in the source alone, and
those that it stands for in the value alone. -/
theorem count_unescape (h : unescape lexicon body = some value) :
    value.count '\n' + joinedLines (escapes lexicon body) =
      body.count '\n' + lineFeedEscapes (escapes lexicon body) := by
  induction body using unescape.induct generalizing value with
  | case1 =>
    rw [unescape] at h
    cases h
    simp [escapes, joinedLines, lineFeedEscapes]
  | case2 c rest ih =>
    rw [unescape] at h
    simp only [Option.bind_eq_bind, Option.bind_eq_some_iff, Option.pure_def,
      Option.some.injEq] at h
    obtain ⟨⟨shown, count⟩, hescape, more, hmore, rfl⟩ := h
    have hrest : rest.count '\n' = (rest.drop count).count '\n' := by
      rw [← Nat.zero_add ((rest.drop count).count '\n'),
        ← List.count_eq_zero_of_not_mem (escape_take hescape), ← List.count_append,
        List.take_append_drop]
    have hescapes : escapes lexicon ('\\' :: c :: rest) =
        (c, shown) :: escapes lexicon (rest.drop count) := by
      rw [escapes, hescape]
    have hslash : ('\\' == '\n') = false := rfl
    have := ih count hmore
    simp only [hescapes, joinedLines, lineFeedEscapes, List.countP_cons, List.flatMap_cons,
      List.count_append, List.count_cons, hrest, hslash, Bool.false_eq_true, if_false] at this ⊢
    omega
  | case3 c rest hno ih =>
    rw [unescape] at h
    · simp only [Option.bind_eq_bind, Option.bind_eq_some_iff, Option.pure_def,
        Option.some.injEq] at h
      obtain ⟨more, hmore, rfl⟩ := h
      have := ih hmore
      rw [escapes, List.count_cons, List.count_cons]
      · omega
      · exact hno
    · exact hno

/-- A line feed has a name and a number. -/
example : lineFeedEscapes (escapes .small "A.\\N\x7bLINE FEED\x7d\\x0aB.".toList) = 2 := by cbv

/-! ## Quotes -/

theorem closeSingle_eq_some (h : closeSingle mark text = some (body, rest)) :
    text = body ++ mark :: rest := by
  induction text using closeSingle.induct mark generalizing body with
  | case1 c after ih =>
    rw [closeSingle] at h
    obtain ⟨found, hfound, heq⟩ := Option.map_eq_some_iff.1 h
    cases heq
    rw [ih hfound, List.cons_append, List.cons_append]
  | case2 after hno =>
    rw [closeSingle, if_pos rfl] at h
    · cases h
      rfl
    · exact hno
  | case3 after hno hmark =>
    rw [closeSingle, if_neg hmark, if_pos rfl] at h
    · cases h
    · exact hno
  | case4 c after hno hmark hline ih =>
    rw [closeSingle, if_neg hmark, if_neg hline] at h
    · obtain ⟨found, hfound, heq⟩ := Option.map_eq_some_iff.1 h
      cases heq
      rw [ih hfound, List.cons_append]
    · exact hno
  | case5 =>
    rw [closeSingle] at h
    cases h

theorem closeTriple_eq_some (h : closeTriple mark text = some (body, rest)) :
    text = body ++ mark :: mark :: mark :: rest := by
  induction text using closeTriple.induct mark generalizing body with
  | case1 c after ih =>
    rw [closeTriple] at h
    obtain ⟨found, hfound, heq⟩ := Option.map_eq_some_iff.1 h
    cases heq
    rw [ih hfound, List.cons_append, List.cons_append]
  | case2 c after hno hmark =>
    rw [closeTriple, if_pos hmark] at h
    · obtain ⟨rfl, htake⟩ := hmark
      cases h
      rw [← List.take_append_drop 2 after, htake]
      rfl
    · exact hno
  | case3 c after hno hmark ih =>
    rw [closeTriple, if_neg hmark] at h
    · obtain ⟨found, hfound, heq⟩ := Option.map_eq_some_iff.1 h
      cases heq
      rw [ih hfound, List.cons_append]
    · exact hno
  | case4 =>
    rw [closeTriple] at h
    cases h

/-- The quotes themselves are no line feeds. -/
theorem count_of_closeQuote (hmark : mark ≠ '\n') (h : closeQuote mark text = some (body, rest)) :
    text.count '\n' = body.count '\n' + rest.count '\n' := by
  have hone : text = body ++ mark :: rest →
      text.count '\n' = body.count '\n' + rest.count '\n' := by
    rintro rfl
    rw [List.count_append, List.count_cons_of_ne hmark]
  unfold closeQuote at h
  split at h
  · next a b after =>
    split at h
    · next heq =>
      obtain ⟨rfl, rfl⟩ := heq
      rw [closeTriple_eq_some h]
      simp only [List.count_append, List.count_cons_of_ne hmark]
    · exact hone (closeSingle_eq_some h)
  · exact hone (closeSingle_eq_some h)

/-! ## Line ends -/

/-- The number of line ends that are a carriage return alone. -/
def loneReturns : List Char → Nat
  | '\r' :: '\n' :: rest => loneReturns rest
  | c :: rest => (if c = '\r' then 1 else 0) + loneReturns rest
  | [] => 0

theorem count_normalizeLineEnds (text : List Char) :
    (normalizeLineEnds text).count '\n' = text.count '\n' + loneReturns text := by
  induction text using normalizeLineEnds.induct with
  | case1 rest ih =>
    rw [normalizeLineEnds, loneReturns, List.count_cons_self, ih, List.count_cons_of_ne (by decide),
      List.count_cons_self]
    omega
  | case2 c rest hno ih =>
    rw [normalizeLineEnds, loneReturns, List.count_cons, List.count_cons, ih]
    · by_cases hreturn : c = '\r'
      · subst hreturn
        simp
        omega
      · rw [if_neg hreturn, if_neg hreturn]
        omega
    · exact hno
    · exact hno
  | case3 => rfl

theorem loneReturns_append {before : List Char} (h : '\r' ∉ before) (rest : List Char) :
    loneReturns (before ++ rest) = loneReturns rest := by
  induction before with
  | nil => rfl
  | cons c before ih =>
    rw [List.mem_cons, not_or] at h
    have hno (after : List Char) : c = '\r' → before ++ rest = '\n' :: after → False :=
      fun hreturn _ => h.1 hreturn.symm
    rw [List.cons_append, loneReturns, if_neg (Ne.symm h.1), ih h.2, Nat.zero_add]
    exact hno

/-! ## Quoted literals of texts -/

/-- A text that is one quoted literal, with what is between its quotes and what
it stands for. -/
structure QuotedText (lexicon : Lexicon) where
  flags : List Char
  mark : Char
  /-- The literal after its first mark. -/
  rest : List Char
  /-- What is between the quotes, with all line ends in the same form. -/
  body : List Char
  value : List Char
  flags_mem : flags ∈ textFlags
  mark_mem : mark ∈ quoteMarks
  /-- No text with a zero character is a literal. -/
  noZero : '\x00' ∉ rest
  closes : closeQuote mark (normalizeLineEnds rest) = some (body, [])
  standsFor : (QuoteFlags.text (isRaw flags)).quotation? lexicon body = some (.text value)

namespace QuotedText

variable (q : QuotedText lexicon)

def source : List Char := q.flags ++ q.mark :: q.rest

/-- The escapes that count: none if the literal is raw. -/
def escapes : List (Char × List Char) :=
  if isRaw q.flags then [] else Literal.escapes lexicon q.body

theorem readText_source : readText lexicon (String.ofList q.source) = .ok q.value :=
  readText_quoted q.flags q.mark q.rest q.body q.flags_mem q.mark_mem q.noZero q.closes q.standsFor

/-- Flags and a mark hold no line ends. -/
theorem count_source : q.source.count '\n' = q.rest.count '\n' ∧
    loneReturns q.source = loneReturns q.rest := by
  obtain ⟨hline, hreturn, -⟩ := plain_of_mem q.flags_mem q.mark_mem
  rw [source, List.append_cons]
  refine ⟨?_, loneReturns_append hreturn q.rest⟩
  rw [List.count_append, List.count_eq_zero_of_not_mem hline, Nat.zero_add]

theorem count_body : q.body.count '\n' = q.source.count '\n' + loneReturns q.source := by
  have hmark : q.mark ≠ '\n' := by
    rcases eq_of_mem_quoteMarks q.mark_mem with h | h <;> rw [h] <;> decide
  have hclose := count_of_closeQuote hmark q.closes
  rw [count_normalizeLineEnds, List.count_nil, Nat.add_zero] at hclose
  rw [← hclose, q.count_source.1, q.count_source.2]

/-- The line feeds in what a literal stands for, from those in its source. -/
theorem count_value :
    q.value.count '\n' + joinedLines q.escapes =
      q.source.count '\n' + loneReturns q.source + lineFeedEscapes q.escapes := by
  have hvalue := q.standsFor
  rw [← q.count_body, escapes]
  cases hraw : isRaw q.flags with
  | true =>
    rw [hraw] at hvalue
    have hbody : q.body = q.value := Quotation.text.inj (Option.some.inj hvalue)
    simp [hbody, joinedLines, lineFeedEscapes]
  | false =>
    rw [hraw] at hvalue
    obtain ⟨value, hunescape, heq⟩ := Option.map_eq_some_iff.1 hvalue
    obtain rfl := Quotation.text.inj heq
    exact count_unescape hunescape

end QuotedText

end DocLint.Literal
