import DocLint.Proofs.Lexeme.SuiteLayout
import DocLint.Proofs.Token.Structure

/-!
# Headers without a body

One signed count of indents tells `blockEnd` whether the block has been opened and
whether it has been closed. It is zero after the header line, so a statement that
comes there shows that there is no body, and the scope ends with its line. But if
the header is the last line of the block around it, what comes there is the dedent
of that block. The count is below zero then, and the search goes on: over all
statements further out, to a later block on the level of the header, or to the end
of the file.

Results:
* `blockEnd_first`: the search ends at the first lexeme that stops it.
* `Layout.blockEnds_scopeEnd`: where a scope ends, whatever comes after the line of
  its header.
* `bodiless_scope`: where the scope of a header without a body ends.
-/
namespace DocLint

/-! ## What stops the search -/

/-- Whether a lexeme belongs to a statement, or to the end of the file. -/
def Lexeme.isStatement (x : Lexeme) : Bool :=
  !x.isFiller && x.type != .indent && x.type != .dedent

/-- Whether the search for the end of a block stops at a lexeme, with `level`
indents open: at a statement outside the block, or where the block is closed. -/
def Lexeme.Stops (x : Lexeme) (level : Int) : Prop :=
  x.isStatement = true ∧ level = 0 ∨ x.type = .dedent ∧ level = 1

/-- No lexeme stops the search. -/
def Unstopped (depth : Int) (xs : List Lexeme) : Prop :=
  ∀ (i : Nat) (x : Lexeme), xs[i]? = some x → ¬x.Stops (depth + indentDepth (xs.take i))

variable {xs : List Lexeme} {x : Lexeme} {newline last position : Nat} {depth : Int}

theorem Lexeme.isStatement_iff :
    x.isStatement = true ↔ x.isFiller = false ∧ x.type ≠ .indent ∧ x.type ≠ .dedent := by
  simp [Lexeme.isStatement, and_assoc]

theorem unstopped_cons (hx : ¬x.Stops depth) (hxs : Unstopped (depth + x.indentStep) xs) :
    Unstopped depth (x :: xs) := by
  intro i y hy
  cases i with
  | zero =>
    obtain rfl : x = y := by simpa using hy
    simpa using hx
  | succ i =>
    rw [List.take_succ_cons, indentDepth_cons, ← Int.add_assoc]
    exact hxs i y (by simpa using hy)

/-- A statement outside the block shows that there is none. -/
theorem blockEnd_statement (h : x.isStatement = true) (rest : List Lexeme) :
    blockEnd newline 0 last position (x :: rest) = newline := by
  obtain ⟨hf, hi, hd⟩ := Lexeme.isStatement_iff.1 h
  rw [blockEnd_other hi hd, if_pos (by simp [hf])]

/-- A lexeme that does not stop the search is counted and passed over. -/
theorem blockEnd_step (h : ¬x.Stops depth) (rest : List Lexeme) :
    blockEnd newline depth last position (x :: rest) =
      blockEnd newline (depth + x.indentStep) (if x.isKept then position else last)
        (position + 1) rest := by
  by_cases hin : x.type = .indent
  · rw [blockEnd_indent hin, Lexeme.isKept_of_indent hin]
    simp [Lexeme.indentStep, hin]
  by_cases hde : x.type = .dedent
  · have hlevel : ¬depth - 1 = 0 := fun e => h (.inr ⟨hde, by omega⟩)
    rw [blockEnd_dedent hde, Lexeme.isKept_of_dedent hde, if_neg (by simpa using hlevel)]
    simp [Lexeme.indentStep, hde, Int.sub_eq_add_neg]
  · have hzero : depth = 0 → x.isFiller = true := by
      intro hdepth
      by_contra hf
      exact h (.inl ⟨Lexeme.isStatement_iff.2 ⟨by simpa using hf, hin, hde⟩, hdepth⟩)
    rw [blockEnd_other hin hde, if_neg (by simpa using hzero)]
    simp [Lexeme.indentStep, hin, hde]

/-- The search ends at the first lexeme that stops it, or at the end of the file. -/
theorem blockEnd_first (newline : Nat) (rest : List Lexeme) : ∀ (depth : Int) (last position : Nat),
    (Unstopped depth rest ∧
      blockEnd newline depth last position rest = lastKeptFrom last position rest) ∨
    ∃ passed x more, rest = passed ++ x :: more ∧ Unstopped depth passed ∧
      (x.isStatement = true ∧ depth + indentDepth passed = 0 ∧
          blockEnd newline depth last position rest = newline ∨
        x.type = .dedent ∧ depth + indentDepth passed = 1 ∧
          blockEnd newline depth last position rest = lastKeptFrom last position passed) := by
  have hnil : ∀ depth, Unstopped depth [] := fun depth i x hx => by simp at hx
  induction rest with
  | nil => exact fun depth last position => .inl ⟨hnil depth, rfl⟩
  | cons x rest ih =>
    intro depth last position
    by_cases hx : x.Stops depth
    · right
      refine ⟨[], x, rest, rfl, hnil depth, ?_⟩
      rcases hx with ⟨hs, rfl⟩ | ⟨hd, rfl⟩
      · exact .inl ⟨hs, rfl, blockEnd_statement hs rest⟩
      · exact .inr ⟨hd, rfl, by rw [blockEnd_dedent hd]; rfl⟩
    · rw [blockEnd_step hx]
      rcases ih (depth + x.indentStep) (if x.isKept then position else last) (position + 1) with
        ⟨hrest, e⟩ | ⟨passed, y, more, rfl, hpassed, hstop⟩
      · exact .inl ⟨unstopped_cons hx hrest, e⟩
      · right
        refine ⟨x :: passed, y, more, rfl, unstopped_cons hx hpassed, ?_⟩
        rw [indentDepth_cons, ← Int.add_assoc]
        exact hstop

/-! ## The end of a scope by positions -/

namespace Layout

/-- The number of indents that are open before the lexeme at `i`, counted from the
end of the header line at `n`. It is negative where blocks around the header have
been closed. -/
def levelAt (xs : List Lexeme) (n i : Nat) : Int := indentDepth ((xs.take i).drop (n + 1))

/-- Nothing stops the search between the end of the header line and a position. -/
def Passes (xs : List Lexeme) (n i : Nat) : Prop :=
  ∀ (j : Nat) (x : Lexeme), n < j → j < i → xs[j]? = some x → ¬x.Stops (levelAt xs n j)

/-- Where a scope ends if the line of its header ends at `n`. -/
inductive BlockEnds (xs : List Lexeme) (n : Nat) : Nat → Prop
  /-- With the header line, if the search stops at a statement on its level. -/
  | statement (i : Nat) (x : Lexeme) (hi : n < i) (hx : xs[i]? = some x)
    (hs : x.isStatement = true) (hlevel : levelAt xs n i = 0) (hpasses : Passes xs n i) :
    BlockEnds xs n n
  /-- With the last kept lexeme of a block that is opened and closed. -/
  | closed (i : Nat) (x : Lexeme) (hi : n < i) (hx : xs[i]? = some x) (hd : x.type = .dedent)
    (hlevel : levelAt xs n i = 1) (hpasses : Passes xs n i) (c : Nat)
    (hc : lastIn Lexeme.isKept xs 0 i = some c) : BlockEnds xs n c
  /-- With the last kept lexeme of the file, if nothing stops the search. -/
  | unclosed (hpasses : Passes xs n xs.length) (c : Nat)
    (hc : lastIn Lexeme.isKept xs 0 xs.length = some c) : BlockEnds xs n c

variable {before passed after : List Lexeme} {line : Lexeme}

theorem levelAt_split (hxs : xs = before ++ line :: (passed ++ after)) {j : Nat}
    (hj : j ≤ passed.length) :
    levelAt xs before.length (before.length + 1 + j) = indentDepth (passed.take j) := by
  unfold levelAt
  rw [hxs, List.append_cons, ← List.append_assoc, List.take_append_of_le_length (by simp; omega)]
  congr 1
  rw [show before.length + 1 = (before ++ [line]).length by simp, List.take_length_add_append,
    List.drop_left]

theorem passes_split (hxs : xs = before ++ line :: (passed ++ after)) (h : Unstopped 0 passed) :
    Passes xs before.length (before.length + 1 + passed.length) := by
  intro j x h1 h2 hx
  obtain ⟨m, rfl⟩ := Nat.exists_eq_add_of_le (show before.length + 1 ≤ j by omega)
  rw [levelAt_split hxs (by omega)]
  have hx' : passed[m]? = some x := by
    rw [← hx, hxs, List.append_cons, List.getElem?_append_right (by simp),
      List.getElem?_append_left (by simp; omega)]
    congr 1
    simp
  simpa using h m x hx'

theorem lastIn_split (hxs : xs = before ++ line :: (passed ++ after)) (hline : line.isKept = true) :
    lastIn Lexeme.isKept xs 0 (before.length + 1 + passed.length) =
      some (lastKeptFrom before.length (before.length + 1) passed) := by
  have hlen : before.length + 1 + passed.length = before.length + (line :: passed).length := by
    simp; omega
  rw [hlen, lastIn_of_append before.length ⟨line, by simp, hline⟩ (by simpa using hxs)]
  simp [lastKeptFrom, hline]

/-- Where a scope ends, whatever comes after the line of its header. -/
theorem blockEnds_scopeEnd {o n : Nat}
    (hn : firstIn (·.type != .comment) xs (o + 1) xs.length = some n)
    (hline : xs[n]?.any (·.type == .newline) = true) : BlockEnds xs n (scopeEnd xs o) := by
  obtain ⟨line, hx, htype⟩ := any_newline hline
  obtain ⟨hlt, hget⟩ := List.getElem?_eq_some_iff.1 hx
  have hkept := Lexeme.isKept_of_newline htype
  have hlen : (xs.take n).length = n := by simp; omega
  have hcut : xs = xs.take n ++ line :: xs.drop (n + 1) := by
    rw [← hget, ← List.drop_eq_getElem_cons hlt, List.take_append_drop]
  rw [scopeEnd_of_newline hn hline]
  rcases blockEnd_first n (xs.drop (n + 1)) 0 n (n + 1) with
    ⟨hrest, e⟩ | ⟨passed, x, more, hdrop, hpassed, hstop⟩
  · rw [e]
    have hxs : xs = xs.take n ++ line :: (xs.drop (n + 1) ++ []) := by simpa using hcut
    have hall : n + 1 + (xs.drop (n + 1)).length = xs.length := by simp; omega
    have hpasses := passes_split hxs hrest
    have hlast := lastIn_split hxs hkept
    rw [hlen, hall] at hpasses hlast
    exact .unclosed hpasses _ hlast
  · rw [hdrop] at hcut
    have hpasses := passes_split hcut hpassed
    have hlevel := levelAt_split hcut (Nat.le_refl passed.length)
    have hlast := lastIn_split hcut hkept
    rw [hlen] at hpasses hlevel hlast
    rw [List.take_length] at hlevel
    have hat : xs[n + 1 + passed.length]? = some x := by
      rw [← List.getElem?_drop, hdrop]
      simp
    rcases hstop with ⟨hs, hzero, e⟩ | ⟨hd, hone, e⟩ <;> rw [e]
    · exact .statement _ x (by omega) hat hs (by omega) hpasses
    · exact .closed _ x (by omega) hat hd (by omega) hpasses _ hlast

/-- Blank lines and comments leave the level as it is. -/
theorem levelAt_of_fillers {n i : Nat}
    (h : ∀ j x, n < j → j < i → xs[j]? = some x → x.isFiller = true) : levelAt xs n i = 0 := by
  refine (IndentBalanced.of_steps fun x hx => Lexeme.indentStep_of_isFiller ?_).closed
  obtain ⟨j, hj⟩ := List.getElem?_of_mem hx
  rw [List.getElem?_drop] at hj
  have hlt := (List.getElem?_eq_some_iff.1 hj).1
  rw [List.length_take] at hlt
  rw [List.getElem?_take_of_lt (by omega)] at hj
  exact h (n + 1 + j) x (by omega) (by omega) hj

/-- If a statement comes first, the scope ends with the header line. -/
theorem BlockEnds.eq_of_statement {n b c : Nat} (h : BlockEnds xs n c)
    (hb : firstIn (!·.isFiller) xs (n + 1) xs.length = some b) (hx : xs[b]? = some x)
    (hs : x.isStatement = true) : c = n := by
  obtain ⟨hnb, hlt, -, hbefore⟩ := firstIn_eq_some_iff.1 hb
  have hfiller : ∀ j y, n < j → j < b → xs[j]? = some y → y.isFiller = true := by
    intro j y h1 h2 hy
    simpa [hy] using hbefore j (by omega) h2
  have hstops : x.Stops (levelAt xs n b) := .inl ⟨hs, levelAt_of_fillers hfiller⟩
  cases h with
  | statement => rfl
  | closed i y hi hy hd hlevel hpasses _ hc =>
    exfalso
    -- The dedent is no filler, and it is not passed before the statement.
    rcases Nat.lt_trichotomy i b with hib | rfl | hbi
    · exact (Lexeme.type_ne_of_isFiller (hfiller i y hi hib hy)).2 hd
    · obtain rfl : x = y := Option.some.inj (hx.symm.trans hy)
      exact (Lexeme.isStatement_iff.1 hs).2.2 hd
    · exact hpasses b x (by omega) hbi hx hstops
  | unclosed hpasses _ hc => exact absurd hstops (hpasses b x (by omega) hlt hx)

end Layout

/-! ## Bodiless declarations -/

/-- Where the scope of a declaration ends that has no indented body: with the line of
its header, if that is not the last line of the block around it, and then no later
lexeme lies in the scope. If it is the last line, the scope ends where the search
stops. -/
theorem bodiless_scope {k o n : Nat} (hk : k ∈ declarations xs)
    (ho : (Layout.ofDeclaration xs k).scopeOpener = some o)
    (hn : firstIn (·.type != .comment) xs (o + 1) xs.length = some n)
    (hline : xs[n]?.any (·.type == .newline) = true)
    (hbody : ∀ b, firstIn (!·.isFiller) xs (n + 1) xs.length = some b →
      xs[b]?.any (·.type == .indent) = false) :
    ∃ t c, (TokenSequence.ofLexemes xs).tokens[place xs k]? = some t ∧ t.isDeclaration = true ∧
      t.extent.scopeOpener = some (place xs o : Int) ∧
      t.extent.scopeCloser = some (place xs c : Int) ∧ Layout.BlockEnds xs n c ∧
      ∀ b, firstIn (!·.isFiller) xs (n + 1) xs.length = some b →
        xs[b]?.any (·.type == .dedent) = false →
        c = n ∧ ∀ i x, n < i → xs[i]? = some x → x.isKept = true → place xs c < place xs i := by
  obtain ⟨x, hx, hd⟩ := mem_declarations.1 hk
  have ht := getElem?_ofLexemes_place hx (Lexeme.isKept_of_isDeclaration hd)
  have hends := Layout.blockEnds_scopeEnd hn hline
  refine ⟨_, Layout.scopeEnd xs o, ht, (isDeclaration_iff ht).2 ⟨k, hk, rfl⟩, ?_, ?_, hends, ?_⟩
  · simp [Lexeme.toToken, hd, Layout.toExtent, ho]
  · simp [Lexeme.toToken, hd, Layout.toExtent, Layout.scopeCloser_ofDeclaration, ho]
  · intro b hb hdedent
    obtain ⟨-, hlt, hfiller, -⟩ := firstIn_eq_some_iff.1 hb
    have hindent := hbody b hb
    have hat := List.getElem?_eq_getElem hlt
    rw [hat] at hdedent hindent hfiller
    have hs : xs[b].isStatement = true := Lexeme.isStatement_iff.2
      ⟨by simpa using hfiller, by simpa using hindent, by simpa using hdedent⟩
    have hc := hends.eq_of_statement hb hat hs
    refine ⟨hc, fun i y hi hy hkept => ?_⟩
    obtain ⟨line, hl, htype⟩ := Layout.any_newline hline
    rw [hc]
    exact place_lt_place hl (Lexeme.isKept_of_newline htype) hi

/-- `def f():` with a comment, a blank line, and `y = 1` on the same level. -/
def bodilessFile : List Lexeme :=
  [⟨.encoding, "utf-8", 0, 0⟩, ⟨.name, "def", 1, 0⟩, ⟨.name, "f", 1, 4⟩, ⟨.operator, "(", 1, 5⟩,
    ⟨.operator, ")", 1, 6⟩, ⟨.operator, ":", 1, 7⟩, ⟨.comment, "# none", 1, 10⟩,
    ⟨.newline, "\n", 1, 16⟩, ⟨.lineBreak, "\n", 2, 0⟩, ⟨.name, "y", 3, 0⟩,
    ⟨.operator, "=", 3, 2⟩, ⟨.number, "1", 3, 4⟩, ⟨.newline, "\n", 3, 5⟩, ⟨.endMarker, "", 4, 0⟩]

/-- The scope of the function ends with its line, before the blank line. -/
theorem bodilessFile_scope : ∃ t, (TokenSequence.ofLexemes bodilessFile).tokens[1]? = some t ∧
    t.extent.scopeOpener = some 5 ∧ t.extent.scopeCloser = some 7 := by
  obtain ⟨t, c, ht, -, ho, hc, -, hline⟩ := bodiless_scope (k := 1) (o := 5) (n := 7)
    (show 1 ∈ declarations bodilessFile by decide) (by decide) (by decide) (by decide) (by
      intro b hb
      obtain rfl : 9 = b := Option.some.inj (Eq.trans (by decide) hb)
      decide)
  obtain ⟨rfl, -⟩ := hline 9 (by decide) (by decide)
  exact ⟨t, ht, ho, hc⟩

/-- `if x:` with `def f():` as its block, and then `y = 1`. -/
def outdentedFile : List Lexeme :=
  [⟨.encoding, "utf-8", 0, 0⟩, ⟨.name, "if", 1, 0⟩, ⟨.name, "x", 1, 3⟩, ⟨.operator, ":", 1, 4⟩,
    ⟨.newline, "\n", 1, 5⟩, ⟨.indent, "    ", 2, 0⟩, ⟨.name, "def", 2, 4⟩, ⟨.name, "f", 2, 8⟩,
    ⟨.operator, "(", 2, 9⟩, ⟨.operator, ")", 2, 10⟩, ⟨.operator, ":", 2, 11⟩,
    ⟨.newline, "\n", 2, 12⟩, ⟨.dedent, "", 3, 0⟩, ⟨.name, "y", 3, 0⟩, ⟨.operator, "=", 3, 2⟩,
    ⟨.number, "1", 3, 4⟩, ⟨.newline, "\n", 3, 5⟩, ⟨.endMarker, "", 4, 0⟩]

/-- The line of the header ends at the eleventh token and no body follows, but the
scope goes on to the end of the file. -/
theorem outdentedFile_runs_on : 6 ∈ declarations outdentedFile ∧
    (Layout.ofDeclaration outdentedFile 6).scopeOpener = some 10 ∧
    firstIn (·.type != .comment) outdentedFile 11 outdentedFile.length = some 11 ∧
    outdentedFile[11]?.any (·.type == .newline) = true ∧
    firstIn (!·.isFiller) outdentedFile 12 outdentedFile.length = some 12 ∧
    outdentedFile[12]?.any (·.type == .indent) = false ∧
    place outdentedFile 11 = 11 ∧
    ∃ t, (TokenSequence.ofLexemes outdentedFile).tokens[place outdentedFile 6]? = some t ∧
      t.extent.scopeCloser = some 15 := by
  refine ⟨by decide, by decide, by decide, by decide, by decide, by decide, by decide, ?_⟩
  exact ⟨⟨.function, "def", 2, 4, ⟨some 10, some 15, some 8, some 9⟩⟩, by decide, rfl⟩

end DocLint
