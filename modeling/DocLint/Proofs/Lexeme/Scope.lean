import DocLint.Proofs.Search
import DocLint.Proofs.Lexeme.Depth

/-!
# Where a scope ends

`blockEnd` counts indents and dedents after the end of a header line. A block
that is closed is left at its last kept lexeme, whatever comes after it.

Results:
* `blockEnd_append`: lexemes among which the block stays open are passed over.
* `scopeEnd_block`: the scope of an indented block ends with its last kept
  lexeme.
* `scopeEnd_line`: the scope of a body on the header line ends with that line.
* `scopeEnd_mem`: every scope ends at a kept lexeme, not before its colon.
-/
namespace DocLint

/-! ## Kinds of lexemes -/

/-- Whether a lexeme may stand between statements: the end of a blank line or a
comment. -/
def Lexeme.isFiller (x : Lexeme) : Bool := x.type == .lineBreak || x.type == .comment

theorem Lexeme.type_of_isFiller {x : Lexeme} (h : x.isFiller = true) :
    x.type = .lineBreak ∨ x.type = .comment := by
  simpa [Lexeme.isFiller] using h

theorem Lexeme.isKept_of_newline {x : Lexeme} (h : x.type = .newline) : x.isKept = true := by
  simp [Lexeme.isKept, h, LexemeType.isKept]

theorem Lexeme.isKept_of_indent {x : Lexeme} (h : x.type = .indent) : x.isKept = true := by
  simp [Lexeme.isKept, h, LexemeType.isKept]

theorem Lexeme.isKept_of_dedent {x : Lexeme} (h : x.type = .dedent) : x.isKept = false := by
  simp [Lexeme.isKept, h, LexemeType.isKept]

theorem Lexeme.isKept_of_operator {x : Lexeme} (h : x.type = .operator) : x.isKept = true := by
  simp [Lexeme.isKept, h, LexemeType.isKept]

theorem Lexeme.isKept_of_isOperator {x : Lexeme} {text : String} (h : x.isOperator text = true) :
    x.isKept = true :=
  Lexeme.isKept_of_operator (Lexeme.type_eq_operator h)

theorem Lexeme.isKept_of_closesBracket {x : Lexeme} (h : x.closesBracket = true) :
    x.isKept = true :=
  Lexeme.isKept_of_operator (Lexeme.type_of_closesBracket h)

theorem Lexeme.isKept_of_isFiller {x : Lexeme} (h : x.isFiller = true) : x.isKept = true := by
  rcases Lexeme.type_of_isFiller h with e | e <;> simp [Lexeme.isKept, e, LexemeType.isKept]

theorem Lexeme.type_ne_of_isFiller {x : Lexeme} (h : x.isFiller = true) :
    x.type ≠ .indent ∧ x.type ≠ .dedent := by
  rcases Lexeme.type_of_isFiller h with e | e <;> simp [e]

/-! ## The last kept lexeme -/

/-- The position of the last kept lexeme, of which the first is at `position`;
`last` if none is kept. -/
def lastKeptFrom (last position : Nat) : List Lexeme → Nat
  | [] => last
  | x :: rest => lastKeptFrom (if x.isKept then position else last) (position + 1) rest

theorem lastKeptFrom_append (ys : List Lexeme) : ∀ (xs : List Lexeme) (last position : Nat),
    lastKeptFrom last position (xs ++ ys) =
      lastKeptFrom (lastKeptFrom last position xs) (position + xs.length) ys
  | [], _, _ => rfl
  | x :: xs, last, position => by
    simp only [List.cons_append, lastKeptFrom, List.length_cons]
    rw [lastKeptFrom_append ys xs]
    congr 1
    omega

theorem lastKeptFrom_of_dropped : ∀ (xs : List Lexeme) (last position : Nat),
    (∀ x ∈ xs, x.isKept = false) → lastKeptFrom last position xs = last
  | [], _, _, _ => rfl
  | x :: xs, last, position, h => by
    simp only [lastKeptFrom, h x (by simp), Bool.false_eq_true, if_false]
    exact lastKeptFrom_of_dropped xs _ _ fun y hy => h y (by simp [hy])

/-- The last kept lexeme is kept, and none after it is. -/
theorem lastKeptFrom_eq (last position : Nat) (xs : List Lexeme)
    (h : ∃ x ∈ xs, x.isKept = true) : ∃ i x, lastKeptFrom last position xs = position + i ∧
      xs[i]? = some x ∧ x.isKept = true ∧
      ∀ j y, i < j → xs[j]? = some y → y.isKept = false := by
  induction xs generalizing last position with
  | nil =>
    obtain ⟨x, hx, -⟩ := h
    simp at hx
  | cons x xs ih =>
    simp only [lastKeptFrom]
    by_cases hrest : ∃ y ∈ xs, y.isKept = true
    · obtain ⟨i, y, e, hy, hk, hafter⟩ :=
        ih (if x.isKept then position else last) (position + 1) hrest
      refine ⟨i + 1, y, by omega, by simpa using hy, hk, fun j z hj hz => ?_⟩
      cases j with
      | zero => omega
      | succ j => exact hafter j z (by omega) (by simpa using hz)
    · have hdropped : ∀ y ∈ xs, y.isKept = false := fun y hy => by
        cases hk : y.isKept
        · rfl
        · exact absurd ⟨y, hy, hk⟩ hrest
      have hx : x.isKept = true := by
        obtain ⟨y, hy, hk⟩ := h
        rcases List.mem_cons.1 hy with rfl | hy
        · exact hk
        · exact absurd ⟨y, hy, hk⟩ hrest
      refine ⟨0, x, ?_, rfl, hx, fun j z hj hz => ?_⟩
      · rw [lastKeptFrom_of_dropped xs _ _ hdropped, if_pos hx]
        rfl
      · cases j with
        | zero => omega
        | succ j => exact hdropped z (List.mem_of_getElem? (by simpa using hz))

/-! ## The end of a block -/

variable {x : Lexeme} {newline last position : Nat} {depth : Int}

theorem blockEnd_indent (h : x.type = .indent) (rest : List Lexeme) :
    blockEnd newline depth last position (x :: rest) =
      blockEnd newline (depth + 1) position (position + 1) rest := by
  simp [blockEnd, h]

theorem blockEnd_dedent (h : x.type = .dedent) (rest : List Lexeme) :
    blockEnd newline depth last position (x :: rest) =
      if depth - 1 == 0 then last
      else blockEnd newline (depth - 1) last (position + 1) rest := by
  simp [blockEnd, h]

theorem blockEnd_other (h1 : x.type ≠ .indent) (h2 : x.type ≠ .dedent) (rest : List Lexeme) :
    blockEnd newline depth last position (x :: rest) =
      if depth == 0 && !x.isFiller then newline
      else
        blockEnd newline depth (if x.isKept then position else last) (position + 1) rest := by
  simp only [blockEnd, Lexeme.isFiller, Lexeme.isKept, Bool.not_or, Bool.and_assoc]
  rfl

/-- A blank line or a comment is passed over at every depth. -/
theorem blockEnd_filler (h : x.isFiller = true) (rest : List Lexeme) :
    blockEnd newline depth last position (x :: rest) =
      blockEnd newline depth position (position + 1) rest := by
  have htype := Lexeme.type_ne_of_isFiller h
  rw [blockEnd_other htype.1 htype.2, if_neg (by simp [h]), Lexeme.isKept_of_isFiller h, if_pos rfl]

/-- Lexemes among which the block stays open are passed over. -/
theorem blockEnd_append (rest block : List Lexeme) : ∀ (depth : Int) (last position : Nat),
    (∀ i, 1 ≤ depth + indentDepth (block.take i)) →
      blockEnd newline depth last position (block ++ rest) =
        blockEnd newline (depth + indentDepth block) (lastKeptFrom last position block)
          (position + block.length) rest := by
  induction block with
  | nil => intro depth last position _; simp [lastKeptFrom]
  | cons x block ih =>
    intro depth last position hopen
    have h0 : 1 ≤ depth := by simpa using hopen 0
    have hstep : 1 ≤ depth + x.indentStep := by simpa using hopen 1
    have htail : ∀ i, 1 ≤ depth + x.indentStep + indentDepth (block.take i) := fun i => by
      simpa [Int.add_assoc] using hopen (i + 1)
    rw [List.cons_append, indentDepth_cons, lastKeptFrom, List.length_cons, ← Int.add_assoc,
      Nat.add_comm block.length, ← Nat.add_assoc, ← ih _ _ _ htail]
    by_cases hin : x.type = .indent
    · rw [blockEnd_indent hin, Lexeme.isKept_of_indent hin]
      simp [Lexeme.indentStep, hin]
    by_cases hde : x.type = .dedent
    · rw [blockEnd_dedent hde, Lexeme.isKept_of_dedent hde]
      have he : x.indentStep = -1 := by simp [Lexeme.indentStep, hde]
      rw [if_neg (by simp; omega), he]
      simp [Int.sub_eq_add_neg]
    · rw [blockEnd_other hin hde, if_neg (by simp; omega)]
      simp [Lexeme.indentStep, hin, hde]

theorem blockEnd_fillers (rest fillers : List Lexeme) : ∀ (last position : Nat),
    (∀ x ∈ fillers, x.isFiller = true) →
      blockEnd newline depth last position (fillers ++ rest) =
        blockEnd newline depth (lastKeptFrom last position fillers)
          (position + fillers.length) rest := by
  induction fillers with
  | nil => intro last position _; simp [lastKeptFrom]
  | cons x fillers ih =>
    intro last position h
    have hx := h x (by simp)
    rw [List.cons_append, lastKeptFrom, List.length_cons, Nat.add_comm fillers.length,
      ← Nat.add_assoc, ← ih _ _ (fun y hy => h y (by simp [hy])), blockEnd_filler hx,
      Lexeme.isKept_of_isFiller hx, if_pos rfl]

/-- A block that is closed ends with its last kept lexeme. -/
theorem blockEnd_block {fillers block : List Lexeme} {indent dedent : Lexeme}
    (hf : ∀ x ∈ fillers, x.isFiller = true) (hi : indent.type = .indent)
    (hopen : ∀ i, 0 ≤ indentDepth (block.take i)) (hclosed : indentDepth block = 0)
    (hd : dedent.type = .dedent) (rest : List Lexeme) :
    blockEnd newline 0 last position (fillers ++ indent :: (block ++ dedent :: rest)) =
      lastKeptFrom last position (fillers ++ indent :: block) := by
  rw [blockEnd_fillers _ _ _ _ hf, blockEnd_indent hi,
    blockEnd_append _ _ _ _ _ (fun i => by have := hopen i; omega), blockEnd_dedent hd,
    if_pos (by simp [hclosed]), lastKeptFrom_append, lastKeptFrom, Lexeme.isKept_of_indent hi]
  rfl

/-- Once a block is open, its end moves with the positions. -/
theorem blockEnd_move (newline : Nat) (rest : List Lexeme) : ∀ (depth : Int) (last last' position position' : Nat),
    1 ≤ depth → last' + position = last + position' →
      blockEnd newline depth last' position' rest + position =
        blockEnd newline depth last position rest + position' := by
  induction rest with
  | nil => exact fun depth last last' position position' _ hlast => hlast
  | cons x rest ih =>
    intro depth last last' position position' hdepth hlast
    by_cases hin : x.type = .indent
    · rw [blockEnd_indent hin, blockEnd_indent hin]
      have := ih (depth + 1) position position' (position + 1) (position' + 1) (by omega) (by omega)
      omega
    by_cases hde : x.type = .dedent
    · rw [blockEnd_dedent hde, blockEnd_dedent hde]
      split
      · exact hlast
      · next hopen =>
        rw [beq_iff_eq] at hopen
        have := ih (depth - 1) last last' (position + 1) (position' + 1) (by omega) (by omega)
        omega
    · have hopen : ¬(depth == 0 && !x.isFiller) = true := by
        rw [Bool.and_eq_true, beq_iff_eq]
        omega
      rw [blockEnd_other hin hde, blockEnd_other hin hde, if_neg hopen, if_neg hopen]
      split
      · have := ih depth position position' (position + 1) (position' + 1) hdepth (by omega)
        omega
      · have := ih depth last last' (position + 1) (position' + 1) hdepth (by omega)
        omega

/-- Every block ends at the end of the header line, at the last kept lexeme so
far, or at a kept lexeme that is read on the way. -/
theorem blockEnd_cases (newline : Nat) (rest : List Lexeme) : ∀ (depth : Int) (last position : Nat),
    blockEnd newline depth last position rest = newline ∨
      blockEnd newline depth last position rest = last ∨
      ∃ i x, rest[i]? = some x ∧ x.isKept = true ∧
        blockEnd newline depth last position rest = position + i := by
  induction rest with
  | nil => exact fun depth last position => .inr (.inl rfl)
  | cons x rest ih =>
    intro depth last position
    have lift : ∀ (d : Int) (l : Nat), l = last ∨ (l = position ∧ x.isKept = true) →
        blockEnd newline d l (position + 1) rest = newline ∨
        blockEnd newline d l (position + 1) rest = last ∨
        ∃ i y, (x :: rest)[i]? = some y ∧ y.isKept = true ∧
          blockEnd newline d l (position + 1) rest = position + i := by
      intro d l hl
      rcases ih d l (position + 1) with e | e | ⟨i, y, hy, hk, e⟩
      · exact .inl e
      · rcases hl with rfl | ⟨rfl, hx⟩
        · exact .inr (.inl e)
        · exact .inr (.inr ⟨0, x, rfl, hx, e⟩)
      · exact .inr (.inr ⟨i + 1, y, by simpa using hy, hk, by omega⟩)
    by_cases hin : x.type = .indent
    · rw [blockEnd_indent hin]
      exact lift _ _ (.inr ⟨rfl, Lexeme.isKept_of_indent hin⟩)
    by_cases hde : x.type = .dedent
    · rw [blockEnd_dedent hde]
      split
      · exact .inr (.inl rfl)
      · exact lift _ _ (.inl rfl)
    · rw [blockEnd_other hin hde]
      split
      · exact .inl rfl
      · refine lift _ _ ?_
        split
        · next hk => exact .inr ⟨rfl, hk⟩
        · exact .inl rfl

/-! ## The end of a scope -/

namespace Layout

variable {xs : List Lexeme} {opener : Nat}

/-- A header line that ends after its colon is followed by a block. -/
theorem scopeEnd_of_newline {after : Nat}
    (h : firstIn (·.type != .comment) xs (opener + 1) xs.length = some after)
    (hn : xs[after]?.any (·.type == .newline) = true) :
    scopeEnd xs opener = blockEnd after 0 after (after + 1) (xs.drop (after + 1)) := by
  simp only [scopeEnd, h, hn, if_true]

/-- A body on the header line reaches to the end of that line, or to the end of
the file. -/
theorem scopeEnd_of_line
    (h : ∀ after, firstIn (·.type != .comment) xs (opener + 1) xs.length = some after →
      xs[after]?.any (·.type == .newline) = false) :
    scopeEnd xs opener =
      ((firstIn (·.type == .newline) xs (opener + 1) xs.length).or
        (lastIn Lexeme.isKept xs 0 xs.length)).getD 0 := by
  simp only [scopeEnd]
  cases ha : firstIn (·.type != .comment) xs (opener + 1) xs.length with
  | none => rfl
  | some after => simp only [h after ha, Bool.false_eq_true, if_false]

theorem any_newline {a : Nat} (h : xs[a]?.any (·.type == .newline) = true) :
    ∃ x, xs[a]? = some x ∧ x.type = .newline := by
  simpa [Option.any_eq_true] using h

/-- Every scope ends at a kept lexeme, not before its colon. -/
theorem scopeEnd_mem {colon : Lexeme} (hc : xs[opener]? = some colon)
    (hk : colon.isKept = true) : opener ≤ scopeEnd xs opener ∧
      ∃ x, xs[scopeEnd xs opener]? = some x ∧ x.isKept = true := by
  by_cases hline : ∀ after, firstIn (·.type != .comment) xs (opener + 1) xs.length = some after →
      xs[after]?.any (·.type == .newline) = false
  · rw [scopeEnd_of_line hline]
    cases hn : firstIn (·.type == .newline) xs (opener + 1) xs.length with
    | some n =>
      obtain ⟨h1, -, h3, -⟩ := firstIn_eq_some_iff.1 hn
      obtain ⟨x, hx, ht⟩ := any_newline h3
      exact ⟨by simp; omega, x, by simpa using hx, Lexeme.isKept_of_newline ht⟩
    | none =>
      have hlt := (List.getElem?_eq_some_iff.1 hc).1
      cases hl : lastIn Lexeme.isKept xs 0 xs.length with
      | none =>
        have := lastIn_eq_none_iff.1 hl opener (by omega) hlt
        rw [hc] at this
        simp [hk] at this
      | some n =>
        obtain ⟨-, h2, h3, h4⟩ := lastIn_eq_some hl
        have hle : opener ≤ n := by
          by_cases hle : opener ≤ n
          · exact hle
          · have := h4 opener (by omega) hlt
            rw [hc] at this
            simp [hk] at this
        refine ⟨by simpa using hle, ?_⟩
        simpa [Option.any_eq_true] using h3
  · obtain ⟨after, ha⟩ := Classical.not_forall.1 hline
    obtain ⟨ha, hn⟩ := Classical.not_imp.1 ha
    have hn : xs[after]?.any (·.type == .newline) = true := by simpa using hn
    rw [scopeEnd_of_newline ha hn]
    obtain ⟨h1, -⟩ := firstIn_eq_some_iff.1 ha
    obtain ⟨x, hx, ht⟩ := any_newline hn
    have hnl : opener ≤ after ∧ ∃ x, xs[after]? = some x ∧ x.isKept = true :=
      ⟨by omega, x, hx, Lexeme.isKept_of_newline ht⟩
    rcases blockEnd_cases after (xs.drop (after + 1)) 0 after (after + 1) with
      e | e | ⟨i, y, hy, hky, e⟩
    · rw [e]
      exact hnl
    · rw [e]
      exact hnl
    · rw [e]
      rw [List.getElem?_drop] at hy
      exact ⟨by omega, y, hy, hky⟩

/-- The scope of an indented block ends with its last kept lexeme. -/
theorem scopeEnd_block {before comments fillers block rest : List Lexeme}
    {colon newline indent dedent : Lexeme} (hcom : ∀ x ∈ comments, x.type = .comment)
    (hn : newline.type = .newline) (hf : ∀ x ∈ fillers, x.isFiller = true)
    (hi : indent.type = .indent) (hopen : ∀ i, 0 ≤ indentDepth (block.take i))
    (hclosed : indentDepth block = 0) (hd : dedent.type = .dedent)
    (hxs : xs = before ++ colon :: (comments ++ newline :: (fillers ++ indent :: (block ++
      dedent :: rest)))) :
    scopeEnd xs before.length =
      lastKeptFrom (before.length + 1 + comments.length)
        (before.length + 1 + comments.length + 1) (fillers ++ indent :: block) := by
  have hlen : (before ++ [colon]).length = before.length + 1 := by simp
  have hsplit : xs = (before ++ [colon]) ++ (comments ++ newline :: (fillers ++ indent ::
      (block ++ dedent :: rest))) := by simp [hxs]
  have ha : firstIn (·.type != .comment) xs (before.length + 1) xs.length =
      some (before.length + 1 + comments.length) := by
    rw [hsplit, ← hlen]
    exact firstIn_of_append (fun y hy => by simp [hcom y hy]) (by simp [hn]) (by simp; omega)
  have hget : xs[before.length + 1 + comments.length]? = some newline := by
    rw [hsplit, List.getElem?_append_right (by simp), hlen, Nat.add_sub_cancel_left,
      List.getElem?_append_right (Nat.le_refl _), Nat.sub_self, List.getElem?_cons_zero]
  have hdrop : xs.drop (before.length + 1 + comments.length + 1) =
      fillers ++ indent :: (block ++ dedent :: rest) := by
    rw [hsplit, ← List.append_assoc, List.append_cons]
    exact List.drop_left' (by simp; omega)
  rw [scopeEnd_of_newline ha (by simp [hget, hn]), hdrop, blockEnd_block hf hi hopen hclosed hd]

/-- The scope of a body on the header line ends with that line. -/
theorem scopeEnd_line {before body rest : List Lexeme} {colon newline : Lexeme}
    (hbody : ∀ x ∈ body, x.type ≠ .newline) (hfirst : ∃ x ∈ body, x.type ≠ .comment)
    (hn : newline.type = .newline) (hxs : xs = before ++ colon :: (body ++ newline :: rest)) :
    scopeEnd xs before.length = before.length + 1 + body.length := by
  have hlen : (before ++ [colon]).length = before.length + 1 := by simp
  have hsplit : xs = (before ++ [colon]) ++ (body ++ newline :: rest) := by simp [hxs]
  have hline : firstIn (·.type == .newline) xs (before.length + 1) xs.length =
      some (before.length + 1 + body.length) := by
    rw [hsplit, ← hlen]
    exact firstIn_of_append (fun y hy => by simp [hbody y hy]) (by simp [hn]) (by simp; omega)
  have hget : ∀ i, i < body.length → xs[before.length + 1 + i]? = body[i]? := fun i hi => by
    rw [hsplit, List.getElem?_append_right (by simp), hlen, Nat.add_sub_cancel_left,
      List.getElem?_append_left hi]
  -- The line does not end right after the colon: some word of the body comes first.
  rw [scopeEnd_of_line, hline, Option.some_or, Option.getD_some]
  intro after ha
  obtain ⟨x, hx, ht⟩ := hfirst
  obtain ⟨i, hi⟩ := List.getElem?_of_mem hx
  have hlt := (List.getElem?_eq_some_iff.1 hi).1
  have hword : xs[before.length + 1 + i]?.any (fun x => x.type != .comment) = true := by
    rw [hget i hlt, hi]
    simpa using ht
  have hend : before.length + 1 + i < xs.length := by
    rw [hxs]
    simp
    omega
  obtain ⟨k, hk, hle⟩ := isSome_firstIn (Nat.le_add_right _ i) hend hword
  rw [ha, Option.some.injEq] at hk
  subst hk
  obtain ⟨j, rfl⟩ := Nat.exists_eq_add_of_le (firstIn_eq_some_iff.1 ha).1
  rw [hget j (by omega)]
  cases hy : body[j]? with
  | none => rfl
  | some y => simpa using hbody y (List.mem_of_getElem? hy)

end Layout

end DocLint
