import DocLint.Proofs.Lexeme.DocString

/-!
# Blank lines and comments above a documenting string

More blank lines and comments may be put anywhere between the end of a header
line and the string that documents the declaration, also before the indent. The
counts of `blockEnd` do not see them, so everything after them moves down by
their number, and everything before them stays.

Results:
* `blockEnd_padded`: the end of the block moves down.
* `DocPadding.ofDeclaration_padded`: so does the end of the scope, while the header
  stays where it is.
* `DocPadding.docString?_padded`: the string documents the declaration still.
-/
namespace DocLint

/-- `ys` is `xs` with `n` blank lines and comments put in, anywhere. -/
inductive Padded : Nat → List Lexeme → List Lexeme → Prop
  | nil : Padded 0 [] []
  | keep {n : Nat} {xs ys : List Lexeme} (x : Lexeme) (h : Padded n xs ys) :
      Padded n (x :: xs) (x :: ys)
  | put {n : Nat} {xs ys : List Lexeme} (x : Lexeme) (hx : x.isFiller = true)
      (h : Padded n xs ys) : Padded (n + 1) xs (x :: ys)

theorem Layout.isBodySkip_of_isFiller {x : Lexeme} (h : x.isFiller = true) :
    isBodySkip x = true := by
  rcases Lexeme.type_of_isFiller h with e | e <;> simp [isBodySkip, e]

namespace Padded

variable {n : Nat} {xs ys : List Lexeme}

theorem length_eq (h : Padded n xs ys) : ys.length = n + xs.length := by
  induction h with
  | nil => rfl
  | keep x _ ih =>
    rw [List.length_cons, List.length_cons, ih]
    omega
  | put x _ _ ih =>
    rw [List.length_cons, ih]
    omega

/-- None of the lexemes that are put in is dropped. -/
theorem countP_isKept (h : Padded n xs ys) :
    ys.countP Lexeme.isKept = n + xs.countP Lexeme.isKept := by
  induction h with
  | nil => rfl
  | keep x _ ih =>
    rw [List.countP_cons, List.countP_cons, ih]
    omega
  | put x hx _ ih =>
    rw [List.countP_cons_of_pos (Lexeme.isKept_of_isFiller hx), ih]
    omega

theorem mem (h : Padded n xs ys) {y : Lexeme} (hy : y ∈ ys) : y ∈ xs ∨ y.isFiller = true := by
  induction h with
  | nil => exact absurd hy List.not_mem_nil
  | keep x _ ih =>
    rcases List.mem_cons.1 hy with rfl | hy
    · exact .inl List.mem_cons_self
    · exact (ih hy).imp_left (List.mem_cons_of_mem x)
  | put x hx _ ih =>
    rcases List.mem_cons.1 hy with rfl | hy
    · exact .inr hx
    · exact ih hy

theorem append_left (h : Padded n xs ys) (front : List Lexeme) :
    Padded n (front ++ xs) (front ++ ys) := by
  induction front with
  | nil => exact h
  | cons x front ih => exact .keep x ih

end Padded

/-! ## The header -/

/-- Only the end of the scope depends on what follows the colon. -/
theorem Layout.ofDeclaration_append_of_lt {front rest : List Lexeme} {k o : Nat}
    (ho : (ofDeclaration (front ++ rest) k).scopeOpener = some o) (hlt : o < front.length)
    (rest' : List Lexeme) : ofDeclaration (front ++ rest') k =
      { ofDeclaration (front ++ rest) k with
        scopeCloser := some (scopeEnd (front ++ rest') o) } := by
  have hko : k + 1 ≤ o := Header.le_scopeOpener _ {} 0 (k + 1) rfl ho
  have hdrop : ∀ zs, (front ++ zs).drop (k + 1) = front.drop (k + 1) ++ zs := fun zs =>
    List.drop_append_of_le_length (by omega)
  have hopener := ho
  change (Header.scan {} 0 (k + 1) ((front ++ rest).drop (k + 1))).scopeOpener = some o at hopener
  rw [hdrop] at hopener
  have hsame := Header.scan_append_of_lt rest rest' _ {} 0 (k + 1) rfl hopener (by
    rw [List.length_drop]
    omega)
  simp only [ofDeclaration, hdrop, hsame, hopener, Option.map_some]

/-! ## The end of the block -/

/-- The block ends as far below the string that is its first statement as it did,
if it is a block at all. -/
theorem blockEnd_padded (newline : Nat) {n : Nat} {gap gap' : List Lexeme} {string : Lexeme}
    (h : Padded n gap gap') (hs : string.type = .string) (rest : List Lexeme)
    (hgap : ∀ x ∈ gap, Layout.isBodySkip x = true) :
    ∀ (depth : Int) (last last' position position' : Nat), 0 ≤ depth →
      blockEnd newline depth last position (gap ++ string :: rest) ≠ newline →
        blockEnd newline depth last' position' (gap' ++ string :: rest) + position =
          n + (blockEnd newline depth last position (gap ++ string :: rest) + position') := by
  induction h with
  | nil =>
    intro depth last last' position position' hdepth hblock
    have hstep : ∀ last position, blockEnd newline depth last position (string :: rest) =
        if depth == 0 && !string.isFiller then newline
        else blockEnd newline depth (if string.isKept then position else last) (position + 1)
          rest := fun _ _ => blockEnd_other (by simp [hs]) (by simp [hs]) rest
    rw [List.nil_append, hstep] at hblock
    rw [List.nil_append, hstep, hstep]
    split at hblock
    · exact absurd rfl hblock
    · next hclosed =>
      have hopen : 1 ≤ depth := by
        simp [Lexeme.isFiller, hs] at hclosed
        omega
      rw [if_neg hclosed, if_neg hclosed, Lexeme.isKept_of_string hs, if_pos rfl, if_pos rfl]
      have := blockEnd_move newline rest depth position position' (position + 1)
        (position' + 1) hopen (by omega)
      omega
  | keep x _ ih =>
    intro depth last last' position position' hdepth hblock
    have htail := ih fun y hy => hgap y (List.mem_cons_of_mem x hy)
    have hskip := hgap x List.mem_cons_self
    rw [List.cons_append] at hblock ⊢
    rw [List.cons_append]
    by_cases hin : x.type = .indent
    · rw [blockEnd_indent hin] at hblock ⊢
      rw [blockEnd_indent hin]
      have := htail (depth + 1) position position' (position + 1) (position' + 1) (by omega) hblock
      omega
    by_cases hde : x.type = .dedent
    · simp [Layout.isBodySkip, hde] at hskip
    · rw [blockEnd_other hin hde] at hblock
      rw [blockEnd_other hin hde, blockEnd_other hin hde]
      split at hblock
      · exact absurd rfl hblock
      · next hopen =>
        rw [if_neg hopen, if_neg hopen]
        have := htail depth _ (if x.isKept then position' else last') (position + 1)
          (position' + 1) hdepth hblock
        omega
  | put x hx _ ih =>
    intro depth last last' position position' hdepth hblock
    rw [List.cons_append, blockEnd_filler hx]
    have := ih hgap depth last position' position (position' + 1) hdepth hblock
    omega

/-! ## The padding above a documenting string -/

/-- A file with a string in it, and the same file with blank lines and comments put
in somewhere above that string. -/
structure Padding where
  front : List Lexeme
  gap : List Lexeme
  /-- The gap with more blank lines and comments. -/
  gap' : List Lexeme
  string : Lexeme
  rest : List Lexeme
  /-- How many lexemes are put in. -/
  count : Nat
  pads : Padded count gap gap'

namespace Padding

variable (p : Padding) {i : Nat}

def plain : List Lexeme := p.front ++ (p.gap ++ p.string :: p.rest)

/-- The file with more blank lines and comments. -/
def padded : List Lexeme := p.front ++ (p.gap' ++ p.string :: p.rest)

/-- The position of the string in the file as it was. -/
def doc : Nat := p.front.length + p.gap.length

theorem length_padded : p.padded.length = p.count + p.plain.length := by
  simp only [plain, padded, List.length_append, p.pads.length_eq]
  omega

theorem getElem?_front (hi : i < p.front.length) : p.padded[i]? = p.plain[i]? := by
  rw [plain, padded, List.getElem?_append_left hi, List.getElem?_append_left hi]

theorem getElem?_back (hi : p.doc ≤ i) : p.padded[p.count + i]? = p.plain[i]? := by
  have hlen := p.pads.length_eq
  unfold doc at hi
  obtain ⟨j, rfl⟩ := Nat.exists_eq_add_of_le hi
  rw [plain, padded, List.getElem?_append_right (by omega), List.getElem?_append_right (by omega),
    List.getElem?_append_right (by omega), List.getElem?_append_right (by omega)]
  congr 1
  omega

theorem getElem?_doc : p.plain[p.doc]? = some p.string := by
  rw [plain, doc, List.getElem?_append_right (by omega), List.getElem?_append_right (by omega),
    show p.front.length + p.gap.length - p.front.length - p.gap.length = 0 by omega,
    List.getElem?_cons_zero]

end Padding

/-- A padding between the end of the header line of a declaration and the string
that documents it. -/
structure DocPadding extends Padding where
  keyword : Nat
  opener : Nat
  declares : keyword ∈ declarations toPadding.plain
  opener_eq : (Layout.ofDeclaration toPadding.plain keyword).scopeOpener = some opener
  documents : (Layout.ofDeclaration toPadding.plain keyword).docString? toPadding.plain =
    some toPadding.doc
  lineEnds : ∃ a x, opener < a ∧ front[a]? = some x ∧ x.type = .newline

namespace DocPadding

variable (p : DocPadding) {i : Nat} {x : Lexeme}

theorem opener_lt : p.opener < p.front.length := by
  obtain ⟨a, x, ha, hx, -⟩ := p.lineEnds
  have := (List.getElem?_eq_some_iff.1 hx).1
  omega

theorem sound : Layout.Sound p.plain p.keyword (Layout.ofDeclaration p.plain p.keyword) :=
  Layout.sound_of_mem p.declares

/-- The documenting string is what the search for the first statement finds. -/
theorem isFirstStatement : firstIn (fun x => !Layout.isBodySkip x) p.plain (p.opener + 1)
    p.plain.length = some p.doc ∧ p.doc ≤ Layout.scopeEnd p.plain p.opener ∧
    Layout.StandsAlone p.plain p.doc := by
  obtain ⟨o, c, ho, hc, hfirst, hle, halone⟩ := Layout.docString?_eq_some_iff.1 p.documents
  obtain rfl : p.opener = o := by rwa [p.opener_eq, Option.some.injEq] at ho
  rw [Layout.scopeCloser_ofDeclaration, ho, Option.map_some, Option.some.injEq] at hc
  subst hc
  exact ⟨hfirst, hle, halone⟩

theorem string_type : p.string.type = .string := by
  obtain ⟨x, hx, htype⟩ := p.isFirstStatement.2.2.1
  rw [p.getElem?_doc, Option.some.injEq] at hx
  rw [hx, htype]

/-- What stands above the documenting string starts no statement. -/
theorem isBodySkip_plain (hi : p.opener < i) (hid : i < p.doc) (hx : p.plain[i]? = some x) :
    Layout.isBodySkip x = true := by
  obtain ⟨-, -, -, hskip⟩ := firstIn_eq_some_iff.1 p.isFirstStatement.1
  have := hskip i hi hid
  rw [hx] at this
  simpa using this

theorem isBodySkip_gap (hx : x ∈ p.gap) : Layout.isBodySkip x = true := by
  obtain ⟨j, hj⟩ := List.getElem?_of_mem hx
  have hlt := (List.getElem?_eq_some_iff.1 hj).1
  have hopener := p.opener_lt
  have hget : p.plain[p.front.length + j]? = some x := by
    rw [Padding.plain, List.getElem?_append_right (by omega), Nat.add_sub_cancel_left,
      List.getElem?_append_left hlt, hj]
  exact p.isBodySkip_plain (by omega) (Nat.add_lt_add_left hlt _) hget

/-- Nothing that is put in starts a statement either. -/
theorem isBodySkip_padded (hi : p.opener < i) (hid : i < p.count + p.doc)
    (hx : p.padded[i]? = some x) : Layout.isBodySkip x = true := by
  have hlen := p.pads.length_eq
  by_cases hfront : i < p.front.length
  · rw [p.getElem?_front hfront] at hx
    exact p.isBodySkip_plain hi (Nat.lt_add_right _ hfront) hx
  · unfold Padding.doc at hid
    rw [Padding.padded, List.getElem?_append_right (by omega),
      List.getElem?_append_left (by omega)] at hx
    rcases p.pads.mem (List.mem_of_getElem? hx) with hmem | hfiller
    · exact p.isBodySkip_gap hmem
    · exact Layout.isBodySkip_of_isFiller hfiller

/-! ### The scope -/

/-- The header line ends after its colon, before anything is put in. -/
theorem exists_newline : ∃ after, p.opener < after ∧ after < p.front.length ∧
    p.plain[after]?.any (·.type == .newline) = true ∧
    firstIn (·.type != .comment) p.plain (p.opener + 1) p.plain.length = some after ∧
    firstIn (·.type != .comment) p.padded (p.opener + 1) p.padded.length = some after := by
  obtain ⟨a, x, ha, hx, htype⟩ := p.lineEnds
  have hlt := (List.getElem?_eq_some_iff.1 hx).1
  have hget : p.plain[a]? = some x := by rw [Padding.plain, List.getElem?_append_left hlt, hx]
  have hsame : ∀ j, p.opener + 1 ≤ j → j ≤ a → p.padded[0 + j]?.any (·.type != .comment) =
      p.plain[j]?.any (·.type != .comment) := by
    intro j _ hj
    rw [Nat.zero_add, p.getElem?_front (by omega)]
  have hstop : p.plain[a]?.any (·.type != .comment) = true := by simp [hget, htype]
  obtain ⟨after, h1, h2, h3, h4⟩ := firstIn_shift_of_any 0 ha hsame hstop
  rw [Nat.zero_add, Nat.zero_add] at h4
  refine ⟨after, h1, by omega, ?_, h3, h4⟩
  cases hline : p.plain[after]?.any (·.type == .newline) with
  | true => rfl
  | false =>
    -- A body on the header line would end with that line, above the string.
    have hbody : ∀ b, firstIn (·.type != .comment) p.plain (p.opener + 1) p.plain.length =
        some b → p.plain[b]?.any (·.type == .newline) = false := by
      intro b hb
      rw [h3, Option.some.injEq] at hb
      rw [← hb, hline]
    have hend := Layout.scopeEnd_of_line hbody
    have hnewline : p.plain[a]?.any (fun x => x.type == .newline) = true := by simp [hget, htype]
    have hlen := lt_length_of_any hnewline
    obtain ⟨b, hb, hba⟩ := isSome_firstIn (Nat.succ_le_of_lt ha) hlen hnewline
    rw [hb, Option.some_or, Option.getD_some] at hend
    have hle := p.isFirstStatement.2.1
    unfold Padding.doc at hle
    omega

/-- The end of the scope moves down with the string. -/
theorem scopeEnd_padded :
    Layout.scopeEnd p.padded p.opener = p.count + Layout.scopeEnd p.plain p.opener := by
  obtain ⟨after, h1, h2, h3, h4, h5⟩ := p.exists_newline
  have hle := p.isFirstStatement.2.1
  have hdrop : ∀ zs, (p.front ++ zs).drop (after + 1) = p.front.drop (after + 1) ++ zs := fun zs =>
    List.drop_append_of_le_length (by omega)
  rw [Layout.scopeEnd_of_newline h4 h3, Padding.plain, hdrop] at hle ⊢
  rw [Layout.scopeEnd_of_newline h5 (by rwa [p.getElem?_front h2]), Padding.padded,
    hdrop]
  have hskip : ∀ x ∈ p.front.drop (after + 1) ++ p.gap, Layout.isBodySkip x = true := by
    intro x hx
    rcases List.mem_append.1 hx with hx | hx
    · obtain ⟨j, hj⟩ := List.getElem?_of_mem hx
      rw [List.getElem?_drop] at hj
      have hlt := (List.getElem?_eq_some_iff.1 hj).1
      refine p.isBodySkip_plain (i := after + 1 + j) (by omega) (Nat.lt_add_right _ hlt) ?_
      rw [Padding.plain, List.getElem?_append_left hlt, hj]
    · exact p.isBodySkip_gap hx
  have hblock := blockEnd_padded after (p.pads.append_left (p.front.drop (after + 1)))
    p.string_type p.rest hskip 0 after after (after + 1) (after + 1) (Int.le_refl 0) (by
      rw [List.append_assoc]
      unfold Padding.doc at hle
      omega)
  rw [List.append_assoc, List.append_assoc] at hblock
  omega

/-- The header stays where it is, and the end of the scope moves down. -/
theorem ofDeclaration_padded : Layout.ofDeclaration p.padded p.keyword =
    { Layout.ofDeclaration p.plain p.keyword with
      scopeCloser := some (p.count + Layout.scopeEnd p.plain p.opener) } := by
  have h := Layout.ofDeclaration_append_of_lt p.opener_eq p.opener_lt (p.gap' ++ p.string :: p.rest)
  rw [← p.scopeEnd_padded]
  exact h

theorem docString?_padded : (Layout.ofDeclaration p.padded p.keyword).docString? p.padded =
    some (p.count + p.doc) := by
  have hopener := p.opener_lt
  have hlen := p.length_padded
  obtain ⟨hfirst, hle, ⟨x, hx, htype⟩, after, hafter, hends⟩ := p.isFirstStatement
  rw [p.ofDeclaration_padded]
  refine Layout.docString?_eq_some_iff.2 ⟨p.opener, _, p.opener_eq, rfl, ?_, by omega,
    ⟨x, (p.getElem?_back (Nat.le_refl _)).trans hx, htype⟩, p.count + after, ?_, ?_⟩
  · obtain ⟨h1, h2, h3, -⟩ := firstIn_eq_some_iff.1 hfirst
    refine firstIn_eq_some_iff.2 ⟨by omega, by omega, ?_, fun j hj1 hj2 => ?_⟩
    · rw [p.getElem?_back (Nat.le_refl _)]
      exact h3
    · cases hy : p.padded[j]? with
      | none => rfl
      | some y => simp [p.isBodySkip_padded hj1 hj2 hy]
  · have hsame : ∀ j, p.doc + 1 ≤ j → j < p.plain.length →
        p.padded[p.count + j]?.any (·.type != .comment) = p.plain[j]?.any (·.type != .comment) := by
      intro j hj _
      rw [p.getElem?_back (by omega)]
    have hmove := firstIn_shift p.count hsame
    rw [← hlen, hafter] at hmove
    exact hmove
  · obtain ⟨h1, -⟩ := firstIn_eq_some_iff.1 hafter
    rw [p.getElem?_back (by omega)]
    exact hends

end DocPadding

end DocLint
