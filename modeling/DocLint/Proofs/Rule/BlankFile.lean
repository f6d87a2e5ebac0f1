import DocLint.Proofs.Rule.BlankLines
import DocLint.Proofs.Token.Structure

/-!
# Blank files

A blank file consists of line breaks and of lexemes without width. Line breaks are
kept in a token sequence, so only a file without any of them has the empty sequence.
With line breaks the sequence is the open tag, which stands on the first line, and
white space. The rule takes the open tag for the last code of the file: a file of one
blank line is told that it has no blank line at its end, one of two is right, and
one of more has too many.

Results:
* `tokens_ofLexemes_blank`: the token sequence of a blank file.
* `EndOfFile.exists_verdict_blank`: what the rule says about it.
* `EndOfFile.blankFile_verdict`: both, and when there is nothing to say.
* `EndOfFile.oneBreak_reported`: a blank file that is not treated like an empty one.
-/
namespace DocLint

open TokenSequence

variable {xs : List Lexeme} {x : Lexeme} {i : Nat}

/-- Whether a file holds nothing but line breaks and lexemes without width. -/
def IsBlankFile (xs : List Lexeme) : Prop :=
  ∀ x ∈ xs, x.type ∈ [LexemeType.encoding, .lineBreak, .dedent, .endMarker]

instance : DecidablePred IsBlankFile := fun xs => by unfold IsBlankFile; infer_instance

def lineBreaks (xs : List Lexeme) : List Lexeme := xs.filter fun x => x.type == .lineBreak

/-- The white space that a line break is kept as. -/
def Lexeme.toBlank (x : Lexeme) : Token :=
  { kind := .whitespace, text := x.text, line := x.line, column := x.column }

/-! ## The token sequence -/

theorem IsBlankFile.filter_isKept (h : IsBlankFile xs) :
    xs.filter Lexeme.isKept = lineBreaks xs := by
  refine List.filter_congr fun x hx => ?_
  have htype := h x hx
  simp only [List.mem_cons, List.not_mem_nil, or_false] at htype
  rcases htype with ht | ht | ht | ht <;> simp [Lexeme.isKept, LexemeType.isKept, ht]

theorem toToken_lineBreak (hx : xs[i]? = some x) (ht : x.type = .lineBreak) :
    x.toToken xs (docStrings xs) i = x.toBlank := by
  have hdoc : i ∉ docStrings xs := by
    intro hmem
    have hstring := type_of_mem_docStrings hmem hx
    rw [ht] at hstring
    cases hstring
  simp [Lexeme.toToken, hdoc, Lexeme.kind, Lexeme.isDeclaration, ht, Lexeme.toBlank]

/-- A blank file has the empty sequence only if it has no line break. -/
theorem tokens_ofLexemes_blank (h : IsBlankFile xs) : (ofLexemes xs).tokens =
    if lineBreaks xs = [] then [] else openTag :: (lineBreaks xs).map Lexeme.toBlank := by
  have hkept := h.filter_isKept
  split
  · next hnone =>
    rw [hnone, List.filter_eq_nil_iff] at hkept
    exact tokens_ofLexemes_of_dropped fun x hx => by simpa using hkept x hx
  · next hsome =>
    have hany : xs.any Lexeme.isKept = true := by
      obtain ⟨x, hx⟩ := List.exists_mem_of_ne_nil _ (hkept ▸ hsome)
      exact List.any_eq_true.2 ⟨x, List.mem_filter.1 hx⟩
    have hblank : ∀ y ∈ xs.zipIdx.filter (fun y => y.1.isKept),
        y.1.toToken xs (docStrings xs) y.2 = y.1.toBlank := by
      rintro ⟨x, i⟩ hy
      obtain ⟨hmem, hk⟩ := List.mem_filter.1 hy
      have hx : xs[i]? = some x := List.mk_mem_zipIdx_iff_getElem?.1 hmem
      have hbreak : x ∈ lineBreaks xs :=
        hkept ▸ List.mem_filter.2 ⟨List.mem_of_getElem? hx, hk⟩
      exact toToken_lineBreak hx (by simpa using (List.mem_filter.1 hbreak).2)
    have hfirst : (xs.zipIdx.filter fun y => y.1.isKept).map Prod.fst = lineBreaks xs :=
      calc (xs.zipIdx.filter fun y => y.1.isKept).map Prod.fst
        _ = (xs.zipIdx.map Prod.fst).filter Lexeme.isKept := by rw [List.filter_map]; rfl
        _ = lineBreaks xs := by rw [List.zipIdx_map_fst, hkept]
    rw [tokens_ofLexemes hany, List.map_congr_left hblank, ← hfirst, List.map_map]
    rfl

namespace EndOfFile

/-! ## The verdict -/

/-- The open tag is the last code of a blank file, so the rule counts from line one. -/
theorem exists_verdict_blank (listing : Registry.Listing) (h : IsBlankFile xs) {last : Lexeme}
    (hlast : (lineBreaks xs).getLast? = some last) :
    ∃ vs, (Checker.endOfFile listing).violations (ofLexemes xs) = .ok vs ∧
      Verdict 0 1 (last.line - 1) vs := by
  have htokens : (ofLexemes xs).tokens = openTag :: (lineBreaks xs).map Lexeme.toBlank := by
    rw [tokens_ofLexemes_blank h, if_neg]
    intro hnone
    rw [hnone] at hlast
    cases hlast
  have hopened : (ofLexemes xs).tokens[0]?.any (·.kind == .openTag) = true := by
    rw [htokens]
    rfl
  have hcode : IsLastCode (ofLexemes xs) 0 openTag := by
    refine ⟨by rw [htokens]; rfl, by decide, ?_⟩
    intro j u hj hu
    obtain ⟨k, rfl⟩ := Nat.exists_eq_add_of_lt hj
    rw [htokens, Nat.zero_add, List.getElem?_cons_succ] at hu
    obtain ⟨x, -, rfl⟩ := List.mem_map.1 (List.mem_of_getElem? hu)
    rfl
  have hend : (ofLexemes xs).tokens.getLast? = some last.toBlank := by
    rw [htokens, List.getLast?_cons, List.getLast?_map, hlast]
    rfl
  obtain ⟨later, htags⟩ := exists_indicesOf_openTag hopened
  obtain ⟨vs, hvs, hverdict⟩ :=
    exists_verdict (hasEarlierTag_of_indicesOf htags).1 hcode hend
  exact ⟨vs, violations_of_first listing htags hvs, hverdict⟩

theorem Verdict.eq_nil_iff {index : Nat} {line blankLines : Int} {vs : List Violation}
    (h : Verdict index line blankLines vs) : vs = [] ↔ blankLines = 1 ∨ blankLines < 0 := by
  cases h with
  | missing v hzero hv => exact ⟨fun hnil => (List.cons_ne_nil _ _ hnil).elim, fun h => by omega⟩
  | tooMany v hmany hv => exact ⟨fun hnil => (List.cons_ne_nil _ _ hnil).elim, fun h => by omega⟩
  | single hsingle => exact ⟨fun _ => hsingle, fun _ => rfl⟩

theorem run_of_violations {listing : Registry.Listing} {vs : List Violation}
    (h : (Checker.endOfFile listing).violations (ofLexemes xs) = .ok vs) :
    (Checker.endOfFile listing).run xs = .ok (vs.map (Checker.endOfFile listing).message) := by
  simp only [Checker.run, h, bind, Except.bind, pure, Except.pure]

/-- The token sequence of a blank file, and what the host is told about it. Nothing
is in the sequence and nothing is told if the file has no line break. Otherwise the
verdict is about the open tag, on line one, and counts the lines from there to the
last line break. So nothing is told if that one ends the second line, and also if its
line comes before the first. -/
theorem blankFile_verdict (listing : Registry.Listing) (xs : List Lexeme) (h : IsBlankFile xs) :
    (ofLexemes xs).tokens =
      (if lineBreaks xs = [] then [] else openTag :: (lineBreaks xs).map Lexeme.toBlank) ∧
    ∃ vs, (Checker.endOfFile listing).run xs =
        .ok (vs.map (Checker.endOfFile listing).message) ∧
      ((lineBreaks xs).getLast? = none → vs = []) ∧
      (∀ last, (lineBreaks xs).getLast? = some last → Verdict 0 1 (last.line - 1) vs) ∧
      (vs = [] ↔ ∀ last, (lineBreaks xs).getLast? = some last → last.line = 2 ∨ last.line < 1) := by
  refine ⟨tokens_ofLexemes_blank h, ?_⟩
  cases hlast : (lineBreaks xs).getLast? with
  | none =>
    have htokens : (ofLexemes xs).tokens = [] := by
      rw [tokens_ofLexemes_blank h, if_pos (List.getLast?_eq_none_iff.1 hlast)]
    have hnone : (ofLexemes xs).indicesOf .openTag = [] := by
      rw [indicesOf, length, htokens]
      rfl
    refine ⟨[], run_of_violations ?_, fun _ => rfl, by simp, by simp⟩
    simp only [Checker.violations, Checker.endOfFile, hnone]
    rfl
  | some last =>
    obtain ⟨vs, hvs, hverdict⟩ := exists_verdict_blank listing h hlast
    refine ⟨vs, run_of_violations hvs, by simp, ?_, ?_⟩
    · rintro _ ⟨⟩
      exact hverdict
    · rw [hverdict.eq_nil_iff]
      simp only [Option.some.injEq, forall_eq']
      omega

/-- A file of the given number of blank lines. -/
def blankFile (count : Nat) : List Lexeme :=
  ⟨.encoding, "utf-8", 0, 0⟩ ::
    ((List.range count).map fun k : Nat => ⟨.lineBreak, "\n", k + 1, 0⟩) ++
      [⟨.endMarker, "", count + 1, 0⟩]

/-- Three blank lines are too many, and two are right. -/
theorem threeBreaks_tooMany : IsBlankFile (blankFile 3) ∧ IsBlankFile (blankFile 2) ∧
    (∃ v, (Checker.endOfFile (.ofEntries CatalogueEntry.ofEndOfFile)).run (blankFile 3) =
        .ok [(Checker.endOfFile (.ofEntries CatalogueEntry.ofEndOfFile)).message v] ∧
      Says v .endTooManyBlankLines 0 1 ["2"]) ∧
    (Checker.endOfFile (.ofEntries CatalogueEntry.ofEndOfFile)).run (blankFile 2) = .ok [] := by
  have hthree : IsBlankFile (blankFile 3) := by decide
  have htwo : IsBlankFile (blankFile 2) := by decide
  obtain ⟨-, vs, hrun, -, hverdict, -⟩ := blankFile_verdict (.ofEntries CatalogueEntry.ofEndOfFile) _ hthree
  obtain ⟨-, vs', hrun', -, -, hnil⟩ := blankFile_verdict (.ofEntries CatalogueEntry.ofEndOfFile) _ htwo
  refine ⟨hthree, htwo, ?_, ?_⟩
  · cases hverdict ⟨.lineBreak, "\n", 3, 0⟩ (by decide) with
    | tooMany v _ hv => exact ⟨v, hrun, hv⟩
    | missing v hzero => cases hzero
    | single hsingle => exact absurd hsingle (by decide)
  · rw [hrun', hnil.2]
    · rfl
    · rintro last hlast
      obtain rfl : (⟨.lineBreak, "\n", 2, 0⟩ : Lexeme) = last := Option.some.inj hlast
      exact .inl rfl

/-- A file of one blank line has an open tag and white space for tokens, and the host
is told that no blank line ends it. -/
theorem oneBreak_reported : IsBlankFile (blankFile 1) ∧
    (ofLexemes (blankFile 1)).tokens = [openTag, ⟨.whitespace, "\n", 1, 0, {}⟩] ∧
    ∃ v, (Checker.endOfFile (.ofEntries CatalogueEntry.ofEndOfFile)).run (blankFile 1) =
        .ok [(Checker.endOfFile (.ofEntries CatalogueEntry.ofEndOfFile)).message v] ∧
      Says v .endBlankLineMissing 0 1 ["0"] := by
  have hone : IsBlankFile (blankFile 1) := by decide
  have hlast : (lineBreaks (blankFile 1)).getLast? = some ⟨.lineBreak, "\n", 1, 0⟩ := by decide
  obtain ⟨vs, hvs, hverdict⟩ := exists_verdict_blank (.ofEntries CatalogueEntry.ofEndOfFile) hone hlast
  refine ⟨hone, by decide, ?_⟩
  cases hverdict with
  | missing v _ hv => exact ⟨v, run_of_violations hvs, hv⟩
  | tooMany v hmany => cases hmany
  | single hsingle => exact absurd hsingle (by decide)

end EndOfFile

end DocLint
