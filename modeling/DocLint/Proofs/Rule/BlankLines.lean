import DocLint.Proofs.Rule.Inversion
import DocLint.Proofs.Rule.Total
import DocLint.Proofs.Steps
import DocLint.Registry.Packaged

/-!
# How many blank lines end a file

The rule compares two lines, but what it says is how many blank lines there are.
It finds the last token that is not white space, and if the white space after it
is on one line after another, then the difference of the lines is their number.
A sequence may have several open tags; only the first one has anything to say.

Results:
* `hasEarlierTag_iff`, `hasEarlierTag_of_indicesOf`: which open tag is looked at.
* `IsLastCode.lastCode_eq`: where the last token that is not white space is.
* `exists_verdict`: the verdict at the first open tag, by the two lines.
* `violations_endOfFile`: all open tags of a sequence together.
-/
namespace DocLint.EndOfFile

open TokenSequence

variable {s : TokenSequence} {t code : Token} {i : Nat}

/-! ## Which open tag is looked at -/

theorem hasEarlierTag_iff :
    hasEarlierTag s i = true ↔ ∃ j < i, s.tokens[j]?.any (·.kind == .openTag) = true := by
  have haccepts : (fun t : Token => (KindTest.oneOf [.openTag]).accepts t.kind) =
      fun t => t.kind == .openTag := by
    funext t
    simp [KindTest.accepts, Bool.beq_eq_decide_eq]
  unfold hasEarlierTag
  rw [Bool.and_eq_true, Option.isSome_iff_ne_none, ne_eq, findPrevious_eq_none_iff, haccepts]
  constructor
  · intro h
    obtain ⟨hi, h⟩ := h
    by_contra hno
    apply h
    intro j _ hj
    rw [Bool.eq_false_iff]
    intro hany
    exact hno ⟨j, by omega, hany⟩
  · intro h
    obtain ⟨j, hj, hany⟩ := h
    refine ⟨by simp only [bne_iff_ne]; omega, fun hno => ?_⟩
    have := hno j (Int.natCast_nonneg j) (by omega)
    rw [hany] at this
    cases this

theorem mem_indicesOf {kind : TokenKind} :
    i ∈ s.indicesOf kind ↔ s.tokens[i]?.any (·.kind == kind) = true := by
  unfold indicesOf
  rw [List.mem_filter, List.mem_range]
  constructor
  · intro h
    exact h.2
  · intro h
    exact ⟨lt_length_of_any h, h⟩

/-- The first open tag has none before it, and all others have. -/
theorem hasEarlierTag_of_indicesOf {first : Nat} {later : List Nat}
    (h : s.indicesOf .openTag = first :: later) :
    hasEarlierTag s first = false ∧ ∀ i ∈ later, hasEarlierTag s i = true := by
  have hsorted : (first :: later).Pairwise (· < ·) := by
    rw [← h]
    exact List.pairwise_lt_range.filter _
  have hfirst := (List.pairwise_cons.1 hsorted).1
  have hmem : ∀ i, i ∈ first :: later ↔ s.tokens[i]?.any (·.kind == .openTag) = true := by
    intro i
    rw [← h]
    exact mem_indicesOf
  constructor
  · rw [Bool.eq_false_iff]
    intro hearlier
    obtain ⟨j, hj, hany⟩ := hasEarlierTag_iff.1 hearlier
    rcases List.mem_cons.1 ((hmem j).2 hany) with heq | hlater
    · omega
    · have := hfirst j hlater
      omega
  · intro i hi
    apply hasEarlierTag_iff.2
    exact ⟨first, hfirst i hi, (hmem first).1 (List.mem_cons_self ..)⟩

/-- An open tag at the start is the first one. -/
theorem exists_indicesOf_openTag (h : s.tokens[0]?.any (·.kind == .openTag) = true) :
    ∃ later, s.indicesOf .openTag = 0 :: later := by
  have hmem : 0 ∈ s.indicesOf .openTag := mem_indicesOf.2 h
  cases htags : s.indicesOf .openTag with
  | nil =>
    rw [htags] at hmem
    cases hmem
  | cons first later =>
    rw [htags] at hmem
    rcases List.mem_cons.1 hmem with rfl | hlater
    · exact ⟨later, rfl⟩
    · have hearlier := (hasEarlierTag_of_indicesOf htags).2 0 hlater
      obtain ⟨j, hj, -⟩ := hasEarlierTag_iff.1 hearlier
      omega

theorem check_of_hasEarlierTag (h : hasEarlierTag s i = true) : check s i = .ok [] := by
  unfold check
  rw [if_pos h]
  rfl

/-! ## The last token that is not white space -/

/-- Whether `t`, at `i`, is the last token that is not white space. -/
structure IsLastCode (s : TokenSequence) (i : Nat) (t : Token) : Prop where
  token : s.tokens[i]? = some t
  isCode : t.kind ≠ .whitespace
  last : ∀ (j : Nat) (u : Token), i < j → s.tokens[j]? = some u → u.kind = .whitespace

theorem lastCode_eq_getD (s : TokenSequence) :
    lastCode s = (lastIn (fun t => t.kind != .whitespace) s.tokens 0 s.length).getD 0 := by
  have haccepts : (fun t : Token => (KindTest.noneOf [.whitespace]).accepts t.kind) =
      fun t => t.kind != .whitespace := by
    funext t
    simp [KindTest.accepts, bne, Bool.beq_eq_decide_eq]
  unfold lastCode findPrevious
  rw [haccepts]
  congr 2
  omega

theorem IsLastCode.lastCode_eq (h : IsLastCode s i t) : lastCode s = i := by
  have hlength := (List.getElem?_eq_some_iff.1 h.token).1
  have hfound : lastIn (fun t : Token => t.kind != .whitespace) s.tokens 0 s.length = some i := by
    rw [lastIn_eq_some_iff]
    refine ⟨Nat.zero_le i, hlength, ?_, ?_⟩
    · rw [h.token]
      simpa using h.isCode
    · intro j hij _
      cases hu : s.tokens[j]? with
      | none => rfl
      | some u => simpa using h.last j u hij hu
  rw [lastCode_eq_getD, hfound, Option.getD_some]

/-- Where anything is not white space, there is a last such token. -/
theorem exists_isLastCode (ht : s.tokens[i]? = some t) (hcode : t.kind ≠ .whitespace) :
    ∃ j u, IsLastCode s j u := by
  cases hfound : lastIn (fun t : Token => t.kind != .whitespace) s.tokens 0 s.length with
  | none =>
    have := lastIn_eq_none_iff.1 hfound i (Nat.zero_le i) (List.getElem?_eq_some_iff.1 ht).1
    rw [ht] at this
    exact absurd (by simpa using this) hcode
  | some j =>
    obtain ⟨-, -, hany, hlast⟩ := lastIn_eq_some hfound
    obtain ⟨u, hu, hukind⟩ := (Option.any_eq_true ..).1 hany
    refine ⟨j, u, hu, by simpa using hukind, ?_⟩
    intro k w hjk hw
    have := hlast k hjk (List.getElem?_eq_some_iff.1 hw).1
    rw [hw] at this
    simpa using this

/-! ## The verdict -/

/-- Whether a violation is what a check has to say, with these arguments, about
the token at `index`. -/
structure Says (v : Violation) (check : Check) (index : Nat) (line : Int) (args : List String) :
    Prop extends v.IsOf check where
  tokenIndex_eq : v.tokenIndex = index
  line_eq : v.line = line
  args_eq : v.args = args

/-- What there is to say about a number of blank lines after the token at `index`. -/
inductive Verdict (index : Nat) (line blankLines : Int) : List Violation → Prop
  | missing (v : Violation) (h : blankLines = 0)
    (hv : Says v .endBlankLineMissing index line ["0"]) : Verdict index line blankLines [v]
  | tooMany (v : Violation) (h : 1 < blankLines)
    (hv : Says v .endTooManyBlankLines index line [toString blankLines]) :
    Verdict index line blankLines [v]
  | single (h : blankLines = 1 ∨ blankLines < 0) : Verdict index line blankLines []

theorem exists_says (check : Check) (ht : s.tokens[i]? = some t) (args : List String)
    (hfits : args.length = check.slots) :
    ∃ v, check.report s i args = .ok v ∧ Says v check i t.line args := by
  obtain ⟨v, hv⟩ := check.exists_report ht args hfits
  have hof := Check.isOf_of_report hv hfits
  obtain ⟨u, message, hu, -, rfl⟩ := Check.exists_of_report hv
  rw [get_natCast ht] at hu
  obtain rfl := Except.ok.inj hu
  exact ⟨_, hv, hof, rfl, rfl, rfl⟩

/-- The verdict at the first open tag, by the lines of the last token and of the
last one that is not white space. -/
theorem exists_verdict {last : Token} {index : Nat} (htag : hasEarlierTag s i = false)
    (hcode : IsLastCode s index code) (hlast : s.tokens.getLast? = some last) :
    ∃ vs, check s i = .ok vs ∧ Verdict index code.line (last.line - code.line) vs := by
  have hlength : s.length ≠ 0 := by
    have := (List.getElem?_eq_some_iff.1 hcode.token).1
    simp only [length]
    omega
  have hget : s.get ((s.length : Int) - 1) = .ok last := by
    rw [List.getLast?_eq_getElem?] at hlast
    rw [show (s.length : Int) - 1 = (s.tokens.length - 1 : Nat) by simp only [length] at *; omega]
    exact get_natCast hlast
  obtain ⟨missing, hmissing, hzero⟩ := exists_says .endBlankLineMissing hcode.token ["0"] rfl
  obtain ⟨many, hmany, hargs⟩ := exists_says .endTooManyBlankLines hcode.token
    [toString (last.line - code.line)] rfl
  unfold check
  rw [htag, if_neg Bool.false_ne_true, if_neg hlength, hcode.lastCode_eq]
  simp only [hget, get_natCast hcode.token, hmissing, hmany, bind, Except.bind, pure, Except.pure]
  split
  · next h => exact ⟨_, rfl, .missing missing h hzero⟩
  · next h =>
    split
    · next hgt => exact ⟨_, rfl, .tooMany many hgt hargs⟩
    · exact ⟨_, rfl, .single (by omega)⟩

namespace Verdict

variable {index : Nat} {line blankLines : Int} {vs : List Violation}

theorem length_le_one (h : Verdict index line blankLines vs) : vs.length ≤ 1 := by
  cases h <;> simp

theorem says_of_mem (h : Verdict index line blankLines vs) {v : Violation} (hv : v ∈ vs) :
    v.tokenIndex = index ∧ v.line = line := by
  cases h with
  | missing w _ hw =>
    obtain rfl := List.mem_singleton.1 hv
    exact ⟨hw.tokenIndex_eq, hw.line_eq⟩
  | tooMany w _ hw =>
    obtain rfl := List.mem_singleton.1 hv
    exact ⟨hw.tokenIndex_eq, hw.line_eq⟩
  | single => cases hv

end Verdict

/-! ## All open tags together -/

theorem violations_of_first (listing : Registry.Listing) {first : Nat} {later : List Nat}
    {vs : List Violation} (htags : s.indicesOf .openTag = first :: later)
    (hfirst : check s first = .ok vs) :
    (Checker.endOfFile listing).violations s = .ok vs := by
  obtain ⟨found, hfound, rfl⟩ := flatten_mapM_of_first
    (f := fun i : Nat => check s i) hfirst fun i hi =>
      check_of_hasEarlierTag ((hasEarlierTag_of_indicesOf htags).2 i hi)
  unfold Checker.violations
  simp only [Checker.endOfFile, htags, hfound, bind, Except.bind, pure, Except.pure]

/-- A sequence that begins with an open tag and ends in blank lines. After the
last token that is not white space there is white space on the same line, and
then there is one white space token on each of the lines below it. -/
structure EndsIn (s : TokenSequence) (front : List Token) (code : Token)
    (same blank : List Token) : Prop where
  tokens_eq : s.tokens = front ++ code :: (same ++ blank)
  opened : s.tokens[0]?.any (·.kind == .openTag) = true
  isCode : code.kind ≠ .whitespace
  same : ∀ t ∈ same, t.kind = .whitespace ∧ t.line = code.line
  blank : ∀ (j : Nat) (t : Token), blank[j]? = some t →
    t.kind = .whitespace ∧ t.line = code.line + 1 + j

namespace EndsIn

variable {front same blank : List Token}

theorem isLastCode (h : EndsIn s front code same blank) : IsLastCode s front.length code where
  token := by
    rw [h.tokens_eq]
    simp
  isCode := h.isCode
  last := by
    intro j u hj hu
    obtain ⟨k, rfl⟩ := Nat.exists_eq_add_of_lt hj
    rw [h.tokens_eq, List.getElem?_append_right (by omega),
      show front.length + k + 1 - front.length = k + 1 by omega, List.getElem?_cons_succ] at hu
    rcases List.mem_append.1 (List.mem_of_getElem? hu) with hsame | hblank
    · exact (h.same u hsame).1
    · obtain ⟨m, hm⟩ := List.mem_iff_getElem?.1 hblank
      exact (h.blank m u hm).1

/-- The last token is as many lines below the last code as there are blank lines. -/
theorem getLast (h : EndsIn s front code same blank) :
    ∃ last, s.tokens.getLast? = some last ∧ last.line = code.line + blank.length := by
  rw [h.tokens_eq, List.getLast?_append_of_ne_nil _ (List.cons_ne_nil _ _)]
  rcases List.eq_nil_or_concat blank with rfl | ⟨init, last, rfl⟩
  · rw [List.append_nil, List.length_nil, Int.natCast_zero, Int.add_zero]
    rcases List.eq_nil_or_concat same with rfl | ⟨init, last, rfl⟩
    · exact ⟨code, rfl, rfl⟩
    · refine ⟨last, ?_, (h.same last (by simp)).2⟩
      rw [List.concat_eq_append, ← List.cons_append, List.getLast?_concat]
  · refine ⟨last, ?_, ?_⟩
    · rw [List.concat_eq_append, ← List.append_assoc, ← List.cons_append, List.getLast?_concat]
    · have := (h.blank init.length last (by simp)).2
      simp only [List.length_concat]
      omega

theorem indicesOf (h : EndsIn s front code same blank) :
    ∃ later, s.indicesOf .openTag = 0 :: later := exists_indicesOf_openTag h.opened

end EndsIn

/-- The rule never fails at an open tag, and all open tags of a sequence together
lead to one violation at most. It comes from the first of them and is about the
last token that is not white space. If the sequence begins with an open tag and
ends in blank lines, the number of the blank lines decides. -/
theorem violations_endOfFile (listing : Registry.Listing) (s : TokenSequence) :
    ∃ vs, (Checker.endOfFile listing).violations s = .ok vs ∧ vs.length ≤ 1 ∧
      (∀ i ∈ (s.indicesOf .openTag).tail, check s i = .ok []) ∧
      (∀ v ∈ vs, ∃ first, (s.indicesOf .openTag).head? = some first ∧ check s first = .ok vs ∧
        ∃ i t, IsLastCode s i t ∧ v.tokenIndex = i ∧ v.line = t.line) ∧
      ∀ front code same blank, EndsIn s front code same blank →
        (blank.length = 0 →
          ∃ v, vs = [v] ∧ Says v .endBlankLineMissing front.length code.line ["0"]) ∧
        (blank.length = 1 → vs = []) ∧
        (2 ≤ blank.length → ∃ v, vs = [v] ∧
          Says v .endTooManyBlankLines front.length code.line [toString blank.length]) := by
  cases htags : s.indicesOf .openTag with
  | nil =>
    refine ⟨[], ?_, Nat.zero_le 1, by simp, by simp, ?_⟩
    · unfold Checker.violations
      simp only [Checker.endOfFile, htags]
      rfl
    · intro front code same blank hends
      obtain ⟨later, hlater⟩ := hends.indicesOf
      rw [htags] at hlater
      cases hlater
  | cons first later =>
    obtain ⟨hfirst, hlater⟩ := hasEarlierTag_of_indicesOf htags
    have hmem : first ∈ s.indicesOf .openTag := by
      rw [htags]
      exact List.mem_cons_self ..
    obtain ⟨tag, htag, htagkind⟩ := (Option.any_eq_true ..).1 (mem_indicesOf.1 hmem)
    obtain ⟨index, code, hcode⟩ := exists_isLastCode htag (by simp [beq_iff_eq.1 htagkind])
    obtain ⟨last, hlast⟩ : ∃ last, s.tokens.getLast? = some last := by
      cases hlast : s.tokens.getLast? with
      | none =>
        rw [List.getLast?_eq_none_iff.1 hlast] at htag
        cases htag
      | some last => exact ⟨last, rfl⟩
    obtain ⟨vs, hvs, hverdict⟩ := exists_verdict hfirst hcode hlast
    refine ⟨vs, violations_of_first listing htags hvs, hverdict.length_le_one,
      fun i hi => check_of_hasEarlierTag (hlater i hi), fun v hv => ?_, ?_⟩
    · exact ⟨first, rfl, hvs, index, code, hcode, hverdict.says_of_mem hv⟩
    · intro front code' same blank hends
      obtain rfl : index = front.length := by
        rw [← hcode.lastCode_eq, hends.isLastCode.lastCode_eq]
      obtain rfl : code = code' :=
        Option.some.inj (hcode.token.symm.trans hends.isLastCode.token)
      obtain ⟨last', hlast', hline⟩ := hends.getLast
      obtain rfl : last = last' := Option.some.inj (hlast.symm.trans hlast')
      rw [show last.line - code.line = (blank.length : Int) by omega] at hverdict
      cases hverdict with
      | missing v h hv =>
        exact ⟨fun _ => ⟨v, rfl, hv⟩, fun hone => by omega, fun hmany => by omega⟩
      | tooMany v h hv =>
        exact ⟨fun hzero => by omega, fun hone => by omega, fun _ => ⟨v, rfl, hv⟩⟩
      | single h =>
        exact ⟨fun hzero => by omega, fun _ => rfl, fun hmany => by omega⟩

/-- A file with two open tags, code, a comment's line end, and three blank lines. -/
def blankEnding : TokenSequence where
  tokens := [⟨.openTag, "", 1, 0, {}⟩, ⟨.openTag, "", 1, 0, {}⟩, ⟨.name, "x", 1, 0, {}⟩,
    ⟨.whitespace, "\n", 1, 1, {}⟩, ⟨.whitespace, "\n", 2, 0, {}⟩, ⟨.whitespace, "\n", 3, 0, {}⟩,
    ⟨.whitespace, "\n", 4, 0, {}⟩]

theorem blankEnding_tooMany : ∃ v,
    (Checker.endOfFile (.ofEntries CatalogueEntry.ofEndOfFile)).violations blankEnding = .ok [v] ∧
      Says v .endTooManyBlankLines 2 1 ["3"] := by
  have hends : EndsIn blankEnding (blankEnding.tokens.take 2) ⟨.name, "x", 1, 0, {}⟩
      [⟨.whitespace, "\n", 1, 1, {}⟩] (blankEnding.tokens.drop 4) := by
    refine ⟨by decide, by decide, by decide, by decide, ?_⟩
    intro j t ht
    match j, ht with
    | 0, ht | 1, ht | 2, ht =>
      obtain rfl := Option.some.inj ht
      decide
    | _ + 3, ht => cases ht
  obtain ⟨vs, hvs, -, -, -, hverdict⟩ := violations_endOfFile (.ofEntries CatalogueEntry.ofEndOfFile) blankEnding
  obtain ⟨v, rfl, hv⟩ := (hverdict _ _ _ _ hends).2.2 (by decide)
  exact ⟨v, hvs, hv⟩

end DocLint.EndOfFile
