import DocLint.Comment.Reader
import DocLint.Proofs.Rule.Opening

/-!
# Looking for a return that gives a value

The return tag is checked if some return in the scope of the function gives a
value: the first token after it that is neither blank nor a comment is there,
and does not end the statement. Such a return can be found one by one, going on
from each return to the next. A return without a value does not end the search,
and what follows a return may lie outside the scope. The ends of the scope are
any two positions, in the sequence or not.

Results:
* `seekReturn_eq_some`, `seekReturn_eq_none`: what the search finds.
* `returnsValue_eq_isSome_seekReturn`: the search finds something just if there
  is something to find.
* `FunctionRule.checkReturnFully_verdict`: the verdict on the return tag.
-/
namespace DocLint

namespace TokenSequence

variable {s : TokenSequence} {start stop : Int} {r : Nat}

/-! ## Returns and their values -/

def isReturn (s : TokenSequence) (r : Nat) : Bool := s.tokens[r]?.any (·.kind == .returnKeyword)

/-- Whether the first token after a position that is neither blank nor a comment is
there and does not end a statement. -/
def ValueFollows (s : TokenSequence) (r : Nat) : Prop :=
  ∃ k t, r < k ∧ s.tokens[k]? = some t ∧ t.kind ∉ [.whitespace, .comment, .terminator] ∧
    ∀ j u, r < j → j < k → s.tokens[j]? = some u → u.kind ∈ [.whitespace, .comment]

theorem isSignificant_iff {t : Token} :
    isSignificant t = true ↔ t.kind ∉ [TokenKind.whitespace, .comment] := by
  simp [isSignificant, KindTest.accepts]

theorem givesValue_iff : s.givesValue r = true ↔ s.ValueFollows r := by
  rw [givesValue_eq]
  constructor
  · intro h
    obtain ⟨k, hk, hvalue⟩ := (Option.any_eq_true ..).1 h
    obtain ⟨t, ht, hkind⟩ := (Option.any_eq_true ..).1 hvalue
    obtain ⟨hlt, -, hfound, hbefore⟩ := firstIn_eq_some_iff.1 hk
    rw [ht, Option.any_some, isSignificant_iff] at hfound
    refine ⟨k, t, by omega, ht, ?_, ?_⟩
    · simp only [List.mem_cons, List.not_mem_nil, or_false, not_or] at hfound ⊢
      exact ⟨hfound.1, hfound.2, by simpa using hkind⟩
    · intro j u hj hjk hu
      have hskip := hbefore j (by omega) hjk
      rw [hu, Option.any_some] at hskip
      by_contra hmem
      rw [isSignificant_iff.2 hmem] at hskip
      cases hskip
  · rintro ⟨k, t, hlt, ht, hkind, hbefore⟩
    simp only [List.mem_cons, List.not_mem_nil, or_false, not_or] at hkind
    have hk : firstIn isSignificant s.tokens (r + 1) s.length = some k := by
      rw [firstIn_eq_some_iff]
      refine ⟨by omega, (List.getElem?_eq_some_iff.1 ht).1, ?_, ?_⟩
      · rw [ht, Option.any_some, isSignificant_iff]
        simp [hkind]
      · intro j hj hjk
        cases hu : s.tokens[j]? with
        | none => rfl
        | some u =>
          have hmem := hbefore j u (by omega) hjk hu
          rw [Option.any_some, Bool.eq_false_iff]
          intro h
          exact isSignificant_iff.1 h hmem
    rw [hk, Option.any_some, ht, Option.any_some]
    simpa using hkind.2.2

/-! ## The search -/

theorem findNext_return (s : TokenSequence) (start stop : Int) :
    s.findNext (.oneOf [.returnKeyword]) start (some stop) =
      s.findNextBy (·.kind == .returnKeyword) start (some stop) := by
  unfold findNext
  congr 1
  funext t
  cases h : t.kind <;> rfl

theorem findNext_return_eq_some_iff :
    s.findNext (.oneOf [.returnKeyword]) start (some stop) = some r ↔
      start ≤ r ∧ r < stop ∧ s.isReturn r = true ∧
        ∀ j : Nat, start ≤ j → j < r → s.isReturn j = false := by
  rw [findNext_return, findNextBy_eq_some_iff]
  rfl

theorem findNext_return_eq_none_iff :
    s.findNext (.oneOf [.returnKeyword]) start (some stop) = none ↔
      ∀ r : Nat, start ≤ r → r < stop → s.isReturn r = false := by
  rw [findNext_return, findNextBy_eq_none_iff]
  rfl

/-- The first return from `start` on, and before `stop`, that gives a value: from
each return without one the search goes on to the next return. -/
def seekReturn (s : TokenSequence) (stop start : Int) : Option Nat :=
  match h : s.findNext (.oneOf [.returnKeyword]) start (some stop) with
  | none => none
  | some r => if s.givesValue r then some r else seekReturn s stop (r + 1)
termination_by s.length - start.toNat
decreasing_by
  obtain ⟨h1, -, h3, -⟩ := findNext_return_eq_some_iff.1 h
  have hlt : r < s.length := lt_length_of_any h3
  omega

/-- What the search finds is the first return that gives a value: it has passed over
returns without one only. -/
theorem seekReturn_eq_some (h : s.seekReturn stop start = some r) :
    start ≤ r ∧ r < stop ∧ s.isReturn r = true ∧ s.givesValue r = true ∧
      ∀ j : Nat, start ≤ j → j < r → s.isReturn j = true → s.givesValue j = false := by
  induction start using seekReturn.induct s stop with
  | case1 start hnone =>
    rw [seekReturn, hnone] at h
    cases h
  | case2 start next hnext hvalue =>
    rw [seekReturn, hnext] at h
    simp only [hvalue, if_true, Option.some.injEq] at h
    subst h
    obtain ⟨h1, h2, h3, h4⟩ := findNext_return_eq_some_iff.1 hnext
    refine ⟨h1, h2, h3, hvalue, ?_⟩
    intro j hj1 hj2 hj
    rw [h4 j hj1 hj2] at hj
    cases hj
  | case3 start next hnext hvalue ih =>
    rw [seekReturn, hnext] at h
    simp only [hvalue, Bool.false_eq_true, if_false] at h
    obtain ⟨h1, -, -, h4⟩ := findNext_return_eq_some_iff.1 hnext
    obtain ⟨h5, h6, h7, h8, h9⟩ := ih h
    refine ⟨by omega, h6, h7, h8, ?_⟩
    intro j hj1 hj2 hj
    rcases Nat.lt_trichotomy j next with hlt | rfl | hgt
    · rw [h4 j hj1 hlt] at hj
      cases hj
    · simpa using hvalue
    · exact h9 j (by omega) hj2 hj

/-- A search that finds nothing has come past every return. -/
theorem seekReturn_eq_none (h : s.seekReturn stop start = none) (h1 : start ≤ r)
    (h2 : r < stop) (hr : s.isReturn r = true) : s.givesValue r = false := by
  induction start using seekReturn.induct s stop with
  | case1 start hnone =>
    rw [findNext_return_eq_none_iff.1 hnone r h1 h2] at hr
    cases hr
  | case2 start next hnext hvalue =>
    rw [seekReturn, hnext] at h
    simp [hvalue] at h
  | case3 start next hnext hvalue ih =>
    rw [seekReturn, hnext] at h
    simp only [hvalue, Bool.false_eq_true, if_false] at h
    obtain ⟨-, -, -, h6⟩ := findNext_return_eq_some_iff.1 hnext
    rcases Nat.lt_trichotomy r next with hlt | rfl | hgt
    · rw [h6 r h1 hlt] at hr
      cases hr
    · simpa using hvalue
    · exact ih h (by omega)

/-- Whether some return between two positions gives a value. Both positions are
included, and may lie outside the sequence. -/
def ReturnsWithin (s : TokenSequence) (o l : Int) : Prop :=
  ∃ r : Nat, o ≤ r ∧ r ≤ l ∧ s.isReturn r = true ∧ s.ValueFollows r

theorem isSome_seekReturn_iff {o l : Int} :
    (s.seekReturn (l + 1) o).isSome = true ↔ s.ReturnsWithin o l := by
  constructor
  · intro h
    obtain ⟨r, hr⟩ := Option.isSome_iff_exists.1 h
    obtain ⟨h1, h2, h3, h4, -⟩ := seekReturn_eq_some hr
    exact ⟨r, h1, by omega, h3, givesValue_iff.1 h4⟩
  · rintro ⟨r, h1, h2, h3, h4⟩
    cases hseek : s.seekReturn (l + 1) o with
    | some r => rfl
    | none =>
      have hvalue := seekReturn_eq_none hseek h1 (by omega) h3
      rw [givesValue_iff.2 h4] at hvalue
      cases hvalue

theorem returnsValue_iff_returnsWithin {o l : Int} :
    s.returnsValue o l = true ↔ s.ReturnsWithin o l := by
  simp only [returnsValue_iff, givesValue_iff]
  rfl

/-- The search from one return to the next finds something just if some return gives
a value. -/
theorem returnsValue_eq_isSome_seekReturn (s : TokenSequence) (o l : Int) :
    s.returnsValue o l = (s.seekReturn (l + 1) o).isSome := by
  rw [Bool.eq_iff_iff, returnsValue_iff_returnsWithin, isSome_seekReturn_iff]

/-- Whether a function has a scope in which some return gives a value. -/
def ReturnsInScope (s : TokenSequence) (t : Token) : Prop :=
  ∃ o l, t.extent.scopeOpener = some o ∧ t.extent.scopeCloser = some l ∧ s.ReturnsWithin o l

theorem functionReturns_iff_returnsInScope {t : Token} :
    s.functionReturns t = true ↔ s.ReturnsInScope t := by
  unfold functionReturns ReturnsInScope
  cases t.extent.scopeOpener with
  | none => simp
  | some o =>
    cases t.extent.scopeCloser with
    | none => simp
    | some l => simp [returnsValue_iff_returnsWithin]

end TokenSequence

/-! ## The verdict on the return tag -/

namespace Reading

variable {reading : Reading} {line : Int}

theorem returnMissing_mem_iff :
    (∃ f ∈ reading.returnFindings line, f.check = .returnMissing) ↔ reading.returnTag = none := by
  unfold returnFindings
  cases reading.returnTag with
  | none => simp
  | some tag => by_cases hblank : Text.isBlankText tag.value.toList <;> simp [hblank]

theorem returnValueMissing_mem_iff :
    (∃ f ∈ reading.returnFindings line, f.check = .returnValueMissing) ↔
      ∃ tag, reading.returnTag = some tag ∧ Text.isBlankText tag.value.toList = true := by
  unfold returnFindings
  cases reading.returnTag with
  | none => simp
  | some tag => by_cases hblank : Text.isBlankText tag.value.toList <;> simp [hblank]

end Reading

theorem Subject.exists_violation_iff (u : Subject) (fs : List Finding) (check : Check) :
    (∃ v ∈ fs.map u.violation, v.code = check.code) ↔ ∃ f ∈ fs, f.check = check := by
  constructor
  · rintro ⟨v, hv, hcode⟩
    obtain ⟨f, hf, rfl⟩ := List.mem_map.1 hv
    exact ⟨f, hf, Check.code_injective hcode⟩
  · rintro ⟨f, hf, rfl⟩
    exact ⟨u.violation f, List.mem_map_of_mem hf, rfl⟩

namespace FunctionRule

variable {u : Subject} {t : Token} {c : DocComment}

/-- Unless the comment inherits its text, the return tag is checked just if the
function returns a value. -/
theorem checkReturnFully_eq (rule : FunctionRule) (ht : u.tokens.get u.functionIndex = .ok t)
    (hc : u.reading.comment = some c) (hinherits : c.inherits = false) :
    rule.checkReturnFully u =
      if u.tokens.functionReturns t then rule.checkReturn u else .ok [] := by
  have hsubject : u.inherits = .ok false := by
    rw [Subject.inherits, Subject.comment_eq_ok hc, ← hinherits]
    rfl
  unfold checkReturnFully TokenSequence.functionReturns
  simp only [hsubject, ht, bind, Except.bind, pure, Except.pure, Bool.false_eq_true, if_false]
  cases t.extent.scopeOpener with
  | none => rfl
  | some o =>
    cases t.extent.scopeCloser with
    | none => rfl
    | some l => rfl

/-- The return tag of a comment that does not inherit its text is checked if the
function has a scope in which some return gives a value, and not otherwise. The
search from one return to the next decides it. So a missing return tag or an empty
one is a violation just if there is such a return, and the name of the function is
not among those that need no return tag. -/
theorem checkReturnFully_verdict (rule : FunctionRule) (u : Subject) (t : Token) (c : DocComment)
    (ht : u.tokens.get u.functionIndex = .ok t) (hc : u.reading.comment = some c)
    (hinherits : c.inherits = false) :
    (u.tokens.ReturnsInScope t → rule.checkReturnFully u = rule.checkReturn u) ∧
    (¬u.tokens.ReturnsInScope t → rule.checkReturnFully u = .ok []) ∧
    (∀ o l, t.extent.scopeOpener = some o → t.extent.scopeCloser = some l →
      rule.checkReturnFully u =
        if (u.tokens.seekReturn (l + 1) o).isSome then rule.checkReturn u else .ok []) ∧
    ∃ name vs, u.tokens.declaredName u.functionIndex = .ok name ∧
      rule.checkReturnFully u = .ok vs ∧
      ((∃ v ∈ vs, v.code = Check.returnMissing.code) ↔ u.tokens.ReturnsInScope t ∧
        name ∉ rule.exemptFunctions ∧ u.reading.returnTag = none) ∧
      ((∃ v ∈ vs, v.code = Check.returnValueMissing.code) ↔ u.tokens.ReturnsInScope t ∧
        name ∉ rule.exemptFunctions ∧
        ∃ tag, u.reading.returnTag = some tag ∧ Text.isBlankText tag.value.toList = true) := by
  have hcheck := checkReturnFully_eq rule ht hc hinherits
  have hyes : u.tokens.ReturnsInScope t → rule.checkReturnFully u = rule.checkReturn u := by
    intro h
    rw [hcheck, if_pos (TokenSequence.functionReturns_iff_returnsInScope.2 h)]
  have hno : ¬u.tokens.ReturnsInScope t → rule.checkReturnFully u = .ok [] := by
    intro h
    rw [hcheck, if_neg fun hr => h (TokenSequence.functionReturns_iff_returnsInScope.1 hr)]
  have hsearch : ∀ o l, t.extent.scopeOpener = some o → t.extent.scopeCloser = some l →
      rule.checkReturnFully u =
        if (u.tokens.seekReturn (l + 1) o).isSome then rule.checkReturn u else .ok [] := by
    intro o l ho hl
    rw [hcheck, TokenSequence.functionReturns, ho, hl,
      ← TokenSequence.returnsValue_eq_isSome_seekReturn]
  obtain ⟨n, hn⟩ := Int.eq_ofNat_of_zero_le
    (TokenSequence.get?_eq_some_iff.1 (TokenSequence.get_eq_ok_iff.1 ht)).1
  have ht' := ht
  rw [hn, TokenSequence.get_eq_ok_iff, TokenSequence.get?_natCast] at ht'
  obtain ⟨name, hname⟩ := exists_declaredName ht'
  rw [← hn] at hname
  have htag : rule.checkReturn u = .ok ((if rule.exemptFunctions.contains name then []
      else u.reading.returnFindings c.endLine).map u.violation) := checkReturn_eq hc hname
  refine ⟨hyes, hno, hsearch, name, ?_⟩
  by_cases hreturns : u.tokens.ReturnsInScope t
  · refine ⟨_, hname, (hyes hreturns).trans htag, ?_, ?_⟩
    · rw [u.exists_violation_iff]
      by_cases hexempt : name ∈ rule.exemptFunctions
      · simp [hexempt]
      · simp [hexempt, hreturns, Reading.returnMissing_mem_iff]
    · rw [u.exists_violation_iff]
      by_cases hexempt : name ∈ rule.exemptFunctions
      · simp [hexempt]
      · simp [hexempt, hreturns, Reading.returnValueMissing_mem_iff]
  · exact ⟨[], hname, hno hreturns, by simp [hreturns], by simp [hreturns]⟩

end FunctionRule

/-- `def f():` with a doc comment, a bare return with a comment after it, and a return
that gives a value. -/
def returningFile : List Lexeme :=
  [⟨.name, "def", 1, 0⟩, ⟨.name, "f", 1, 4⟩, ⟨.operator, "(", 1, 5⟩, ⟨.operator, ")", 1, 6⟩,
    ⟨.operator, ":", 1, 7⟩, ⟨.newline, "\n", 1, 8⟩, ⟨.indent, "  ", 2, 0⟩, ⟨.string, "'D.'", 2, 2⟩,
    ⟨.newline, "\n", 2, 6⟩, ⟨.name, "return", 3, 2⟩, ⟨.comment, "# c", 3, 9⟩,
    ⟨.newline, "\n", 3, 12⟩, ⟨.name, "return", 4, 2⟩, ⟨.name, "n", 4, 9⟩, ⟨.newline, "\n", 4, 10⟩,
    ⟨.dedent, "", 5, 0⟩, ⟨.endMarker, "", 5, 0⟩]

/-- The function of that file with its comment, which says nothing about the value. -/
def returningSubject : Subject where
  tokens := TokenSequence.ofLexemes returningFile
  functionIndex := 1
  commentIndex := 8
  token := ⟨.docComment, "'D.'", 2, 2, {}⟩
  reading := { comment := some { content := "D.", line := 0, shortDescription := "D." } }
  token_eq := by decide

/-- The search passes over the bare return, and the tag is missing. -/
theorem returningSubject_verdict :
    (∃ t, returningSubject.tokens.get 1 = .ok t ∧ returningSubject.tokens.ReturnsInScope t) ∧
    ∃ vs, (FunctionRule.mk (docstringReader .small) [] []).checkReturnFully returningSubject = .ok vs ∧
      ∃ v ∈ vs, v.code = Check.returnMissing.code := by
  have ht : returningSubject.tokens.get 1 =
      .ok ⟨.function, "def", 1, 0, ⟨some 5, some 15, some 3, some 4⟩⟩ := by decide
  have hreturns : returningSubject.tokens.ReturnsInScope
      ⟨.function, "def", 1, 0, ⟨some 5, some 15, some 3, some 4⟩⟩ :=
    ⟨5, 15, rfl, rfl, 13, by decide, by decide, by decide,
      TokenSequence.givesValue_iff.1 (by decide)⟩
  obtain ⟨-, -, -, name, vs, -, hvs, hmissing, -⟩ := FunctionRule.checkReturnFully_verdict
    (FunctionRule.mk (docstringReader .small) [] []) returningSubject _ _ ht rfl (by decide)
  exact ⟨⟨_, ht, hreturns⟩, vs, hvs, hmissing.2 ⟨hreturns, List.not_mem_nil, rfl⟩⟩

end DocLint
