import DocLint.Proofs.Token.Sequence
import DocLint.Rule.FunctionComment.Subject

/-!
# What the body of a function starts with

The rule for function comments looks for the first token of a body in two
searches, since comments decide only if no doc comment follows them.

Results:
* `firstBodyToken_eq`: the two searches as a function of positions.
* `filter_bodyStart`: the body starts with a doc comment just if its first
  statement does.
* `docCommentOf_eq`: the rule finds the first token of a statement, if that is
  a doc comment.
-/
namespace DocLint

namespace TokenSequence

variable {s : TokenSequence} {i o : Int} {t header : Token}

/-- The classes of tokens that cannot start a statement. -/
def betweenStatements : List TokenKind := [.whitespace, .terminator, .comment]

/-- Whether there is a doc comment at a position. -/
def isDocComment (s : TokenSequence) (j : Nat) : Bool :=
  s.tokens[j]?.any (·.kind == .docComment)

def startsStatement (u : Token) : Bool := (KindTest.noneOf betweenStatements).accepts u.kind

theorem findNext_eq (s : TokenSequence) (start : Int) (stop : Option Int) :
    s.findNext (.noneOf [.whitespace, .terminator, .comment]) start stop =
      firstIn startsStatement s.tokens start.toNat (s.stopAt stop) := by
  rw [findNext, findNextBy_eq]
  rfl

/-- Whether a body whose header ends on the given line can start with a token. -/
def startsBody (line : Int) (u : Token) : Bool :=
  !isBodySkip u && !(u.kind == .comment && u.line == line)

theorem startsBody_of_startsStatement {u : Token} (h : startsStatement u = true) (line : Int) :
    startsBody line u = true := by
  simp only [startsStatement, KindTest.accepts, betweenStatements] at h
  cases hk : u.kind <;> simp [hk] at h <;> simp [startsBody, isBodySkip, hk]

/-- Of the tokens that a body can start with, only comments start no statement. -/
theorem startsStatement_of_startsBody {u : Token} {line : Int} (h : startsBody line u = true)
    (hc : u.kind ≠ .comment) : startsStatement u = true := by
  simp only [startsBody, isBodySkip, Bool.and_eq_true, Bool.not_eq_true'] at h
  have hskip := h.1
  simp only [startsStatement, KindTest.accepts, betweenStatements]
  cases hk : u.kind <;> simp [hk] at hc hskip <;> rfl

theorem startsStatement_comment {u : Token} (hc : u.kind = .comment) :
    startsStatement u = false := by
  simp [startsStatement, KindTest.accepts, betweenStatements, hc]

theorem any_startsStatement {line : Int} {j : Nat}
    (h : s.tokens[j]?.any (startsBody line) = false) :
    s.tokens[j]?.any startsStatement = false := by
  cases hu : s.tokens[j]? with
  | none => rfl
  | some u =>
    rw [hu, Option.any_some] at h
    rw [Option.any_some]
    cases hs : startsStatement u
    · rfl
    · rw [startsBody_of_startsStatement hs] at h
      cases h

/-- What the body in `[lo, hi)` of a header that ends on the given line starts
with: a doc comment rather than the comments above it. -/
def bodyStart (s : TokenSequence) (line : Int) (lo hi : Nat) : Option Nat :=
  match firstIn (startsBody line) s.tokens lo hi with
  | none => none
  | some first =>
    if s.tokens[first]?.any (·.kind == .comment) then
      ((firstIn startsStatement s.tokens (first + 1) hi).filter s.isDocComment).or (some first)
    else some first

theorem firstBodyToken_eq (ht : s.get? i = some t) (ho : t.extent.scopeOpener = some o)
    (hh : s.get? o = some header) : s.firstBodyToken i = .ok (s.bodyStart header.line (o + 1).toNat
      (s.stopAt (t.extent.scopeCloser.map (· + 1)))) := by
  simp only [firstBodyToken, get_eq_ok_iff.2 ht, get_eq_ok_iff.2 hh, ho, bind, Except.bind, pure,
    Except.pure, findNext_eq, findNextBy_eq, get?_natCast, bodyStart]
  generalize s.stopAt (t.extent.scopeCloser.map (· + 1)) = hi
  generalize (o + 1).toNat = lo
  change (match firstIn (startsBody header.line) s.tokens lo hi with | none => _ | some _ => _) = _
  cases firstIn (startsBody header.line) s.tokens lo hi with
  | none => rfl
  | some first =>
    simp only [Int.toNat_natCast_add_one]
    split
    · cases firstIn startsStatement s.tokens (first + 1) hi with
      | none => rfl
      | some statement =>
        simp only [Option.filter_some, isDocComment]
        by_cases hd : s.tokens[statement]?.any (·.kind == .docComment) = true <;> simp [hd]
    · rfl

theorem bodyStart_mem {line : Int} {lo hi j : Nat} (h : s.bodyStart line lo hi = some j) :
    ∃ u, s.tokens[j]? = some u ∧ lo ≤ j ∧ j < hi := by
  have found : ∀ {p : Token → Bool} {lo' k : Nat}, firstIn p s.tokens lo' hi = some k →
      ∃ u, s.tokens[k]? = some u ∧ lo' ≤ k ∧ k < hi := fun hk => by
    obtain ⟨h1, h2, h3, -⟩ := firstIn_eq_some_iff.1 hk
    obtain ⟨u, hu, -⟩ := (Option.any_eq_true ..).1 h3
    exact ⟨u, hu, h1, h2⟩
  unfold bodyStart at h
  split at h
  · cases h
  · next first hfirst =>
    split at h
    · rw [Option.or_eq_some_iff] at h
      rcases h with h | ⟨-, h⟩
      · obtain ⟨u, hu, h1, h2⟩ := found (Option.filter_eq_some_iff.1 h).1
        have := (found hfirst).elim fun _ h => h.2
        exact ⟨u, hu, by omega, h2⟩
      · rw [Option.some.injEq] at h
        exact h ▸ found hfirst
    · rw [Option.some.injEq] at h
      exact h ▸ found hfirst

/-- The first statement comes after a comment that the body starts with. -/
theorem firstIn_startsStatement_of_comment {line : Int} {lo hi f : Nat}
    (hf : firstIn (startsBody line) s.tokens lo hi = some f)
    (hc : s.tokens[f]?.any (·.kind == .comment) = true) :
    firstIn startsStatement s.tokens lo hi = firstIn startsStatement s.tokens (f + 1) hi := by
  obtain ⟨h1, h2, h3, h4⟩ := firstIn_eq_some_iff.1 hf
  obtain ⟨u, hu, hc⟩ := (Option.any_eq_true ..).1 hc
  refine firstIn_skip (by omega) fun j hj1 hj2 => ?_
  by_cases hj : j = f
  · rw [hj, hu, Option.any_some, startsStatement_comment (by simpa using hc)]
  · exact any_startsStatement (h4 j hj1 (by omega))

/-- A body starts with a doc comment if its first statement does. -/
theorem filter_bodyStart (s : TokenSequence) (line : Int) (lo hi : Nat) :
    (s.bodyStart line lo hi).filter s.isDocComment =
      (firstIn startsStatement s.tokens lo hi).filter s.isDocComment := by
  unfold bodyStart
  cases hfirst : firstIn (startsBody line) s.tokens lo hi with
  | none =>
    rw [firstIn_eq_none_iff] at hfirst
    rw [firstIn_eq_none_iff.2 fun j h1 h2 => any_startsStatement (hfirst j h1 h2)]
  | some f =>
    obtain ⟨h1, h2, h3, h4⟩ := firstIn_eq_some_iff.1 hfirst
    obtain ⟨u, hu, hstart⟩ := (Option.any_eq_true ..).1 h3
    simp only [hu, Option.any_some, beq_iff_eq]
    by_cases hc : u.kind = .comment
    · have hgo := firstIn_startsStatement_of_comment hfirst (by simp [hu, hc])
      have hnot : s.isDocComment f = false := by simp [isDocComment, hu, hc]
      rw [if_pos hc, hgo]
      cases hst : (firstIn startsStatement s.tokens (f + 1) hi).filter s.isDocComment with
      | none => simp [hnot]
      | some st => simp [(Option.filter_eq_some_iff.1 hst).2]
    · have hsame : firstIn startsStatement s.tokens lo hi = some f := by
        refine firstIn_eq_some_iff.2 ⟨h1, h2, ?_, fun j hj1 hj2 =>
          any_startsStatement (h4 j hj1 hj2)⟩
        rw [hu, Option.any_some]
        exact startsStatement_of_startsBody hstart hc
      rw [if_neg hc, hsame]

/-- The rule finds the first token of a statement, if it is a doc comment. -/
theorem docCommentOf_eq (ht : s.get? i = some t) (ho : t.extent.scopeOpener = some o)
    (hh : s.get? o = some header) :
    s.docCommentOf i = .ok ((firstIn startsStatement s.tokens (o + 1).toNat
      (s.stopAt (t.extent.scopeCloser.map (· + 1)))).filter s.isDocComment) := by
  rw [← filter_bodyStart s header.line]
  simp only [docCommentOf, firstBodyToken_eq ht ho hh, bind, Except.bind, pure, Except.pure]
  cases s.bodyStart header.line (o + 1).toNat (s.stopAt (t.extent.scopeCloser.map (· + 1))) with
  | none => rfl
  | some j =>
    simp only [get?_natCast, Option.filter_some, isDocComment]
    rfl

/-- A doc comment that is found is the first token of the body. -/
theorem firstBodyToken_of_docCommentOf {j : Nat} (h : s.docCommentOf i = .ok (some j)) :
    s.firstBodyToken i = .ok (some j) ∧ (s.get? j).any (·.kind == .docComment) = true := by
  unfold docCommentOf at h
  cases hb : s.firstBodyToken i with
  | error fault =>
    rw [hb] at h
    cases h
  | ok first =>
    cases first with
    | none =>
      rw [hb] at h
      cases h
    | some first =>
      simp only [hb, bind, Except.bind, pure, Except.pure, Except.ok.injEq,
        Option.ite_none_right_eq_some, Option.some.injEq] at h
      obtain ⟨hd, rfl⟩ := h
      exact ⟨rfl, hd⟩

end TokenSequence

end DocLint
