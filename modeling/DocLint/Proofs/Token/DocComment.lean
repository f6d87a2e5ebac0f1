import DocLint.Proofs.Token.BodyStart
import DocLint.Proofs.Token.Structure

/-!
# Doc comments in the token sequence

Strings are marked as documenting while the token sequence is made, by a search
among the lexemes. The rule for function comments looks for them again, among
the tokens. The two searches skip different things and see different things,
but they agree on every list of lexemes.

Results:
* `docCommentOf_place`: for a declaration the rule finds the place of the
  documenting string.
* `reports_iff`: a complaint about a lacking comment says that there is none.
* `docComments_agree`: what follows for the whole file.
-/
namespace DocLint

/-! ## The two searches agree -/

variable {xs : List Lexeme} {k d i : Nat} {x : Lexeme}

/-- Among the tokens a semicolon starts no statement either. -/
theorem Lexeme.startsStatement_kind (x : Lexeme) :
    (KindTest.noneOf TokenSequence.betweenStatements).accepts x.kind =
      (!Layout.isBodySkip x && !x.isOperator ";") := by
  rw [Bool.eq_iff_iff]
  simp only [KindTest.accepts, TokenSequence.betweenStatements, Layout.isBodySkip,
    Lexeme.isOperator, Bool.and_eq_true, Bool.not_eq_true', Bool.or_eq_false_iff,
    Bool.and_eq_false_iff, beq_eq_false_iff_ne, List.contains_eq_mem, decide_eq_false_iff_not,
    List.mem_cons, List.not_mem_nil, or_false, not_or]
  unfold Lexeme.kind
  split <;> simp_all
  · split
    · simp
    · split
      · simp
      · split <;> simp
  · split <;> simp_all

theorem startsStatement_toToken (hx : xs[i]? = some x) :
    TokenSequence.startsStatement (x.toToken xs (docStrings xs) i) =
      (!Layout.isBodySkip x && !x.isOperator ";") := by
  unfold TokenSequence.startsStatement
  rcases (renders_toToken hx).kind with hk | ⟨hs, hk⟩
  · rw [hk, Lexeme.startsStatement_kind]
  · rw [hk]
    simp [Layout.isBodySkip, Lexeme.isOperator, hs, KindTest.accepts,
      TokenSequence.betweenStatements]

namespace Layout

/-- No scope opener is passed over on the way to the first statement. -/
theorem isBodySkip_colon (h : x.isOperator ":" = true) : isBodySkip x = false := by
  simp [isBodySkip, Lexeme.type_eq_operator h]

theorem opener_unique {o₁ o₂ : Nat} {y₁ y₂ : Lexeme}
    (h₁ : firstIn (fun x => !isBodySkip x) xs (o₁ + 1) xs.length = some d)
    (h₂ : firstIn (fun x => !isBodySkip x) xs (o₂ + 1) xs.length = some d)
    (hy₁ : xs[o₁]? = some y₁) (hc₁ : y₁.isOperator ":" = true)
    (hy₂ : xs[o₂]? = some y₂) (hc₂ : y₂.isOperator ":" = true) : o₁ = o₂ := by
  obtain ⟨hlt₁, -, -, hno₁⟩ := firstIn_eq_some_iff.1 h₁
  obtain ⟨hlt₂, -, -, hno₂⟩ := firstIn_eq_some_iff.1 h₂
  rcases Nat.lt_trichotomy o₁ o₂ with h | h | h
  · have := hno₁ o₂ (by omega) (by omega)
    simp [hy₂, isBodySkip_colon hc₂] at this
  · exact h
  · have := hno₂ o₁ (by omega) (by omega)
    simp [hy₁, isBodySkip_colon hc₁] at this

/-- Declarations with the same documenting string have the same colon. -/
theorem Sound.opener_eq {k₁ k₂ : Nat} {l₁ l₂ : Layout} (s₁ : Sound xs k₁ l₁) (s₂ : Sound xs k₂ l₂)
    (h₁ : l₁.docString? xs = some d) (h₂ : l₂.docString? xs = some d) :
    l₁.scopeOpener = l₂.scopeOpener := by
  obtain ⟨o₁, -, ho₁, -, hf₁, -⟩ := docString?_eq_some_iff.1 h₁
  obtain ⟨o₂, -, ho₂, -, hf₂, -⟩ := docString?_eq_some_iff.1 h₂
  obtain ⟨-, y₁, hy₁, hc₁⟩ := s₁.scopeOpener o₁ ho₁
  obtain ⟨-, y₂, hy₂, hc₂⟩ := s₂.scopeOpener o₂ ho₂
  rw [ho₁, ho₂, opener_unique hf₁ hf₂ hy₁ hc₁ hy₂ hc₂]

end Layout

open TokenSequence

theorem isDocComment_place (hx : xs[i]? = some x) (hk : x.isKept = true) :
    (ofLexemes xs).isDocComment (place xs i) = true ↔ i ∈ docStrings xs := by
  rw [isDocComment, getElem?_ofLexemes_place hx hk, Option.any_some, beq_iff_eq]
  constructor
  · intro h
    rcases Classical.em (i ∈ docStrings xs) with hd | hd
    · exact hd
    · rw [kind_toToken_of_not_mem hd] at h
      unfold Lexeme.kind at h
      split at h <;> (try split at h) <;> (try split at h) <;> (try split at h) <;> cases h
  · exact kind_toToken_of_mem

/-- The token of a declaration holds the places of the parts of the declaration. -/
theorem exists_token_of_declaration (hk : k ∈ declarations xs) :
    ∃ t, (ofLexemes xs).tokens[place xs k]? = some t ∧
      t.extent = (Layout.ofDeclaration xs k).toExtent xs := by
  obtain ⟨x, hx, hd⟩ := mem_declarations.1 hk
  exact ⟨_, getElem?_ofLexemes_place hx (Lexeme.isKept_of_isDeclaration hd),
    by simp [Lexeme.toToken, hd]⟩

theorem any_startsStatement_place (hx : xs[i]? = some x) (hk : x.isKept = true) :
    (ofLexemes xs).tokens[place xs i]?.any startsStatement =
      (!Layout.isBodySkip x && !x.isOperator ";") := by
  rw [getElem?_ofLexemes_place hx hk, Option.any_some, startsStatement_toToken hx]

/-- Colons start statements, so the search among the tokens stops at each. -/
theorem any_startsStatement_colon (hx : xs[i]? = some x) (hc : x.isOperator ":" = true) :
    (ofLexemes xs).tokens[place xs i]?.any startsStatement = true := by
  rw [any_startsStatement_place hx (Lexeme.isKept_of_isOperator hc),
    Layout.isBodySkip_colon hc]
  simp [Lexeme.isOperator, Lexeme.text_eq hc]

section Scope

variable {o n : Nat} {colon : Lexeme}

/-- What the search among the lexemes finds, the search among the tokens finds. -/
theorem firstIn_place_of_docString (hd : (Layout.ofDeclaration xs k).docString? xs = some d)
    (ho : (Layout.ofDeclaration xs k).scopeOpener = some o) (hcolon : xs[o]? = some colon)
    (hkcolon : colon.isKept = true) :
    firstIn startsStatement (ofLexemes xs).tokens (place xs o + 1)
      (place xs (Layout.scopeEnd xs o) + 1) = some (place xs d) := by
  obtain ⟨o', c', ho', hc', hfirst, hle, ⟨y, hy, hs⟩, -⟩ := Layout.docString?_eq_some_iff.1 hd
  obtain rfl : o = o' := by rwa [ho, Option.some.injEq] at ho'
  obtain rfl : Layout.scopeEnd xs o = c' := by
    rwa [Layout.scopeCloser_ofDeclaration, ho, Option.map_some, Option.some.injEq] at hc'
  obtain ⟨hlt, -, -, hskip⟩ := firstIn_eq_some_iff.1 hfirst
  have hky := Lexeme.isKept_of_string hs
  refine firstIn_eq_some_iff.2 ⟨place_lt_place hcolon hkcolon hlt, ?_, ?_, fun n h1 h2 => ?_⟩
  · have := place_le_place xs hle
    omega
  · rw [any_startsStatement_place hy hky]
    simp [Layout.isBodySkip, Lexeme.isOperator, hs]
  · cases hu : (ofLexemes xs).tokens[n]? with
    | none => rfl
    | some u =>
      rcases exists_lexeme_of_token hu with ⟨rfl, -⟩ | ⟨i, z, hz, hkz, rfl, -⟩
      · omega
      · have hoi := (place_lt_place_iff hcolon hkcolon hz hkz).1 (by omega)
        have hid := (place_lt_place_iff hz hkz hy hky).1 h2
        have := hskip i hoi hid
        rw [hz, Option.any_some] at this
        rw [← hu, any_startsStatement_place hz hkz, this, Bool.false_and]

/-- If the search among the tokens finds a doc comment, the search among the
lexemes finds it. The string may have been marked for another declaration, but
then that declaration has the same colon: whichever of two colons came first,
one of the searches would have stopped at the other. -/
theorem docString_of_firstIn_place (hk : k ∈ declarations xs)
    (ho : (Layout.ofDeclaration xs k).scopeOpener = some o)
    (hn : firstIn startsStatement (ofLexemes xs).tokens (place xs o + 1)
      (place xs (Layout.scopeEnd xs o) + 1) = some n)
    (hdoc : (ofLexemes xs).isDocComment n = true) :
    ∃ d, (Layout.ofDeclaration xs k).docString? xs = some d ∧ place xs d = n := by
  have s := Layout.sound_of_mem hk
  have hc := Layout.scopeCloser_ofDeclaration xs k
  rw [ho, Option.map_some] at hc
  obtain ⟨-, colon, hcolon, hcol⟩ := s.scopeOpener o ho
  have hkcolon := Lexeme.isKept_of_isOperator hcol
  obtain ⟨-, -, -, -, closer, hcloser, hkcloser⟩ := s.scopeCloser_kept hc
  obtain ⟨h1, h2, h3, h4⟩ := firstIn_eq_some_iff.1 hn
  obtain ⟨u, hu, -⟩ := (Option.any_eq_true ..).1 h3
  rcases exists_lexeme_of_token hu with ⟨rfl, -⟩ | ⟨d, y, hy, hky, rfl, -⟩
  · have := place_pos xs o
    omega
  have hod := (place_lt_place_iff hcolon hkcolon hy hky).1 (by omega)
  have hdc : d ≤ Layout.scopeEnd xs o := by
    have := place_lt_place_iff hcloser hkcloser hy hky
    omega
  obtain ⟨g, hg, hgd⟩ := mem_docStrings.1 ((isDocComment_place hy hky).1 hdoc)
  obtain ⟨o', -, ho', -, hfirst, -, halone⟩ := Layout.docString?_eq_some_iff.1 hgd
  obtain ⟨-, colon', hcolon', hcol'⟩ := (Layout.sound_of_mem hg).scopeOpener o' ho'
  obtain ⟨hlt, -, -, hskip⟩ := firstIn_eq_some_iff.1 hfirst
  have hsame : o = o' := by
    rcases Nat.lt_trichotomy o o' with h | h | h
    · have hp := place_lt_place hcolon hkcolon h
      have hp' := place_lt_place hcolon'
        (Lexeme.isKept_of_isOperator hcol') (show o' < d by omega)
      have := h4 (place xs o') (by omega) hp'
      rw [any_startsStatement_colon hcolon' hcol'] at this
      cases this
    · exact h
    · have := hskip o (by omega) hod
      simp [hcolon, Layout.isBodySkip_colon hcol] at this
  subst hsame
  exact ⟨d, Layout.docString?_eq_some_iff.2 ⟨o, _, ho, hc, hfirst, hdc, halone⟩, rfl⟩

/-- Within a scope the two searches find the same. -/
theorem filter_firstIn_place (hk : k ∈ declarations xs)
    (ho : (Layout.ofDeclaration xs k).scopeOpener = some o) :
    (firstIn startsStatement (ofLexemes xs).tokens (place xs o + 1)
        (place xs (Layout.scopeEnd xs o) + 1)).filter (ofLexemes xs).isDocComment =
      ((Layout.ofDeclaration xs k).docString? xs).map (place xs) := by
  have s := Layout.sound_of_mem hk
  obtain ⟨colon, hcolon, hkcolon⟩ := s.scopeOpener_kept ho
  refine Option.ext fun n => ?_
  rw [Option.filter_eq_some_iff, Option.map_eq_some_iff]
  constructor
  · rintro ⟨hn, hdoc⟩
    exact docString_of_firstIn_place hk ho hn hdoc
  · rintro ⟨d, hd, rfl⟩
    obtain ⟨y, hy, hky⟩ := Layout.docString_kept hd
    exact ⟨firstIn_place_of_docString hd ho hcolon hkcolon,
      (isDocComment_place hy hky).2 (mem_docStrings.2 ⟨k, hk, hd⟩)⟩

end Scope

/-- The rule finds the place of the documenting string. -/
theorem docCommentOf_place (hk : k ∈ declarations xs) : (ofLexemes xs).docCommentOf (place xs k) =
    .ok (((Layout.ofDeclaration xs k).docString? xs).map (place xs)) := by
  have s := Layout.sound_of_mem hk
  obtain ⟨t, ht, he⟩ := exists_token_of_declaration hk
  cases ho : (Layout.ofDeclaration xs k).scopeOpener with
  | none =>
    have hnone : t.extent.scopeOpener = none := by rw [he, Layout.toExtent, ho]; rfl
    have hd : (Layout.ofDeclaration xs k).docString? xs = none := by
      simp [Layout.docString?, ho]
    rw [hd]
    simp only [docCommentOf, firstBodyToken, get_natCast ht, hnone,
      bind, Except.bind, pure, Except.pure]
    rfl
  | some o =>
    have hc := Layout.scopeCloser_ofDeclaration xs k
    rw [ho, Option.map_some] at hc
    obtain ⟨colon, hcolon, hkcolon⟩ := s.scopeOpener_kept ho
    obtain ⟨-, -, -, -, closer, hcloser, hkcloser⟩ := s.scopeCloser_kept hc
    rw [docCommentOf_eq ((get?_natCast ..).trans ht) (by rw [he, Layout.toExtent, ho]; rfl)
      ((get?_natCast ..).trans (getElem?_ofLexemes_place hcolon hkcolon)), he]
    simp only [Layout.toExtent, hc, Option.map_some, Int.toNat_natCast_add_one,
      stopAt_of_lt (place_lt_length hcloser hkcloser)]
    rw [filter_firstIn_place hk ho]

/-! ## The complaint that there is none -/

/-- Whether a violation says that a doc comment is lacking, or that something
else stands in its place. -/
def Violation.saysLacking (v : Violation) : Bool :=
  v.code == Check.commentMissing.code || v.code == Check.commentWrongStyle.code

/-- Whether looking for a comment ends with such a complaint. -/
def Opening.saysLacking : Opening → Bool
  | .closed violations => violations.any Violation.saysLacking
  | .opened _ => false

namespace Opening

variable {s : TokenSequence} {n o : Int} {t header : Token} {reader : CommentReader}

theorem code_of_report {check : Check} {args : List String} {line : Option Int} {v : Violation}
    (h : check.report s n args line = .ok v) : v.code = check.code := by
  unfold Check.report Violation.atToken at h
  cases hg : s.get n with
  | error fault => rw [hg] at h; cases h
  | ok token =>
    cases hm : Violation.messageOf check.template args with
    | error fault => rw [hg, hm] at h; cases h
    | ok message =>
      rw [hg, hm] at h
      cases h
      rfl

theorem exists_report (check : Check) (ht : s.get? n = some t) :
    ∃ v, check.report s n = .ok v ∧ v.code = check.code := by
  refine ⟨⟨check.code, check.template, n, t.line, []⟩, ?_, rfl⟩
  simp [Check.report, Violation.atToken, get_eq_ok_iff.2 ht, Violation.messageOf, bind, Except.bind,
    pure, Except.pure]

/-- Without a doc comment there is one complaint, and it says so. -/
theorem ofFunction_of_none (reader : CommentReader) (ht : s.get? n = some t)
    (ho : t.extent.scopeOpener = some o) (hh : s.get? o = some header)
    (hnone : s.docCommentOf n = .ok none) :
    ∃ v, ofFunction reader s n = .ok (.closed [v]) ∧ v.saysLacking = true := by
  have hbody := firstBodyToken_eq ht ho hh
  obtain ⟨missing, hm, hmcode⟩ := exists_report .commentMissing ht
  simp only [docCommentOf, hbody, bind, Except.bind, pure, Except.pure] at hnone
  simp only [ofFunction, get_eq_ok_iff.2 ht, ho, hbody, bind, Except.bind, pure, Except.pure,
    Option.isNone_some, Bool.false_eq_true, if_false]
  cases hb : s.bodyStart header.line (o + 1).toNat
    (s.stopAt (t.extent.scopeCloser.map (· + 1))) with
  | none => exact ⟨missing, by simp only [hm], by simp [Violation.saysLacking, hmcode]⟩
  | some j =>
    obtain ⟨u, hu, -⟩ := bodyStart_mem hb
    obtain ⟨wrong, hw, hwcode⟩ := exists_report .commentWrongStyle
      ((get?_natCast s j).trans hu)
    simp only [hb, get?_natCast, hu, Option.any_some, beq_iff_eq] at hnone ⊢
    have hd : u.kind ≠ .docComment := fun hd => by
      rw [if_pos hd] at hnone
      cases hnone
    rw [if_neg hd]
    by_cases hc : u.kind = .comment
    · exact ⟨wrong, by simp only [hc, hw, if_true], by simp [Violation.saysLacking, hwcode]⟩
    · exact ⟨missing, by simp only [hc, hm, if_false], by simp [Violation.saysLacking, hmcode]⟩

/-- A complaint about something else does not say so. -/
theorem saysLacking_of_report {check : Check} {m : Int} {args : List String} {opening : Opening}
    (h1 : check ≠ .commentMissing) (h2 : check ≠ .commentWrongStyle)
    (h : (check.report s m args).map (fun v => .closed [v]) = .ok opening) :
    opening.saysLacking = false := by
  cases hr : check.report s m args with
  | error fault =>
    rw [hr] at h
    cases h
  | ok v =>
    rw [hr] at h
    cases h
    have hcode := code_of_report hr
    simp only [saysLacking, Violation.saysLacking, List.any_cons, List.any_nil, Bool.or_false,
      Bool.or_eq_false_iff, beq_eq_false_iff_ne, hcode]
    exact ⟨fun e => h1 (Check.code_injective e), fun e => h2 (Check.code_injective e)⟩

/-- With a doc comment there is no such complaint. -/
theorem saysLacking_of_some {j : Nat} {opening : Opening} (hsome : s.docCommentOf n = .ok (some j))
    (h : ofFunction reader s n = .ok opening) : opening.saysLacking = false := by
  have hbody := firstBodyToken_of_docCommentOf hsome
  unfold ofFunction at h
  cases hg : s.get n with
  | error fault =>
    rw [hg] at h
    cases h
  | ok function =>
    simp only [hg, hbody.1, hbody.2, bind, Except.bind, pure, Except.pure, if_true] at h
    split at h
    · cases h
      rfl
    · cases hread : Subject.read reader s n j with
      | ok subject =>
        simp only [hread] at h
        split at h
        · cases h
          rfl
        · exact saysLacking_of_report (by decide) (by decide) h
      | error fault =>
        cases fault with
        | unreadable reason =>
          simp only [hread] at h
          exact saysLacking_of_report (by decide) (by decide) h
        | _ =>
          rw [hread] at h
          cases h

end Opening

/-! ## The whole file -/

/-- A function with a scope is told that its comment is lacking just if no
string was marked for it. -/
theorem reports_iff (hk : k ∈ declarations xs)
    (ho : (Layout.ofDeclaration xs k).scopeOpener.isSome = true) (reader : CommentReader) :
    (∃ opening, Opening.ofFunction reader (ofLexemes xs) (place xs k) = .ok opening ∧
      opening.saysLacking = true) ↔ (Layout.ofDeclaration xs k).docString? xs = none := by
  obtain ⟨o, ho⟩ := Option.isSome_iff_exists.1 ho
  obtain ⟨t, ht, he⟩ := exists_token_of_declaration hk
  obtain ⟨colon, hcolon, hkcolon⟩ := (Layout.sound_of_mem hk).scopeOpener_kept ho
  have hdoc := docCommentOf_place hk
  cases hd : (Layout.ofDeclaration xs k).docString? xs with
  | none =>
    rw [hd] at hdoc
    obtain ⟨v, hv, hlack⟩ := Opening.ofFunction_of_none reader
      ((get?_natCast ..).trans ht) (by rw [he, Layout.toExtent, ho]; rfl)
      ((get?_natCast ..).trans (getElem?_ofLexemes_place hcolon hkcolon)) hdoc
    exact ⟨fun _ => rfl, fun _ => ⟨_, hv, by simp [Opening.saysLacking, hlack]⟩⟩
  | some d =>
    rw [hd] at hdoc
    constructor
    · rintro ⟨opening, hop, hlack⟩
      rw [Opening.saysLacking_of_some hdoc hop] at hlack
      cases hlack
    · intro h
      cases h

/-- What the rule finds for a declaration, by the position of the string. -/
theorem docCommentOf_eq_place_iff (hk : k ∈ declarations xs) (hx : xs[i]? = some x)
    (hkept : x.isKept = true) :
    (ofLexemes xs).docCommentOf (place xs k) = .ok (some (place xs i)) ↔
      (Layout.ofDeclaration xs k).docString? xs = some i := by
  rw [docCommentOf_place hk, Except.ok.injEq, Option.map_eq_some_iff]
  constructor
  · rintro ⟨d, hd, hp⟩
    obtain ⟨y, hy, hky⟩ := Layout.docString_kept hd
    rw [hd, place_injective hy hky hx hkept hp]
  · exact fun h => ⟨i, h, rfl⟩

/-- A token that the rule finds for a declaration is the token of a kept lexeme. -/
theorem exists_lexeme_of_docCommentOf {n : Nat} (hk : k ∈ declarations xs)
    (h : (ofLexemes xs).docCommentOf (place xs k) = .ok (some n)) :
    ∃ i x, xs[i]? = some x ∧ x.isKept = true ∧ place xs i = n := by
  rw [docCommentOf_place hk, Except.ok.injEq, Option.map_eq_some_iff] at h
  obtain ⟨d, hd, rfl⟩ := h
  obtain ⟨y, hy, hky⟩ := Layout.docString_kept hd
  exact ⟨d, y, hy, hky, rfl⟩

theorem docComment_iff {n : Nat} {t : Token} (ht : (ofLexemes xs).tokens[n]? = some t) :
    t.kind = .docComment ↔
      ∃ k ∈ declarations xs, (ofLexemes xs).docCommentOf (place xs k) = .ok (some n) := by
  rcases exists_lexeme_of_token ht with ⟨rfl, rfl⟩ | ⟨i, x, hx, hkept, rfl, rfl⟩
  · refine ⟨nofun, fun ⟨k, hk, hfound⟩ => ?_⟩
    obtain ⟨i, -, -, -, hp⟩ := exists_lexeme_of_docCommentOf hk hfound
    have := place_pos xs i
    omega
  · have hmark := isDocComment_place hx hkept
    rw [isDocComment, getElem?_ofLexemes_place hx hkept, Option.any_some, beq_iff_eq] at hmark
    rw [hmark, mem_docStrings]
    refine exists_congr fun k => and_congr_right fun hk => ?_
    exact (docCommentOf_eq_place_iff hk hx hkept).symm

/-- Declarations with the same doc comment have the same colon. -/
theorem scopeOpener_eq_of_docCommentOf {k₁ k₂ n : Nat} {t u : Token}
    (hk₁ : k₁ ∈ declarations xs) (hk₂ : k₂ ∈ declarations xs)
    (ht : (ofLexemes xs).tokens[place xs k₁]? = some t)
    (hu : (ofLexemes xs).tokens[place xs k₂]? = some u)
    (h₁ : (ofLexemes xs).docCommentOf (place xs k₁) = .ok (some n))
    (h₂ : (ofLexemes xs).docCommentOf (place xs k₂) = .ok (some n)) :
    t.extent.scopeOpener = u.extent.scopeOpener := by
  obtain ⟨i, x, hx, hkept, rfl⟩ := exists_lexeme_of_docCommentOf hk₁ h₁
  obtain ⟨t', ht', he₁⟩ := exists_token_of_declaration hk₁
  obtain ⟨u', hu', he₂⟩ := exists_token_of_declaration hk₂
  obtain rfl : t = t' := by rwa [ht, Option.some.injEq] at ht'
  obtain rfl : u = u' := by rwa [hu, Option.some.injEq] at hu'
  have hsame := (Layout.sound_of_mem hk₁).opener_eq (Layout.sound_of_mem hk₂)
    ((docCommentOf_eq_place_iff hk₁ hx hkept).1 h₁) ((docCommentOf_eq_place_iff hk₂ hx hkept).1 h₂)
  rw [he₁, he₂, Layout.toExtent, Layout.toExtent, hsame]

/-- The tokens of declarations are those of the keywords, and for each of them
the rule's search finds the place of the string that was marked for it. So the
doc comments of a file are those that the rule finds, declarations with the same
doc comment have the same colon, and a declaration with a scope is told that its
comment is lacking just if no string was marked for it. -/
theorem docComments_agree (xs : List Lexeme) :
    (∀ (n : Nat) (t : Token), (ofLexemes xs).tokens[n]? = some t →
      (t.isDeclaration = true ↔ ∃ k ∈ declarations xs, place xs k = n)) ∧
    (∀ k ∈ declarations xs, (ofLexemes xs).docCommentOf (place xs k) =
      .ok (((Layout.ofDeclaration xs k).docString? xs).map (place xs))) ∧
    (∀ (n : Nat) (t : Token), (ofLexemes xs).tokens[n]? = some t → (t.kind = .docComment ↔
      ∃ (i : Nat) (u : Token), (ofLexemes xs).tokens[i]? = some u ∧ u.isDeclaration = true ∧
        (ofLexemes xs).docCommentOf i = .ok (some n))) ∧
    (∀ (n i j : Nat) (t u : Token), (ofLexemes xs).tokens[i]? = some t → t.isDeclaration = true →
      (ofLexemes xs).tokens[j]? = some u → u.isDeclaration = true →
      (ofLexemes xs).docCommentOf i = .ok (some n) →
      (ofLexemes xs).docCommentOf j = .ok (some n) →
      t.extent.scopeOpener = u.extent.scopeOpener) ∧
    ∀ k ∈ declarations xs, ∀ t, (ofLexemes xs).tokens[place xs k]? = some t →
      t.extent.scopeOpener.isSome = true → ∀ reader : CommentReader,
        (∃ opening, Opening.ofFunction reader (ofLexemes xs) (place xs k) = .ok opening ∧
          opening.saysLacking = true) ↔ (Layout.ofDeclaration xs k).docString? xs = none := by
  refine ⟨fun n t ht => isDeclaration_iff ht, fun k hk => docCommentOf_place hk,
    fun n t ht => ?_, fun n i j t u ht htd hu hud hi hj => ?_, fun k hk t ht ho reader => ?_⟩
  · rw [docComment_iff ht]
    constructor
    · rintro ⟨k, hk, hfound⟩
      obtain ⟨u, hu, -⟩ := exists_token_of_declaration hk
      exact ⟨place xs k, u, hu, (isDeclaration_iff hu).2 ⟨k, hk, rfl⟩, hfound⟩
    · rintro ⟨i, u, hu, hud, hfound⟩
      obtain ⟨k, hk, rfl⟩ := (isDeclaration_iff hu).1 hud
      exact ⟨k, hk, hfound⟩
  · obtain ⟨k₁, hk₁, rfl⟩ := (isDeclaration_iff ht).1 htd
    obtain ⟨k₂, hk₂, rfl⟩ := (isDeclaration_iff hu).1 hud
    exact scopeOpener_eq_of_docCommentOf hk₁ hk₂ ht hu hi hj
  · obtain ⟨u, hu, he⟩ := exists_token_of_declaration hk
    obtain rfl : t = u := by rwa [ht, Option.some.injEq] at hu
    refine reports_iff hk ?_ reader
    rwa [he, Layout.toExtent, Option.isSome_map] at ho

/-- In the small file the rule finds the string that was marked. -/
theorem smallFile_docComments : (ofLexemes smallFile).docCommentOf 1 = .ok (some 8) ∧
    ∃ (i : Nat) (u : Token), (ofLexemes smallFile).tokens[i]? = some u ∧ u.isDeclaration = true ∧
      (ofLexemes smallFile).docCommentOf i = .ok (some 8) := by
  obtain ⟨-, h2, h3, -⟩ := docComments_agree smallFile
  have ht : (ofLexemes smallFile).tokens[8]? = some ⟨.docComment, "'d'", 2, 2, {}⟩ := by decide
  refine ⟨?_, (h3 8 _ ht).1 rfl⟩
  exact (h2 1 (by decide)).trans (by decide)

end DocLint
