import DocLint.Proofs.Lexeme.Padding
import DocLint.Proofs.Token.Copy

/-!
# Blank lines and comments above a doc comment, in the token sequence

The tokens up to the colon stay where they are, those from the doc comment on
move down together, and between the two there is nothing that anybody looks for.
So the function keeps its name, its parameters and its returns, and its doc
comment is found further down.

Results:
* `DocPadding.sameHead`, `DocPadding.any_tail`: the tokens that stay, and those
  that move down.
* `kind_between`: what stands between the colon and the doc comment.
* `DocPadding.docComment_padded`: where the doc comment is.
* `DocPadding.parameterNames_padded`, `DocPadding.declaredName_padded`,
  `DocPadding.returnsValue_padded`: what is read off the function.
-/
namespace DocLint

open TokenSequence

theorem length_ofLexemes {xs : List Lexeme} (h : xs.any Lexeme.isKept = true) :
    (ofLexemes xs).length = place xs xs.length := by
  have hcount := countP_take_zipIdx Lexeme.isKept xs xs.length
  rw [List.take_of_length_le (by simp)] at hcount
  rw [TokenSequence.length, tokens_ofLexemes h, place, ← hcount, List.length_cons, List.length_map,
    List.countP_eq_length_filter]

/-- The classes of the tokens from a colon to the first statement of its scope. -/
def beforeBody : List TokenKind := .operator :: betweenStatements

theorem isName_of_beforeBody {t : Token} (h : t.kind ∈ beforeBody) : isName t = false := by
  simp only [beforeBody, betweenStatements, List.mem_cons, List.not_mem_nil, or_false] at h
  rcases h with h | h | h | h <;> simp [isName, KindTest.accepts, h]

/-- Nobody looks for what stands between a colon and the first statement. -/
theorem kind_between {xs : List Lexeme} {o d n : Nat} {colon : Lexeme} {t : Token}
    (hcolon : xs[o]? = some colon) (hc : colon.isOperator ":" = true)
    (hskip : ∀ i x, o < i → i < d → xs[i]? = some x → Layout.isBodySkip x = true)
    (ht : (ofLexemes xs).tokens[n]? = some t) (h1 : place xs o ≤ n) (h2 : n < place xs d) :
    t.kind ∈ beforeBody := by
  rcases exists_lexeme_of_token ht with ⟨rfl, -⟩ | ⟨i, x, hx, hk, rfl, rfl⟩
  · have := place_pos xs o
    omega
  have hkcolon := Lexeme.isKept_of_isOperator hc
  have hoi : o ≤ i := by
    have := place_lt_place_iff hx hk hcolon hkcolon
    omega
  have hid : i < d := by
    by_contra hle
    have := place_le_place xs (Nat.le_of_not_lt hle)
    omega
  rcases Nat.lt_or_eq_of_le hoi with hlt | rfl
  · have hquiet := startsStatement_toToken hx
    rw [hskip i x hlt hid hx, Bool.not_true, Bool.false_and] at hquiet
    simp only [startsStatement, KindTest.accepts, betweenStatements, Bool.not_eq_false',
      List.contains_eq_mem, decide_eq_true_eq] at hquiet
    exact List.mem_cons_of_mem _ hquiet
  · obtain rfl : x = colon := by rwa [hx, Option.some.injEq] at hcolon
    have hrender := renders_toToken hx
    have hop := hrender.isOperator (show ":" ≠ ";" by decide)
    rw [hc, Token.isOperator, Bool.and_eq_true, beq_iff_eq] at hop
    rw [hop.1]
    exact List.mem_cons_self

theorem any_isName_of_beforeBody {s : TokenSequence} {n : Nat}
    (h : ∀ t, s.tokens[n]? = some t → t.kind ∈ beforeBody) :
    s.tokens[n]?.any isName = false := by
  cases ht : s.tokens[n]? with
  | none => rfl
  | some t => exact isName_of_beforeBody (h t ht)

/-! ## Places -/

namespace Padding

variable (p : Padding)

theorem place_front {i : Nat} (hi : i ≤ p.front.length) : place p.padded i = place p.plain i := by
  rw [plain, padded, place_append_left _ _ hi, place_append_left _ _ hi]

/-- The places below the gap move down by as much as the lexemes do. -/
theorem place_back {i : Nat} (hi : p.doc ≤ i) :
    place p.padded (p.count + i) = p.count + place p.plain i := by
  have hlen := p.pads.length_eq
  have hkept := p.pads.countP_isKept
  obtain ⟨j, rfl⟩ := Nat.exists_eq_add_of_le hi
  have hplain := place_append_right (p.front ++ p.gap) (p.string :: p.rest) j
  have hpadded := place_append_right (p.front ++ p.gap') (p.string :: p.rest) j
  rw [List.append_assoc, List.length_append, List.countP_append] at hplain hpadded
  rw [plain, padded, doc, hplain, show p.count + (p.front.length + p.gap.length + j) =
    p.front.length + p.gap'.length + j by omega, hpadded]
  omega

end Padding

namespace DocPadding

variable (p : DocPadding)

theorem exists_colon : ∃ x, p.plain[p.opener]? = some x ∧ p.padded[p.opener]? = some x ∧
    x.isOperator ":" = true := by
  obtain ⟨-, x, hx, hc⟩ := p.sound.scopeOpener p.opener p.opener_eq
  exact ⟨x, hx, (p.getElem?_front p.opener_lt).trans hx, hc⟩

theorem opener_lt_doc : p.opener < p.doc := Nat.lt_add_right _ p.opener_lt

theorem any_isKept_plain : p.plain.any Lexeme.isKept = true :=
  any_isKept p.getElem?_doc (Lexeme.isKept_of_string p.string_type)

theorem any_isKept_padded : p.padded.any Lexeme.isKept = true :=
  any_isKept ((p.getElem?_back (Nat.le_refl _)).trans p.getElem?_doc)
    (Lexeme.isKept_of_string p.string_type)

theorem length_tokens : (ofLexemes p.padded).length = p.count + (ofLexemes p.plain).length := by
  have hdoc := (List.getElem?_eq_some_iff.1 p.getElem?_doc).1
  rw [length_ofLexemes p.any_isKept_plain, length_ofLexemes p.any_isKept_padded, p.length_padded,
    p.place_back (by omega)]

/-! ## The tokens that stay and those that move down -/

theorem sameHead :
    SameStretch (ofLexemes p.plain) (ofLexemes p.padded) 0 1 (place p.plain p.opener) := by
  obtain ⟨colon, hcolon, -, hc⟩ := p.exists_colon
  have hkcolon := Lexeme.isKept_of_isOperator hc
  refine .of_lexemes (Nat.le_refl 1) (place_lt_length hcolon hkcolon) fun i x hx hk _ hle => ?_
  have hlt : i < p.front.length := by
    have h1 := place_lt_place_iff hcolon hkcolon hx hk
    have h2 := p.opener_lt
    omega
  refine ⟨i, (p.getElem?_front hlt).trans hx, ?_⟩
  rw [Nat.zero_add, p.place_front (Nat.le_of_lt hlt)]

theorem sameTail : SameStretch (ofLexemes p.plain) (ofLexemes p.padded) p.count
    (place p.plain p.doc) ((ofLexemes p.plain).length - 1) := by
  have hkdoc := Lexeme.isKept_of_string p.string_type
  have hlt := place_lt_length p.getElem?_doc hkdoc
  refine .of_lexemes (place_pos _ _) (by omega) fun i x hx hk hge _ => ?_
  have hi : p.doc ≤ i := by
    have := place_lt_place_iff hx hk p.getElem?_doc hkdoc
    omega
  exact ⟨p.count + i, (p.getElem?_back hi).trans hx, p.place_back hi⟩

/-- From the doc comment on the two sequences have the same tokens, and so they end
alike. -/
theorem any_tail {q : Token → Bool} (hq : IgnoresMarks q) {j : Nat} (hj : place p.plain p.doc ≤ j) :
    (ofLexemes p.padded).tokens[p.count + j]?.any q = (ofLexemes p.plain).tokens[j]?.any q := by
  by_cases hlt : j < (ofLexemes p.plain).length
  · exact p.sameTail.any_eq hq hj (by omega)
  · have hlen := p.length_tokens
    have hnone : (ofLexemes p.plain).tokens[j]? = none := List.getElem?_eq_none_iff.2 (by
      change (ofLexemes p.plain).length ≤ j
      omega)
    have hnone' : (ofLexemes p.padded).tokens[p.count + j]? = none :=
      List.getElem?_eq_none_iff.2 (by
        change (ofLexemes p.padded).length ≤ p.count + j
        omega)
    rw [hnone, hnone']

theorem firstIn_tail {q : Token → Bool} (hq : IgnoresMarks q) {j : Nat}
    (hj : place p.plain p.doc ≤ j) :
    firstIn q (ofLexemes p.padded).tokens (p.count + j) (ofLexemes p.padded).length =
      (firstIn q (ofLexemes p.plain).tokens j (ofLexemes p.plain).length).map (p.count + ·) := by
  rw [p.length_tokens]
  exact firstIn_shift p.count fun i hi _ => p.any_tail hq (by omega)

/-- What stands between the colon and the doc comment, in both sequences. -/
theorem kind_between_plain {n : Nat} {t : Token} (ht : (ofLexemes p.plain).tokens[n]? = some t)
    (h1 : place p.plain p.opener ≤ n) (h2 : n < place p.plain p.doc) :
    t.kind ∈ beforeBody := by
  obtain ⟨colon, hcolon, -, hc⟩ := p.exists_colon
  exact kind_between hcolon hc (fun i x hi hid hx => p.isBodySkip_plain hi hid hx) ht h1 h2

theorem kind_between_padded {n : Nat} {t : Token} (ht : (ofLexemes p.padded).tokens[n]? = some t)
    (h1 : place p.plain p.opener ≤ n) (h2 : n < p.count + place p.plain p.doc) :
    t.kind ∈ beforeBody := by
  obtain ⟨colon, -, hcolon, hc⟩ := p.exists_colon
  rw [← p.place_front (Nat.le_of_lt p.opener_lt)] at h1
  rw [← p.place_back (Nat.le_refl _)] at h2
  exact kind_between hcolon hc (fun i x hi hid hx => p.isBodySkip_padded hi hid hx) ht h1 h2

/-! ## The function -/

theorem keyword_lt : p.keyword < p.opener := (p.sound.scopeOpener p.opener p.opener_eq).1

theorem place_keyword : place p.padded p.keyword = place p.plain p.keyword := by
  have h1 := p.keyword_lt
  have h2 := p.opener_lt
  exact p.place_front (by omega)

theorem declares_padded : p.keyword ∈ declarations p.padded := by
  obtain ⟨x, hx, hd⟩ := mem_declarations.1 p.declares
  have h1 := p.keyword_lt
  have h2 := p.opener_lt
  exact mem_declarations.2 ⟨x, (p.getElem?_front (by omega)).trans hx, hd⟩

/-- The keyword, the colon and the doc comment, in this order. -/
theorem place_order : place p.plain p.keyword < place p.plain p.opener ∧
    place p.plain p.opener < place p.plain p.doc ∧
    place p.plain p.doc < (ofLexemes p.plain).length := by
  obtain ⟨x, hx, hd⟩ := mem_declarations.1 p.declares
  obtain ⟨colon, hcolon, -, hc⟩ := p.exists_colon
  have hkcolon := Lexeme.isKept_of_isOperator hc
  exact ⟨place_lt_place hx (Lexeme.isKept_of_isDeclaration hd) p.keyword_lt,
    place_lt_place hcolon hkcolon p.opener_lt_doc,
    place_lt_length p.getElem?_doc (Lexeme.isKept_of_string p.string_type)⟩

/-- The place of the end of the scope in the file as it was. -/
def closer : Nat := place p.plain (Layout.scopeEnd p.plain p.opener)

/-- Of the positions that the function's token holds, only the end of the scope
moves. -/
theorem exists_function : ∃ t t', (ofLexemes p.plain).tokens[place p.plain p.keyword]? = some t ∧
    (ofLexemes p.padded).tokens[place p.plain p.keyword]? = some t' ∧
    t.extent = (Layout.ofDeclaration p.plain p.keyword).toExtent p.plain ∧
    t'.extent = { t.extent with scopeCloser := some ((p.count + p.closer : Nat) : Int) } := by
  have hopener := p.opener_lt
  obtain ⟨t, ht, he⟩ := exists_token_of_declaration p.declares
  obtain ⟨t', ht', he'⟩ := exists_token_of_declaration p.declares_padded
  rw [p.place_keyword] at ht'
  refine ⟨t, t', ht, ht', he, ?_⟩
  have hhead : ∀ part : Option Nat, (∀ i, part = some i → i ≤ p.opener) →
      part.map (fun i => (place p.padded i : Int)) = part.map fun i => (place p.plain i : Int) := by
    intro part hpart
    cases part with
    | none => rfl
    | some i =>
      have := hpart i rfl
      rw [Option.map_some, Option.map_some, p.place_front (by omega)]
  have hparen := hhead (Layout.ofDeclaration p.plain p.keyword).parenOpener fun a ha =>
    Nat.le_of_lt ((p.sound.parenOpener a ha).2.2 p.opener p.opener_eq)
  have hcloser := hhead (Layout.ofDeclaration p.plain p.keyword).parenCloser fun b hb => by
    obtain ⟨-, -, -, -, -, -, -, -, hbo⟩ := p.sound.parenCloser b hb
    exact Nat.le_of_lt (hbo p.opener p.opener_eq)
  have hscope := hhead (Layout.ofDeclaration p.plain p.keyword).scopeOpener fun o ho => by
    rw [show (Layout.ofDeclaration p.plain p.keyword).scopeOpener = some p.opener from p.opener_eq,
      Option.some.injEq] at ho
    omega
  rw [he', he, p.ofDeclaration_padded]
  simp only [Layout.toExtent, hparen, hcloser, hscope, Option.map_some, closer,
    p.place_back p.isFirstStatement.2.1]

theorem docComment_padded :
    (ofLexemes p.plain).docCommentOf (place p.plain p.keyword) = .ok (some (place p.plain p.doc)) ∧
    (ofLexemes p.padded).docCommentOf (place p.plain p.keyword) =
      .ok (some (p.count + place p.plain p.doc)) := by
  constructor
  · have h := docCommentOf_place p.declares
    rw [p.documents] at h
    exact h
  · have h := docCommentOf_place p.declares_padded
    rw [p.docString?_padded, p.place_keyword, Option.map_some, p.place_back (Nat.le_refl _)] at h
    exact h

theorem parameterNames_padded : (ofLexemes p.padded).parameterNames (place p.plain p.keyword) =
    (ofLexemes p.plain).parameterNames (place p.plain p.keyword) := by
  obtain ⟨t, t', ht, ht', he, he'⟩ := p.exists_function
  have hkeep : t'.extent.parenOpener = t.extent.parenOpener ∧
      t'.extent.parenCloser = t.extent.parenCloser := by rw [he']; exact ⟨rfl, rfl⟩
  cases hb : (Layout.ofDeclaration p.plain p.keyword).parenCloser with
  | none =>
    have hb' : t.extent.parenCloser = none := by rw [he, Layout.toExtent, hb]; rfl
    rw [parameterNames_of_unclosed ht hb', parameterNames_of_unclosed ht' (hkeep.2.trans hb')]
  | some b =>
    obtain ⟨a, x, ha, hab, hx, hcl, -, -, hbo⟩ := p.sound.parenCloser b hb
    obtain ⟨y, hy, hky⟩ := p.sound.parenOpener_kept ha
    have hkx := Lexeme.isKept_of_closesBracket hcl
    have h1 := place_lt_place hy hky hab
    have h2 := place_lt_place hx hkx (hbo p.opener p.opener_eq)
    have ha' : t.extent.parenOpener = some (place p.plain a : Int) := by
      rw [he, Layout.toExtent, ha]
      rfl
    have hb' : t.extent.parenCloser = some (place p.plain b : Int) := by
      rw [he, Layout.toExtent, hb]
      rfl
    have hpos := place_pos p.plain a
    have hsame := p.sameHead.parameterNames_eq (a := place p.plain a) (b := place p.plain b) ht
      (by rwa [Nat.zero_add]) ha' hb' (by rw [hkeep.1, ha', Nat.zero_add])
      (by rw [hkeep.2, hb', Nat.zero_add]) hpos (by omega) (by omega)
    rwa [Nat.zero_add] at hsame

/-- Without parentheses the name is looked for in all that follows the keyword.
Between the colon and the doc comment there are no names. -/
theorem declaredName_padded_of_free {t t' : Token}
    (ht : (ofLexemes p.plain).tokens[place p.plain p.keyword]? = some t)
    (ht' : (ofLexemes p.padded).tokens[place p.plain p.keyword]? = some t')
    (hfree : t.extent.parenOpener = none) (hfree' : t'.extent.parenOpener = none) :
    (ofLexemes p.padded).declaredName (place p.plain p.keyword) =
      (ofLexemes p.plain).declaredName (place p.plain p.keyword) := by
  obtain ⟨h1, h2, h3⟩ := p.place_order
  have hlen := p.length_tokens
  rw [declaredName_of_free ht hfree, declaredName_of_free ht' hfree']
  have hhead := p.sameHead.firstIn_eq isName_ignoresMarks
    (show 1 ≤ place p.plain p.keyword + 1 by omega) (Nat.le_refl (place p.plain p.opener + 1))
  rw [Nat.zero_add, Nat.zero_add] at hhead
  cases hk : firstIn isName (ofLexemes p.plain).tokens (place p.plain p.keyword + 1)
      (place p.plain p.opener + 1) with
  | some k =>
    -- The name stands before the colon.
    rw [hk, Option.map_some, Nat.zero_add] at hhead
    obtain ⟨hk1, hk2, -, -⟩ := firstIn_eq_some_iff.1 hk
    obtain ⟨u, u', hu, hu', halike⟩ := p.sameHead k (by omega) (by omega)
    rw [Nat.zero_add] at hu'
    rw [firstIn_extend hk (by omega), firstIn_extend hhead (by omega)]
    simp only [get_natCast hu, get_natCast hu', Except.map, halike.text]
  | none =>
    -- Both searches come past the doc comment, and go on from there alike.
    rw [hk, Option.map_none] at hhead
    have hskip : firstIn isName (ofLexemes p.plain).tokens (place p.plain p.keyword + 1)
        (ofLexemes p.plain).length = firstIn isName (ofLexemes p.plain).tokens
          (place p.plain p.doc) (ofLexemes p.plain).length := by
      apply firstIn_skip (by omega)
      intro j hj1 hj2
      by_cases hj : j < place p.plain p.opener + 1
      · exact firstIn_eq_none_iff.1 hk j hj1 hj
      · exact any_isName_of_beforeBody fun u hu => p.kind_between_plain hu (by omega) hj2
    have hskip' : firstIn isName (ofLexemes p.padded).tokens (place p.plain p.keyword + 1)
        (ofLexemes p.padded).length = firstIn isName (ofLexemes p.padded).tokens
          (p.count + place p.plain p.doc) (ofLexemes p.padded).length := by
      apply firstIn_skip (by omega)
      intro j hj1 hj2
      by_cases hj : j < place p.plain p.opener + 1
      · exact firstIn_eq_none_iff.1 hhead j hj1 hj
      · exact any_isName_of_beforeBody fun u hu => p.kind_between_padded hu (by omega) hj2
    rw [hskip, hskip', p.firstIn_tail isName_ignoresMarks (Nat.le_refl _)]
    cases hj : firstIn isName (ofLexemes p.plain).tokens (place p.plain p.doc)
        (ofLexemes p.plain).length with
    | none => rfl
    | some j =>
      obtain ⟨hj1, hj2, -, -⟩ := firstIn_eq_some_iff.1 hj
      obtain ⟨u, u', hu, hu', halike⟩ := p.sameTail j hj1 (by omega)
      simp only [Option.map_some, get_natCast hu, get_natCast hu', Except.map, halike.text]

theorem declaredName_padded : (ofLexemes p.padded).declaredName (place p.plain p.keyword) =
    (ofLexemes p.plain).declaredName (place p.plain p.keyword) := by
  obtain ⟨t, t', ht, ht', he, he'⟩ := p.exists_function
  obtain ⟨x, hx, hd⟩ := mem_declarations.1 p.declares
  have hkeep : t'.extent.parenOpener = t.extent.parenOpener := by rw [he']
  cases ha : (Layout.ofDeclaration p.plain p.keyword).parenOpener with
  | some a =>
    obtain ⟨hka, -, hao⟩ := p.sound.parenOpener a ha
    obtain ⟨y, hy, hky⟩ := p.sound.parenOpener_kept ha
    have h1 := place_lt_place hx (Lexeme.isKept_of_isDeclaration hd) hka
    have h2 := place_lt_place hy hky (hao p.opener p.opener_eq)
    have ha' : t.extent.parenOpener = some (place p.plain a : Int) := by
      rw [he, Layout.toExtent, ha]
      rfl
    have hsame := p.sameHead.declaredName_eq (a := place p.plain a) ht (by rwa [Nat.zero_add]) ha'
      (by rw [hkeep, ha', Nat.zero_add]) (place_pos p.plain p.keyword) h1 (by omega)
    rwa [Nat.zero_add] at hsame
  | none =>
    have ha' : t.extent.parenOpener = none := by rw [he, Layout.toExtent, ha]; rfl
    exact p.declaredName_padded_of_free ht ht' ha' (hkeep.trans ha')

/-! ## Returns -/

theorem givesValue_padded {i : Nat} (hi : place p.plain p.doc ≤ i) :
    (ofLexemes p.padded).givesValue ((p.count + i : Nat) : Int) =
      (ofLexemes p.plain).givesValue i := by
  rw [givesValue_eq, givesValue_eq, Nat.add_assoc,
    p.firstIn_tail isSignificant_ignoresMarks (show place p.plain p.doc ≤ i + 1 by omega)]
  cases hk : firstIn isSignificant (ofLexemes p.plain).tokens (i + 1)
      (ofLexemes p.plain).length with
  | none => rfl
  | some k =>
    obtain ⟨hk1, -⟩ := firstIn_eq_some_iff.1 hk
    rw [Option.map_some, Option.any_some, Option.any_some]
    exact p.any_tail isValue_ignoresMarks (by omega)

theorem returnsValue_padded :
    (ofLexemes p.padded).returnsValue (place p.plain p.opener) ((p.count + p.closer : Nat) : Int) =
      (ofLexemes p.plain).returnsValue (place p.plain p.opener) (p.closer : Int) := by
  have hquiet : ∀ t : Token, t.kind ∈ beforeBody → t.kind ≠ .returnKeyword := by
    intro t hmem h
    rw [h] at hmem
    exact absurd hmem (by decide)
  rw [Bool.eq_iff_iff, returnsValue_iff, returnsValue_iff]
  constructor
  · rintro ⟨i, h1, h2, hr, hv⟩
    have hdoc : p.count + place p.plain p.doc ≤ i := by
      by_contra hlt
      obtain ⟨t, ht, hkind⟩ := (Option.any_eq_true ..).1 hr
      exact hquiet t (p.kind_between_padded ht (by omega) (by omega)) (beq_iff_eq.1 hkind)
    obtain ⟨j, rfl⟩ := Nat.exists_eq_add_of_le (show p.count ≤ i by omega)
    rw [p.any_tail isReturn_ignoresMarks (by omega)] at hr
    rw [p.givesValue_padded (by omega)] at hv
    have h3 := place_le_place p.plain (Nat.le_of_lt p.opener_lt_doc)
    exact ⟨j, by omega, by omega, hr, hv⟩
  · rintro ⟨i, h1, h2, hr, hv⟩
    have hdoc : place p.plain p.doc ≤ i := by
      by_contra hlt
      obtain ⟨t, ht, hkind⟩ := (Option.any_eq_true ..).1 hr
      exact hquiet t (p.kind_between_plain ht (by omega) (by omega)) (beq_iff_eq.1 hkind)
    refine ⟨p.count + i, by omega, by omega, ?_, ?_⟩
    · rw [p.any_tail isReturn_ignoresMarks hdoc]
      exact hr
    · rw [p.givesValue_padded hdoc]
      exact hv

end DocPadding

end DocLint
