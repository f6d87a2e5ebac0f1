import DocLint.Proofs.Token.Copy

/-!
# How the machine for parameter names reads

White space and comments do not move the machine, and of a token only its class
and its text count. Within two brackets or more the machine counts brackets and
does nothing else, so a bracketed part that starts at depth one or more changes
nothing.

Results:
* `run_filter`, `run_map_bare`: what does not matter.
* `depth_run`: the machine counts brackets.
* `run_deep`, `run_brackets`: what stands in inner brackets.
* `TokenSequence.parameterNames_eq_run`: the names are read from the tokens between the
  parentheses.
-/
namespace DocLint

/-! ## Tokens -/

/-- The token with its class and its text only. -/
def Token.bare (t : Token) : Token := { kind := t.kind, text := t.text, line := 0 }

theorem Token.kind_of_isOperator {t : Token} {text : String} (h : t.isOperator text = true) :
    t.kind = .operator := by
  simp only [Token.isOperator, Bool.and_eq_true, beq_iff_eq] at h
  exact h.1

theorem Token.kind_of_opensBracket {t : Token} (h : t.opensBracket = true) :
    t.kind = .operator := by
  simp only [Token.opensBracket, Bool.or_eq_true] at h
  rcases h with (h | h) | h <;> exact Token.kind_of_isOperator h

theorem Token.kind_of_closesBracket {t : Token} (h : t.closesBracket = true) :
    t.kind = .operator := by
  simp only [Token.closesBracket, Bool.or_eq_true] at h
  rcases h with (h | h) | h <;> exact Token.kind_of_isOperator h

theorem Token.not_opens_of_closes {t : Token} (h : t.closesBracket = true) :
    t.opensBracket = false := by
  simp only [Token.closesBracket, Token.isOperator, Bool.or_eq_true, Bool.and_eq_true,
    beq_iff_eq] at h
  rcases h with (h | h) | h <;> simp [Token.opensBracket, Token.isOperator, h.2]

/-- Whether the brackets of some tokens are balanced: each that is closed has been
opened, and each that is opened is closed. -/
def IsBalanced (tokens : List Token) : Prop :=
  depthBy Token.bracketStep tokens = 0 ∧ ∀ k, 0 ≤ depthBy Token.bracketStep (tokens.take k)

/-- Past the end of a list no further prefixes have to be looked at. -/
instance : DecidablePred IsBalanced := fun tokens =>
  decidable_of_iff (depthBy Token.bracketStep tokens = 0 ∧
    ∀ k, k ≤ tokens.length → 0 ≤ depthBy Token.bracketStep (tokens.take k)) <| by
  refine and_congr_right fun hzero => ⟨fun h k => ?_, fun h k _ => h k⟩
  rcases Nat.le_total k tokens.length with hk | hk
  · exact h k hk
  · rw [List.take_of_length_le hk]
    exact Int.le_of_eq hzero.symm

namespace ParameterScan

open TokenSequence (isSignificant)

variable {s : ParameterScan} {t : Token}

/-! ## Runs -/

@[simp] theorem run_nil (s : ParameterScan) : s.run [] = s := rfl

@[simp] theorem run_cons (s : ParameterScan) (t : Token) (ts : List Token) :
    s.run (t :: ts) = (s.step t).run ts := rfl

@[simp] theorem run_append (s : ParameterScan) (ts us : List Token) :
    s.run (ts ++ us) = (s.run ts).run us := List.foldl_append ..

theorem step_bare (s : ParameterScan) (t : Token) : s.step t.bare = s.step t := rfl

theorem run_map_bare (s : ParameterScan) (ts : List Token) :
    s.run (ts.map Token.bare) = s.run ts := by
  induction ts generalizing s with
  | nil => rfl
  | cons t ts ih => rw [List.map_cons, run_cons, run_cons, step_bare, ih]

theorem step_of_not_isSignificant (h : isSignificant t = false) : s.step t = s := by
  have hkind : (t.kind == .whitespace || t.kind == .comment) = true := by
    unfold isSignificant KindTest.accepts at h
    simpa only [Bool.not_eq_false', List.contains_cons, List.contains_nil, Bool.or_false] using h
  rw [step, if_pos hkind]

theorem run_filter (s : ParameterScan) (ts : List Token) :
    s.run (ts.filter isSignificant) = s.run ts := by
  induction ts generalizing s with
  | nil => rfl
  | cons t ts ih =>
    cases h : isSignificant t with
    | true => rw [List.filter_cons_of_pos h, run_cons, run_cons, ih]
    | false => rw [List.filter_cons_of_neg (by simp [h]), run_cons, step_of_not_isSignificant h, ih]

/-! ## Brackets -/

theorem step_opens (h : t.opensBracket = true) : s.step t =
    { s with depth := s.depth + 1, expecting := s.expecting || s.depth + 1 == 1 } := by
  rw [step, if_neg (by simp [Token.kind_of_opensBracket h]), if_pos h]

theorem step_closes (h : t.closesBracket = true) : s.step t = { s with depth := s.depth - 1 } := by
  rw [step, if_neg (by simp [Token.kind_of_closesBracket h]),
    if_neg (by simp [Token.not_opens_of_closes h]), if_pos h]

theorem depth_step (s : ParameterScan) (t : Token) :
    (s.step t).depth = s.depth + t.bracketStep := by
  cases ho : t.opensBracket with
  | true => rw [step_opens ho, Token.bracketStep, if_pos ho]
  | false =>
    cases hc : t.closesBracket with
    | true => rw [step_closes hc, Token.bracketStep, ho, hc]; rfl
    | false =>
      have hstay : (s.stepInside t).depth = s.depth := by
        unfold stepInside
        split_ifs <;> rfl
      rw [Token.bracketStep, ho, hc, step]
      simp only [ho, hc, Bool.false_eq_true, if_false, Int.add_zero]
      split_ifs
      · rfl
      · rfl
      · exact hstay

theorem depth_run (s : ParameterScan) (ts : List Token) :
    (s.run ts).depth = s.depth + depthBy Token.bracketStep ts := by
  induction ts generalizing s with
  | nil => rw [run_nil, depthBy, Int.add_zero]
  | cons t ts ih => rw [run_cons, ih, depth_step, depthBy, Int.add_assoc]

/-- Within two brackets only the number of brackets changes. -/
theorem step_deep (h : 2 ≤ s.depth) (t : Token) :
    s.step t = { s with depth := s.depth + t.bracketStep } := by
  cases ho : t.opensBracket with
  | true =>
    have hdepth : (s.depth + 1 == 1) = false := by simp; omega
    rw [step_opens ho, hdepth, Bool.or_false, Token.bracketStep, if_pos ho]
  | false =>
    cases hc : t.closesBracket with
    | true => rw [step_closes hc, Token.bracketStep, ho, hc]; rfl
    | false =>
      have hdepth : (s.depth != 1) = true := by simp; omega
      simp [step, ho, hc, hdepth, Token.bracketStep]

theorem run_deep (ts : List Token) (h : ∀ k, 2 ≤ s.depth + depthBy Token.bracketStep (ts.take k)) :
    s.run ts = { s with depth := s.depth + depthBy Token.bracketStep ts } := by
  induction ts generalizing s with
  | nil => rw [run_nil, depthBy, Int.add_zero]
  | cons t ts ih =>
    have hdeep : 2 ≤ s.depth := by simpa [depthBy] using h 0
    rw [run_cons, step_deep hdeep, ih, depthBy, Int.add_assoc]
    intro k
    have hnext := h (k + 1)
    rw [List.take_succ_cons, depthBy, ← Int.add_assoc] at hnext
    exact hnext

/-- Brackets at depth one or more, and all that they hold, change nothing. -/
theorem run_brackets {opener closer : Token} {inner : List Token} (hd : 1 ≤ s.depth)
    (ho : opener.opensBracket = true) (hc : closer.closesBracket = true) (hb : IsBalanced inner) :
    s.run (opener :: (inner ++ [closer])) = s := by
  have hopened : s.step opener = { s with depth := s.depth + 1 } := by
    have hsecond : (s.depth + 1 == 1) = false := by simp; omega
    rw [step_opens ho, hsecond, Bool.or_false]
  have hinner : ({ s with depth := s.depth + 1 } : ParameterScan).run inner =
      { s with depth := s.depth + 1 } := by
    rw [run_deep inner, hb.1, Int.add_zero]
    intro k
    have := hb.2 k
    show 2 ≤ s.depth + 1 + _
    omega
  have hclosed : ({ s with depth := s.depth + 1 } : ParameterScan).step closer = s := by
    rw [step_closes hc]
    exact congrArg (fun d => { s with depth := d }) (Int.add_sub_cancel s.depth 1)
  rw [run_cons, hopened, run_append, hinner, run_cons, run_nil, hclosed]

end ParameterScan

/-! ## The tokens between the parentheses -/

theorem filterMap_getElem?_range (xs : List Token) (n : Nat) :
    ((List.range n).filterMap fun k => xs[k]?) = xs.take n := by
  induction n with
  | zero => rfl
  | succ n ih =>
    rw [List.range_succ, List.filterMap_append, ih, List.take_add_one]
    cases h : xs[n]? <;> simp [h]

/-- The names are what the machine reads from one parenthesis to the other. -/
theorem TokenSequence.parameterNames_eq_run {s : TokenSequence} {n a b : Nat} {t : Token}
    (ht : s.tokens[n]? = some t) (ha : t.extent.parenOpener = some (a : Int))
    (hb : t.extent.parenCloser = some (b : Int)) (hab : a ≤ b) (hlt : b < s.length) :
    s.parameterNames n =
      .ok (ParameterScan.run {} ((s.tokens.drop a).take (b - a + 1))).names := by
  rw [parameterNames_of_parens ht ha hb hab hlt]
  simp only [← List.getElem?_drop, filterMap_getElem?_range]

end DocLint
