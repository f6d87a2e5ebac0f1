import DocLint.Proofs.Token.ParameterScan

/-!
# Inner brackets and the names of parameters

Between the parentheses of a declaration a bracketed part, which starts where a
bracket is open already, gives no name, and it leaves the machine that reads the
names as it was. That holds in any sequence, also where the brackets around it do not
match. So two sequences that differ in what such brackets hold have the same
parameter names.

Results:
* `BracketsWithin`: where the brackets stand.
* `BracketsWithin.parameterNames_eq`: the names are those without the brackets.
* `parameterNames_brackets`: what the brackets hold does not matter.
-/
namespace DocLint

open TokenSequence (ofLexemes)

variable {s : TokenSequence} {n first last : Nat} {before inner after : List Token}
  {opener closer : Token}

/-- Whether the tokens are `before`, brackets with `inner` in them, and `after`. The
declaration at `n` and its first parenthesis stand before the brackets, and its last
parenthesis is number `last` of the tokens after them. Counted from the first
parenthesis, some bracket is open where the brackets start. -/
structure BracketsWithin (s : TokenSequence) (n first last : Nat) (before : List Token)
    (opener : Token) (inner : List Token) (closer : Token) (after : List Token) : Prop where
  tokens_eq : s.tokens = before ++ opener :: (inner ++ closer :: after)
  opens : opener.opensBracket = true
  closes : closer.closesBracket = true
  balanced : IsBalanced inner
  declared : ∃ t, before[n]? = some t ∧ t.extent.parenOpener = some (first : Int) ∧
    t.extent.parenCloser = some ((before.length + inner.length + 2 + last : Nat) : Int)
  first_lt : first < before.length
  last_lt : last < after.length
  deep : 1 ≤ depthBy Token.bracketStep (before.drop first)

namespace BracketsWithin

theorem between_eq (h : BracketsWithin s n first last before opener inner closer after) :
    (s.tokens.drop first).take (before.length + inner.length + 2 + last - first + 1) =
      before.drop first ++ (opener :: (inner ++ [closer]) ++ after.take (last + 1)) := by
  have hfirst := h.first_lt
  have hlength : before.length + inner.length + 2 + last - first + 1 =
      (before.drop first ++ opener :: (inner ++ [closer])).length + (last + 1) := by
    simp only [List.length_append, List.length_drop, List.length_cons, List.length_nil]
    omega
  have hdrop : s.tokens.drop first =
      (before.drop first ++ opener :: (inner ++ [closer])) ++ after := by
    rw [h.tokens_eq, List.drop_append_of_le_length (Nat.le_of_lt hfirst)]
    simp only [List.append_assoc, List.cons_append, List.nil_append]
  rw [hdrop, hlength, List.take_length_add_append, List.append_assoc]

/-- The names are those that the machine reads without the brackets. -/
theorem parameterNames_eq (h : BracketsWithin s n first last before opener inner closer after) :
    s.parameterNames n =
      .ok (ParameterScan.run {} (before.drop first ++ after.take (last + 1))).names := by
  obtain ⟨t, ht, ha, hb⟩ := h.declared
  have hfirst := h.first_lt
  have hlast := h.last_lt
  have hlength : s.length = before.length + inner.length + 2 + after.length := by
    simp only [TokenSequence.length, h.tokens_eq, List.length_append, List.length_cons]
    omega
  have hdeep : 1 ≤ (ParameterScan.run {} (before.drop first)).depth := by
    rw [ParameterScan.depth_run, Int.zero_add]
    exact h.deep
  have htoken : s.tokens[n]? = some t := by
    rw [h.tokens_eq, List.getElem?_append_left (List.getElem?_eq_some_iff.1 ht).1, ht]
  rw [TokenSequence.parameterNames_eq_run htoken ha hb (by omega) (by omega), h.between_eq,
    ParameterScan.run_append, ParameterScan.run_append,
    ParameterScan.run_brackets hdeep h.opens h.closes h.balanced, ← ParameterScan.run_append]

end BracketsWithin

/-- What inner brackets hold does not matter to the names of the parameters. The two
sequences may be of different lengths, so tokens count as the same before and after
the brackets if their class and their text are. -/
theorem parameterNames_brackets (s s' : TokenSequence) (n first last : Nat)
    (before before' inner inner' after after' : List Token) (opener opener' closer closer' : Token)
    (h : BracketsWithin s n first last before opener inner closer after)
    (h' : BracketsWithin s' n first last before' opener' inner' closer' after')
    (hbefore : before'.map Token.bare = before.map Token.bare)
    (hafter : after'.map Token.bare = after.map Token.bare) :
    ∃ names, s.parameterNames n = .ok names ∧ s'.parameterNames n = .ok names := by
  refine ⟨_, h.parameterNames_eq, ?_⟩
  rw [h'.parameterNames_eq, ← ParameterScan.run_map_bare, List.map_append, List.map_drop,
    List.map_take, hbefore, hafter, ← List.map_take, ← List.map_drop, ← List.map_append,
    ParameterScan.run_map_bare]

/-- `def f(a=[], *b): ...` with the given lexemes in the brackets. -/
def bracketFile (inner : List Lexeme) (width : Int) : List Lexeme :=
  [⟨.name, "def", 1, 0⟩, ⟨.name, "f", 1, 4⟩, ⟨.operator, "(", 1, 5⟩, ⟨.name, "a", 1, 6⟩,
    ⟨.operator, "=", 1, 7⟩, ⟨.operator, "[", 1, 8⟩] ++ inner ++
  [⟨.operator, "]", 1, 9 + width⟩, ⟨.operator, ",", 1, 10 + width⟩,
    ⟨.operator, "*", 1, 12 + width⟩, ⟨.name, "b", 1, 13 + width⟩, ⟨.operator, ")", 1, 14 + width⟩,
    ⟨.operator, ":", 1, 15 + width⟩, ⟨.operator, "...", 1, 17 + width⟩,
    ⟨.newline, "\n", 1, 20 + width⟩, ⟨.endMarker, "", 2, 0⟩]

/-- `(x), lambda y: y`. -/
def bracketContents : List Lexeme :=
  [⟨.operator, "(", 1, 9⟩, ⟨.name, "x", 1, 10⟩, ⟨.operator, ")", 1, 11⟩, ⟨.operator, ",", 1, 12⟩,
    ⟨.name, "lambda", 1, 14⟩, ⟨.name, "y", 1, 21⟩, ⟨.operator, ":", 1, 22⟩, ⟨.name, "y", 1, 24⟩]

/-- Neither the list's comma nor its lambda makes a difference. -/
theorem bracketFile_parameterNames :
    (ofLexemes (bracketFile bracketContents 16)).parameterNames 1 = .ok ["a", "b"] ∧
    (ofLexemes (bracketFile [] 0)).parameterNames 1 = .ok ["a", "b"] := by
  have hempty : (ofLexemes (bracketFile [] 0)).parameterNames 1 = .ok ["a", "b"] := by decide
  have h : BracketsWithin (ofLexemes (bracketFile [] 0)) 1 3 3
      ((ofLexemes (bracketFile [] 0)).tokens.take 6) ⟨.operator, "[", 1, 8, {}⟩ []
      ⟨.operator, "]", 1, 9, {}⟩ ((ofLexemes (bracketFile [] 0)).tokens.drop 8) :=
    ⟨by decide, by decide, by decide, by decide,
      ⟨⟨.function, "def", 1, 0, ⟨some 12, some 14, some 3, some 11⟩⟩, by decide⟩,
      by decide, by decide, by decide⟩
  have h' : BracketsWithin (ofLexemes (bracketFile bracketContents 16)) 1 3 3
      ((ofLexemes (bracketFile bracketContents 16)).tokens.take 6) ⟨.operator, "[", 1, 8, {}⟩
      (((ofLexemes (bracketFile bracketContents 16)).tokens.drop 7).take 8)
      ⟨.operator, "]", 1, 25, {}⟩
      ((ofLexemes (bracketFile bracketContents 16)).tokens.drop 16) :=
    ⟨by decide, by decide, by decide, by decide,
      ⟨⟨.function, "def", 1, 0, ⟨some 20, some 22, some 3, some 19⟩⟩, by decide⟩,
      by decide, by decide, by decide⟩
  obtain ⟨names, hnames, hnames'⟩ := parameterNames_brackets _ _ _ _ _ _ _ _ _ _ _ _ _ _ _ h h'
    (by decide) (by decide)
  obtain rfl : ["a", "b"] = names := Except.ok.inj (hempty.symm.trans hnames)
  exact ⟨hnames', hempty⟩

end DocLint
