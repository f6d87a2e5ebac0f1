import DocLint.Lexeme.Layout

/-!
# Depth

How many brackets, and how many indents, are open after some lexemes. Both are
sums of what each lexeme opens or closes, and so is the depth of brackets in a
sequence of tokens.

Results:
* `depthBy_append`: depths add up.
* `bracketDepth_append`, `indentDepth_append`: the two cases of lexemes.
-/
namespace DocLint

/-- The sum of what the elements of a list open. It is negative if more has been
closed than opened. -/
def depthBy {α : Type} (step : α → Int) : List α → Int
  | [] => 0
  | x :: rest => step x + depthBy step rest

theorem depthBy_append {α : Type} (step : α → Int) (xs ys : List α) :
    depthBy step (xs ++ ys) = depthBy step xs + depthBy step ys := by
  induction xs with
  | nil =>
    rw [List.nil_append, depthBy, Int.zero_add]
  | cons x xs ih =>
    rw [List.cons_append, depthBy, depthBy, ih, Int.add_assoc]

/-! ## Brackets -/

/-- What a lexeme does to the number of open brackets. -/
def Lexeme.bracketStep (x : Lexeme) : Int :=
  if x.opensBracket then 1 else if x.closesBracket then -1 else 0

/-- The number of open brackets after some lexemes. -/
def bracketDepth (xs : List Lexeme) : Int := depthBy Lexeme.bracketStep xs

@[simp] theorem bracketDepth_nil : bracketDepth [] = 0 := rfl

@[simp] theorem bracketDepth_cons (x : Lexeme) (xs : List Lexeme) :
    bracketDepth (x :: xs) = x.bracketStep + bracketDepth xs := rfl

@[simp] theorem bracketDepth_append (xs ys : List Lexeme) :
    bracketDepth (xs ++ ys) = bracketDepth xs + bracketDepth ys :=
  depthBy_append ..

theorem Lexeme.type_eq_operator {x : Lexeme} {text : String} (h : x.isOperator text = true) :
    x.type = .operator := by
  simp only [Lexeme.isOperator, Bool.and_eq_true, beq_iff_eq] at h
  exact h.1

theorem Lexeme.text_eq {x : Lexeme} {text : String} (h : x.isOperator text = true) :
    x.text = text := by
  simp only [Lexeme.isOperator, Bool.and_eq_true, beq_iff_eq] at h
  exact h.2

theorem Lexeme.type_of_opensBracket {x : Lexeme} (h : x.opensBracket = true) :
    x.type = .operator := by
  simp only [Lexeme.opensBracket, Bool.or_eq_true] at h
  rcases h with (h | h) | h <;> exact Lexeme.type_eq_operator h

theorem Lexeme.type_of_closesBracket {x : Lexeme} (h : x.closesBracket = true) :
    x.type = .operator := by
  simp only [Lexeme.closesBracket, Bool.or_eq_true] at h
  rcases h with (h | h) | h <;> exact Lexeme.type_eq_operator h

theorem Lexeme.not_closes_of_opens {x : Lexeme} (h : x.opensBracket = true) :
    x.closesBracket = false := by
  simp only [Lexeme.opensBracket, Bool.or_eq_true] at h
  rcases h with (h | h) | h <;>
    simp [Lexeme.closesBracket, Lexeme.isOperator, Lexeme.text_eq h]

theorem Lexeme.bracketStep_of_opens {x : Lexeme} (h : x.opensBracket = true) :
    x.bracketStep = 1 := by
  simp [bracketStep, h]

theorem Lexeme.bracketStep_of_closes {x : Lexeme} (h : x.closesBracket = true) :
    x.bracketStep = -1 := by
  have : x.opensBracket = false := by
    cases ho : x.opensBracket
    · rfl
    · rw [Lexeme.not_closes_of_opens ho] at h
      cases h
  simp [bracketStep, h, this]

theorem Lexeme.bracketStep_of_not_operator {x : Lexeme} (h : x.type ≠ .operator) :
    x.bracketStep = 0 := by
  have h1 : x.opensBracket ≠ true := fun e => h (Lexeme.type_of_opensBracket e)
  have h2 : x.closesBracket ≠ true := fun e => h (Lexeme.type_of_closesBracket e)
  simp [bracketStep, h1, h2]

theorem Lexeme.bracketStep_colon {x : Lexeme} (h : x.isOperator ":" = true) :
    x.bracketStep = 0 := by
  have ht := Lexeme.text_eq h
  simp [bracketStep, opensBracket, closesBracket, isOperator, ht]

/-! ## Indents -/

/-- What a lexeme does to the number of open indents. -/
def Lexeme.indentStep (x : Lexeme) : Int :=
  if x.type = .indent then 1 else if x.type = .dedent then -1 else 0

/-- The number of open indents after some lexemes. -/
def indentDepth (xs : List Lexeme) : Int := depthBy Lexeme.indentStep xs

@[simp] theorem indentDepth_nil : indentDepth [] = 0 := rfl

@[simp] theorem indentDepth_cons (x : Lexeme) (xs : List Lexeme) :
    indentDepth (x :: xs) = x.indentStep + indentDepth xs := rfl

@[simp] theorem indentDepth_append (xs ys : List Lexeme) :
    indentDepth (xs ++ ys) = indentDepth xs + indentDepth ys :=
  depthBy_append ..

end DocLint
