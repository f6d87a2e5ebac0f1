import DocLint.Proofs.Lexeme.DocString

/-!
# Block-structured files

The lexemes of a file whose blocks are closed. A `Suite` is a derivation: it
carries its lexemes together with what makes them a sequence of statements, and
it knows where its declarations have their keyword, their colon and the end of
their scope. The code that lays out declarations knows nothing of this: it
counts brackets, indents and dedents.

Results:
* `Suite.indentBalanced`: no prefix of a suite closes a block that it does not
  open, and all blocks are closed.
* `declarationsFrom_suite`: the declarations of a suite are its scopes.
-/
namespace DocLint

/-! ## The grammar -/

/-- Whether a lexeme may stand within a line. -/
def Lexeme.isInline (x : Lexeme) : Bool :=
  x.type != .newline && x.type != .indent && x.type != .dedent && x.type != .encoding &&
    x.type != .endMarker

/-- Whether a lexeme may stand within a line and declares nothing. -/
def Lexeme.isPlain (x : Lexeme) : Bool := x.isInline && !x.isDeclaration

/-- A simple statement, with the end of its line. -/
structure Line where
  words : List Lexeme
  newline : Lexeme
  plain : ∀ x ∈ words, x.isPlain = true
  statement : ∃ x ∈ words, x.type ≠ .comment
  ended : newline.type = .newline

/-- The header of a compound statement that declares nothing. -/
structure PlainHead where
  words : List Lexeme
  colon : Lexeme
  plain : ∀ x ∈ words, x.isPlain = true
  isColon : colon.isOperator ":" = true

/-- The header of a declaration. Something may stand before the keyword. -/
structure DeclaringHead where
  lead : List Lexeme
  keyword : Lexeme
  words : List Lexeme
  colon : Lexeme
  lead_plain : ∀ x ∈ lead, x.isPlain = true
  declares : keyword.isDeclaration = true
  words_plain : ∀ x ∈ words, x.isPlain = true
  balanced : bracketDepth words = 0
  noColon : ∀ i (hi : i < words.length),
    words[i].isOperator ":" = true → bracketDepth (words.take i) ≠ 0
  isColon : colon.isOperator ":" = true

/-- The header of a compound statement. -/
inductive Head where
  | plain (head : PlainHead)
  | declaring (head : DeclaringHead)

/-- What stands around the statements of an indented block. -/
structure Frame where
  comments : List Lexeme
  newline : Lexeme
  fillers : List Lexeme
  indent : Lexeme
  dedent : Lexeme
  comments_type : ∀ x ∈ comments, x.type = .comment
  newline_type : newline.type = .newline
  fillers_type : ∀ x ∈ fillers, x.isFiller = true
  indent_type : indent.type = .indent
  dedent_type : dedent.type = .dedent

/-- A sequence of statements, with blank lines and comments between them. -/
inductive Suite where
  | nil
  | blank (x : Lexeme) (filler : x.isFiller = true) (rest : Suite)
  | simple (line : Line) (rest : Suite)
  /-- A compound statement with its body on the header line. -/
  | oneLine (head : Head) (line : Line) (rest : Suite)
  /-- A compound statement with an indented block. -/
  | block (head : Head) (frame : Frame) (body rest : Suite)

def Line.lexemes (line : Line) : List Lexeme := line.words ++ [line.newline]

/-- A header without its colon. -/
def Head.front : Head → List Lexeme
  | plain head => head.words
  | declaring head => head.lead ++ head.keyword :: head.words

def Head.colon : Head → Lexeme
  | plain head => head.colon
  | declaring head => head.colon

def Head.lexemes (head : Head) : List Lexeme := head.front ++ [head.colon]

/-- What stands between the header and the first statement of a block. -/
def Frame.opening (frame : Frame) : List Lexeme :=
  frame.comments ++ frame.newline :: (frame.fillers ++ [frame.indent])

def Suite.lexemes : Suite → List Lexeme
  | nil => []
  | blank x _ rest => x :: rest.lexemes
  | simple line rest => line.lexemes ++ rest.lexemes
  | oneLine head line rest => head.lexemes ++ (line.lexemes ++ rest.lexemes)
  | block head frame body rest =>
    head.lexemes ++ (frame.opening ++ (body.lexemes ++ frame.dedent :: rest.lexemes))

/-! ## Scopes by the grammar -/

/-- Where the scope of a declaration is. It stops at the end of its line, or at
the dedent that closes its block. -/
structure Scope where
  keyword : Nat
  colon : Nat
  stop : Nat
  isBlock : Bool
  deriving DecidableEq, Repr

/-- The end of the line, or the last kept lexeme before the dedent. -/
def Scope.closer? (s : Scope) (xs : List Lexeme) : Option Nat :=
  if s.isBlock then lastIn Lexeme.isKept xs 0 s.stop else some s.stop

/-- The scope of a header whose first lexeme is at `base`, if it declares something. -/
def Head.scopes (base stop : Nat) (isBlock : Bool) : Head → List Scope
  | plain _ => []
  | declaring head =>
    [{ keyword := base + head.lead.length
       colon := base + head.lead.length + 1 + head.words.length
       stop, isBlock }]

/-- The scopes of a suite whose first lexeme is at `base`, in the order of the
keywords. -/
def Suite.scopes (base : Nat) : Suite → List Scope
  | nil => []
  | blank _ _ rest => rest.scopes (base + 1)
  | simple line rest => rest.scopes (base + line.lexemes.length)
  | oneLine head line rest =>
    head.scopes base (base + head.lexemes.length + line.words.length) false ++
      rest.scopes (base + head.lexemes.length + line.lexemes.length)
  | block head frame body rest =>
    let first := base + head.lexemes.length + frame.opening.length
    head.scopes base (first + body.lexemes.length) true ++
      (body.scopes first ++ rest.scopes (first + body.lexemes.length + 1))

/-! ## Indents -/

/-- Lexemes that close no block but their own, and that close all of their own. -/
structure IndentBalanced (xs : List Lexeme) : Prop where
  open_le : ∀ i, 0 ≤ indentDepth (xs.take i)
  closed : indentDepth xs = 0

namespace IndentBalanced

variable {xs ys : List Lexeme}

theorem nil : IndentBalanced [] := ⟨fun i => by simp, rfl⟩

theorem append (hx : IndentBalanced xs) (hy : IndentBalanced ys) : IndentBalanced (xs ++ ys) := by
  refine ⟨fun i => ?_, by rw [indentDepth_append, hx.closed, hy.closed]; rfl⟩
  rw [List.take_append, indentDepth_append]
  have h1 := hx.open_le i
  have h2 := hy.open_le (i - xs.length)
  omega

theorem cons_of_step {x : Lexeme} (hx : x.indentStep = 0) (hy : IndentBalanced ys) :
    IndentBalanced (x :: ys) := by
  refine ⟨fun i => ?_, by rw [indentDepth_cons, hx, hy.closed]; rfl⟩
  cases i with
  | zero => simp
  | succ i =>
    have := hy.open_le i
    simpa [hx] using this

theorem of_steps (h : ∀ x ∈ xs, x.indentStep = 0) : IndentBalanced xs := by
  induction xs with
  | nil => exact nil
  | cons x xs ih => exact (ih fun y hy => h y (by simp [hy])).cons_of_step (h x (by simp))

theorem block {indent dedent : Lexeme} (hi : indent.type = .indent) (hd : dedent.type = .dedent)
    (hx : IndentBalanced xs) : IndentBalanced (indent :: (xs ++ [dedent])) := by
  have e1 : indent.indentStep = 1 := by simp [Lexeme.indentStep, hi]
  have e2 : dedent.indentStep = -1 := by simp [Lexeme.indentStep, hd]
  refine ⟨fun i => ?_, by simp [e1, e2, hx.closed]⟩
  cases i with
  | zero => simp
  | succ i =>
    rw [List.take_succ_cons, indentDepth_cons, e1, List.take_append, indentDepth_append]
    have h1 := hx.open_le i
    by_cases hend : i ≤ xs.length
    · rw [Nat.sub_eq_zero_of_le hend, List.take_zero, indentDepth_nil]
      omega
    · rw [List.take_of_length_le (by simp; omega : [dedent].length ≤ i - xs.length),
        List.take_of_length_le (by omega), hx.closed, indentDepth_cons, e2, indentDepth_nil]
      omega

end IndentBalanced

variable {x : Lexeme} {xs : List Lexeme}

theorem Lexeme.indentStep_of_isInline (h : x.isInline = true) : x.indentStep = 0 := by
  simp only [Lexeme.isInline, Bool.and_eq_true, bne_iff_ne] at h
  obtain ⟨⟨⟨⟨-, hi⟩, hd⟩, -⟩, -⟩ := h
  simp [Lexeme.indentStep, hi, hd]

theorem Lexeme.isInline_of_isPlain (h : x.isPlain = true) : x.isInline = true := by
  rw [Lexeme.isPlain, Bool.and_eq_true] at h
  exact h.1

theorem Lexeme.type_ne_newline_of_isPlain (h : x.isPlain = true) : x.type ≠ .newline := by
  have h := Lexeme.isInline_of_isPlain h
  simp only [Lexeme.isInline, Bool.and_eq_true, bne_iff_ne] at h
  exact h.1.1.1.1

theorem Lexeme.isDeclaration_of_isPlain (h : x.isPlain = true) : x.isDeclaration = false := by
  simp only [Lexeme.isPlain, Bool.and_eq_true, Bool.not_eq_true'] at h
  exact h.2

theorem Lexeme.indentStep_of_isFiller (h : x.isFiller = true) : x.indentStep = 0 := by
  rcases Lexeme.type_of_isFiller h with e | e <;> simp [Lexeme.indentStep, e]

theorem Lexeme.indentStep_of_isPlain (h : x.isPlain = true) : x.indentStep = 0 :=
  Lexeme.indentStep_of_isInline (Lexeme.isInline_of_isPlain h)

theorem Lexeme.indentStep_of_operator {text : String} (h : x.isOperator text = true) :
    x.indentStep = 0 := by
  simp [Lexeme.indentStep, Lexeme.type_eq_operator h]

theorem Line.indentBalanced (line : Line) : IndentBalanced line.lexemes := by
  refine IndentBalanced.append (.of_steps fun x hx => ?_) (.of_steps fun x hx => ?_)
  · exact Lexeme.indentStep_of_isPlain (line.plain x hx)
  · rw [List.mem_singleton.1 hx]
    simp [Lexeme.indentStep, line.ended]

theorem Head.isColon (head : Head) : head.colon.isOperator ":" = true := by
  cases head with
  | plain head => exact head.isColon
  | declaring head => exact head.isColon

theorem Head.indentStep_of_mem (head : Head) (hx : x ∈ head.front) : x.indentStep = 0 := by
  cases head with
  | plain head => exact Lexeme.indentStep_of_isPlain (head.plain x hx)
  | declaring head =>
    rcases List.mem_append.1 hx with hx | hx
    · exact Lexeme.indentStep_of_isPlain (head.lead_plain x hx)
    · rcases List.mem_cons.1 hx with rfl | hx
      · simp [Lexeme.indentStep, Lexeme.type_of_isDeclaration head.declares]
      · exact Lexeme.indentStep_of_isPlain (head.words_plain x hx)

theorem Head.indentBalanced (head : Head) : IndentBalanced head.lexemes :=
  IndentBalanced.append (.of_steps fun _ hx => head.indentStep_of_mem hx)
    (.cons_of_step (Lexeme.indentStep_of_operator head.isColon) .nil)

theorem Frame.indentBalanced (frame : Frame) (h : IndentBalanced xs) :
    IndentBalanced (frame.opening ++ (xs ++ [frame.dedent])) := by
  have e : frame.opening ++ (xs ++ [frame.dedent]) = frame.comments ++
      frame.newline :: (frame.fillers ++ frame.indent :: (xs ++ [frame.dedent])) := by
    simp [Frame.opening]
  rw [e]
  refine IndentBalanced.append (.of_steps fun x hx => ?_) (.cons_of_step ?_
    (IndentBalanced.append (.of_steps fun x hx => ?_) (.block frame.indent_type
      frame.dedent_type h)))
  · simp [Lexeme.indentStep, frame.comments_type x hx]
  · simp [Lexeme.indentStep, frame.newline_type]
  · exact Lexeme.indentStep_of_isFiller (frame.fillers_type x hx)

/-- A suite closes its blocks, and no other. -/
theorem Suite.indentBalanced (suite : Suite) : IndentBalanced suite.lexemes := by
  induction suite with
  | nil => exact .nil
  | blank x filler rest ih => exact ih.cons_of_step (Lexeme.indentStep_of_isFiller filler)
  | simple line rest ih => exact line.indentBalanced.append ih
  | oneLine head line rest ih => exact head.indentBalanced.append (line.indentBalanced.append ih)
  | block head frame body rest ihbody ihrest =>
    have e : (Suite.block head frame body rest).lexemes = head.lexemes ++
        ((frame.opening ++ (body.lexemes ++ [frame.dedent])) ++ rest.lexemes) := by
      simp [Suite.lexemes]
    rw [e]
    exact head.indentBalanced.append ((frame.indentBalanced ihbody).append ihrest)

/-! ## Declarations -/

/-- The positions of the declarations among lexemes of which the first is at
`position`. -/
def declarationsFrom (position : Nat) : List Lexeme → List Nat
  | [] => []
  | x :: rest =>
    if x.isDeclaration then position :: declarationsFrom (position + 1) rest
    else declarationsFrom (position + 1) rest

theorem filter_range'_eq_declarationsFrom (xs : List Lexeme) : ∀ position,
    (List.range' position xs.length).filter
      (fun i => xs[i - position]?.any Lexeme.isDeclaration) = declarationsFrom position xs := by
  induction xs with
  | nil => exact fun position => rfl
  | cons x xs ih =>
    intro position
    have htail : (List.range' (position + 1) xs.length).filter
        (fun i => (x :: xs)[i - position]?.any Lexeme.isDeclaration) =
          declarationsFrom (position + 1) xs := by
      rw [← ih (position + 1)]
      refine List.filter_congr fun i hi => ?_
      have hle := (List.mem_range'_1.1 hi).1
      rw [show i - position = i - (position + 1) + 1 by omega, List.getElem?_cons_succ]
    rw [List.length_cons, List.range'_succ, declarationsFrom]
    by_cases hx : x.isDeclaration = true
    · rw [List.filter_cons_of_pos (by simpa using hx), htail, if_pos hx]
    · rw [List.filter_cons_of_neg (by simpa using hx), htail, if_neg hx]

theorem declarations_eq (xs : List Lexeme) : declarations xs = declarationsFrom 0 xs := by
  rw [← filter_range'_eq_declarationsFrom, declarations, List.range_eq_range']
  rfl

theorem declarationsFrom_append (ys : List Lexeme) : ∀ (xs : List Lexeme) (position : Nat),
    declarationsFrom position (xs ++ ys) =
      declarationsFrom position xs ++ declarationsFrom (position + xs.length) ys
  | [], _ => rfl
  | x :: xs, position => by
    have ih := declarationsFrom_append ys xs (position + 1)
    rw [Nat.add_assoc, Nat.add_comm 1] at ih
    simp only [List.cons_append, declarationsFrom, ih, List.length_cons]
    split <;> rfl

theorem declarationsFrom_eq_nil (h : ∀ x ∈ xs, x.isDeclaration = false) : ∀ position,
    declarationsFrom position xs = [] := by
  induction xs with
  | nil => exact fun position => rfl
  | cons x xs ih =>
    intro position
    rw [declarationsFrom, h x (by simp), ih fun y hy => h y (by simp [hy])]
    rfl

theorem Lexeme.isDeclaration_of_type (h : x.type ≠ .name) : x.isDeclaration = false := by
  simp [Lexeme.isDeclaration, h]

theorem declarationsFrom_line (line : Line) (position : Nat) :
    declarationsFrom position line.lexemes = [] := by
  refine declarationsFrom_eq_nil (fun x hx => ?_) position
  rcases List.mem_append.1 hx with hx | hx
  · exact Lexeme.isDeclaration_of_isPlain (line.plain x hx)
  · rw [List.mem_singleton.1 hx]
    exact Lexeme.isDeclaration_of_type (by simp [line.ended])

theorem declarationsFrom_opening (frame : Frame) (position : Nat) :
    declarationsFrom position frame.opening = [] := by
  refine declarationsFrom_eq_nil (fun x hx => Lexeme.isDeclaration_of_type ?_) position
  simp only [Frame.opening, List.mem_append, List.mem_cons, List.not_mem_nil, or_false] at hx
  rcases hx with hx | rfl | hx | rfl
  · simp [frame.comments_type x hx]
  · simp [frame.newline_type]
  · rcases Lexeme.type_of_isFiller (frame.fillers_type x hx) with e | e <;> simp [e]
  · simp [frame.indent_type]

theorem declarationsFrom_head (head : Head) (position stop : Nat) (isBlock : Bool) :
    declarationsFrom position head.lexemes =
      (head.scopes position stop isBlock).map Scope.keyword := by
  have hcolon : ∀ n, declarationsFrom n [head.colon] = [] := declarationsFrom_eq_nil fun x hx => by
    rw [List.mem_singleton.1 hx]
    exact Lexeme.isDeclaration_of_type (by simp [Lexeme.type_eq_operator head.isColon])
  rw [Head.lexemes, declarationsFrom_append, hcolon, List.append_nil]
  cases head with
  | plain head =>
    exact declarationsFrom_eq_nil
      (fun x hx => Lexeme.isDeclaration_of_isPlain (head.plain x hx)) position
  | declaring head =>
    have hlead := declarationsFrom_eq_nil
      (fun x hx => Lexeme.isDeclaration_of_isPlain (head.lead_plain x hx)) position
    have hwords := declarationsFrom_eq_nil
      (fun x hx => Lexeme.isDeclaration_of_isPlain (head.words_plain x hx))
    show declarationsFrom position (head.lead ++ head.keyword :: head.words) = _
    rw [declarationsFrom_append, hlead, declarationsFrom, if_pos head.declares, hwords]
    rfl

theorem declarationsFrom_suite (suite : Suite) : ∀ base,
    declarationsFrom base suite.lexemes = (suite.scopes base).map Scope.keyword := by
  induction suite with
  | nil => exact fun base => rfl
  | blank x filler rest ih =>
    intro base
    have hx : x.isDeclaration = false := Lexeme.isDeclaration_of_type (by
      rcases Lexeme.type_of_isFiller filler with e | e <;> simp [e])
    simp only [Suite.lexemes, Suite.scopes, declarationsFrom, hx, Bool.false_eq_true, if_false, ih]
  | simple line rest ih =>
    intro base
    simp only [Suite.lexemes, Suite.scopes, declarationsFrom_append, declarationsFrom_line, ih,
      List.nil_append]
  | oneLine head line rest ih =>
    intro base
    simp only [Suite.lexemes, Suite.scopes, declarationsFrom_append, declarationsFrom_line, ih,
      List.nil_append, List.map_append]
    rw [← declarationsFrom_head]
  | block head frame body rest ihbody ihrest =>
    intro base
    have hdedent : frame.dedent.isDeclaration = false :=
      Lexeme.isDeclaration_of_type (by simp [frame.dedent_type])
    simp only [Suite.lexemes, Suite.scopes, declarationsFrom_append, declarationsFrom_opening,
      declarationsFrom, hdedent, Bool.false_eq_true, if_false, ihbody, ihrest, List.nil_append,
      List.map_append]
    rw [← declarationsFrom_head]

end DocLint
