/-!
# Quotes

A quote is one quotation mark or three. A quoted text ends at the next such
quote that no backslash stands before, and with one mark it has to end on its
line.

Main statement: `closeTriple_append` (a body without the mark and without
backslashes is read back from between three marks).
-/
namespace DocLint.Literal

/-- The text up to the closing mark, and what follows the mark. -/
def closeSingle (mark : Char) : List Char → Option (List Char × List Char)
  | '\\' :: c :: rest => (closeSingle mark rest).map fun r => ('\\' :: c :: r.1, r.2)
  | c :: rest =>
    if c = mark then some ([], rest)
    else if c = '\n' then none
    else (closeSingle mark rest).map fun r => (c :: r.1, r.2)
  | [] => none

/-- The text up to the closing three marks, and what follows them. -/
def closeTriple (mark : Char) : List Char → Option (List Char × List Char)
  | '\\' :: c :: rest => (closeTriple mark rest).map fun r => ('\\' :: c :: r.1, r.2)
  | c :: rest =>
    if c = mark ∧ rest.take 2 = [mark, mark] then some ([], rest.drop 2)
    else (closeTriple mark rest).map fun r => (c :: r.1, r.2)
  | [] => none

/-- Reads a quoted literal after its first mark. -/
def closeQuote (mark : Char) : List Char → Option (List Char × List Char)
  | a :: b :: rest =>
    if a = mark ∧ b = mark then closeTriple mark rest else closeSingle mark (a :: b :: rest)
  | text => closeSingle mark text

/-! ## Small facts -/

theorem closeTriple_append (mark : Char) (body rest : List Char) (hm : mark ∉ body)
    (hb : '\\' ∉ body) (hq : mark ≠ '\\') :
    closeTriple mark (body ++ mark :: mark :: mark :: rest) = some (body, rest) := by
  induction body with
  | nil =>
    rw [List.nil_append, closeTriple.eq_def]
    split
    · next heq => exact absurd (List.cons.inj heq).1 hq
    · next heq =>
      obtain ⟨rfl, rfl⟩ := List.cons.inj heq
      simp
    · next heq => exact absurd heq (List.cons_ne_nil _ _)
  | cons c body ih =>
    have hc : c ≠ '\\' := fun h => hb (h ▸ List.mem_cons_self)
    have hcm : c ≠ mark := fun h => hm (h ▸ List.mem_cons_self)
    have ih' := ih (fun h => hm (List.mem_cons_of_mem c h)) (fun h => hb (List.mem_cons_of_mem c h))
    rw [List.cons_append, closeTriple.eq_def]
    split
    · next heq => exact absurd (List.cons.inj heq).1 hc
    · next heq =>
      obtain ⟨rfl, rfl⟩ := List.cons.inj heq
      simp [hcm, ih']
    · next heq => exact absurd heq (List.cons_ne_nil _ _)

end DocLint.Literal
