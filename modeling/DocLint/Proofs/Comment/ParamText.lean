import DocLint.Comment.Tag
import DocLint.Proofs.Text.Trim

/-!
# Reading what a parameter tag says

A parameter tag is written as a name, a colon and a comment, with a type before
the name or without one. With a type, all of it is read back, whatever the
comment says. Without one it is read back unless the comment itself starts with
a name and a colon: then the first name and its colon count as a type, and the
second name as the name.

Results:
* `starredName?_eq_some_iff`, `nameAndColon?_eq_some_iff`: which texts start with
  a name, and which with a name and a colon.
* `ParamTag.ofText_typed`, `ParamTag.ofText_untyped`: what is read.
* `ParamTag.ofText_written`: when what was written is read back.
-/
namespace DocLint

open Text

variable {input rest comment : List Char} {line : Nat}

/-! ## Names -/

/-- A name as it stands in a tag, with the stars before it. -/
structure StarredName where
  stars : Nat
  word : List Char
  word_ne_nil : word ≠ []
  isWord_of_mem : ∀ c ∈ word, isWord c = true

theorem not_star_of_isWord {c : Char} (h : isWord c = true) : (c == '*') = false := by
  rw [beq_eq_false_iff_ne]
  rintro rfl
  revert h
  decide

namespace StarredName

def text (n : StarredName) : List Char := List.replicate n.stars '*' ++ n.word

theorem text_ne_nil (n : StarredName) : n.text ≠ [] :=
  List.append_ne_nil_of_right_ne_nil _ n.word_ne_nil

theorem not_isBlank_of_mem (n : StarredName) {c : Char} (h : c ∈ n.text) : isBlank c = false := by
  rcases List.mem_append.1 h with h | h
  · rw [List.eq_of_mem_replicate h]
    decide
  · exact not_isBlank_of_isWord (n.isWord_of_mem c h)

theorem marked_ne_nil (n : StarredName) : n.text ++ [':'] ≠ [] :=
  List.append_ne_nil_of_right_ne_nil _ (List.cons_ne_nil _ _)

theorem not_isBlank_of_mem_marked (n : StarredName) {c : Char} (h : c ∈ n.text ++ [':']) :
    isBlank c = false := by
  rcases List.mem_append.1 h with h | h
  · exact n.not_isBlank_of_mem h
  · rw [List.mem_singleton.1 h]
    decide

theorem trimLeft_text (n : StarredName) (rest : List Char) :
    trimLeft (n.text ++ rest) = n.text ++ rest := by
  obtain ⟨c, more, h⟩ := List.exists_cons_of_ne_nil n.text_ne_nil
  rw [h, List.cons_append, trimLeft_cons (n.not_isBlank_of_mem (h ▸ List.mem_cons_self ..))]

/-- The stars end where the word starts. -/
theorem head?_word (n : StarredName) (rest : List Char) :
    ∀ c ∈ (n.word ++ rest).head?, (c == '*') = false := by
  obtain ⟨c, more, h⟩ := List.exists_cons_of_ne_nil n.word_ne_nil
  intro d hd
  rw [h, List.cons_append, List.head?_cons, Option.mem_some_iff] at hd
  exact hd ▸ not_star_of_isWord (n.isWord_of_mem c (h ▸ List.mem_cons_self ..))

theorem takeWhile_star (n : StarredName) (rest : List Char) :
    (n.text ++ rest).takeWhile (· == '*') = List.replicate n.stars '*' := by
  rw [text, List.append_assoc]
  exact takeWhile_append_stop (fun c hc => beq_iff_eq.2 (List.eq_of_mem_replicate hc))
    (n.head?_word rest)

theorem dropWhile_star (n : StarredName) (rest : List Char) :
    (n.text ++ rest).dropWhile (· == '*') = n.word ++ rest := by
  rw [text, List.append_assoc]
  exact dropWhile_append_stop (fun c hc => beq_iff_eq.2 (List.eq_of_mem_replicate hc))
    (n.head?_word rest)

end StarredName

/-- The texts that start with a name: the name is not cut short. -/
theorem starredName?_eq_some_iff {name : List Char} : starredName? input = some (name, rest) ↔
    ∃ n : StarredName, n.text = name ∧ input = n.text ++ rest ∧
      ∀ c ∈ rest.head?, isWord c = false := by
  constructor
  · intro h
    simp only [starredName?] at h
    split at h
    · cases h
    · next hne =>
      cases h
      have hstars : List.replicate (input.takeWhile (· == '*')).length '*' =
          input.takeWhile (· == '*') :=
        (List.eq_replicate_of_mem fun c hc =>
          beq_iff_eq.1 (List.mem_takeWhile_imp (p := (· == '*')) hc)).symm
      refine ⟨⟨(input.takeWhile (· == '*')).length, (input.dropWhile (· == '*')).takeWhile isWord,
        by simpa using hne, fun c hc => List.mem_takeWhile_imp hc⟩, ?_, ?_, fun c hc => ?_⟩
      · rw [StarredName.text, hstars]
      · rw [StarredName.text, hstars, List.append_assoc, List.takeWhile_append_dropWhile,
          List.takeWhile_append_dropWhile]
      · have hstop := List.head?_dropWhile_not isWord (input.dropWhile (· == '*'))
        rwa [Option.mem_def.1 hc] at hstop
  · rintro ⟨n, rfl, rfl, hstop⟩
    have hne : n.word.isEmpty = false := by simpa using n.word_ne_nil
    simp only [starredName?, n.takeWhile_star, n.dropWhile_star,
      takeWhile_append_stop n.isWord_of_mem hstop, dropWhile_append_stop n.isWord_of_mem hstop, hne,
      Bool.false_eq_true, if_false]
    rfl

/-! ## Colons -/

theorem afterColon?_eq_some_iff : afterColon? input = some rest ↔
    ∃ blanks, (∀ c ∈ blanks, isBlank c = true) ∧ input = blanks ++ ':' :: rest := by
  have hcolon : isBlank ':' = false := by decide
  constructor
  · intro h
    unfold afterColon? at h
    split at h
    · next tail heq =>
      cases h
      exact ⟨input.takeWhile isBlank, fun c hc => List.mem_takeWhile_imp hc,
        by rw [← heq, trimLeft_append_takeWhile]⟩
    · cases h
  · rintro ⟨blanks, hblanks, rfl⟩
    rw [afterColon?, trimLeft_append hblanks, trimLeft_cons hcolon]
    rfl

/-- The texts that start with a name and a colon. -/
theorem nameAndColon?_eq_some_iff {name : List Char} : nameAndColon? input = some (name, rest) ↔
    ∃ (n : StarredName) (blanks : List Char), n.text = name ∧ (∀ c ∈ blanks, isBlank c = true) ∧
      input = n.text ++ (blanks ++ ':' :: rest) := by
  simp only [nameAndColon?, bind, Option.bind_eq_some_iff, pure, Option.some.injEq, Prod.mk.injEq,
    Prod.exists]
  constructor
  · rintro ⟨name', after, hname, rest', hrest, rfl, rfl⟩
    obtain ⟨n, rfl, rfl, -⟩ := starredName?_eq_some_iff.1 hname
    obtain ⟨blanks, hblanks, rfl⟩ := afterColon?_eq_some_iff.1 hrest
    exact ⟨n, blanks, rfl, hblanks, rfl⟩
  · rintro ⟨n, blanks, rfl, hblanks, rfl⟩
    have hstop : ∀ c ∈ (blanks ++ ':' :: rest).head?, isWord c = false := by
      cases blanks with
      | nil =>
        rintro c ⟨⟩
        decide
      | cons b blanks =>
        rintro c ⟨⟩
        exact not_isWord_of_isBlank (hblanks b (List.mem_cons_self ..))
    exact ⟨n.text, _, starredName?_eq_some_iff.2 ⟨n, rfl, rfl, hstop⟩, rest,
      afterColon?_eq_some_iff.2 ⟨blanks, hblanks, rfl⟩, rfl, rfl⟩

theorem nameAndColon?_eq_none_iff : nameAndColon? input = none ↔
    ¬∃ (n : StarredName) (blanks rest : List Char), (∀ c ∈ blanks, isBlank c = true) ∧
      input = n.text ++ (blanks ++ ':' :: rest) := by
  rw [Option.eq_none_iff_forall_ne_some]
  constructor
  · rintro hnone ⟨n, blanks, rest, hblanks, hinput⟩
    exact hnone _ (nameAndColon?_eq_some_iff.2 ⟨n, blanks, rfl, hblanks, hinput⟩)
  · rintro hplain ⟨name, rest⟩ hsome
    obtain ⟨n, blanks, -, hblanks, hinput⟩ := nameAndColon?_eq_some_iff.1 hsome
    exact hplain ⟨n, blanks, rest, hblanks, hinput⟩

theorem nameAndColon?_eq_none (h : ':' ∉ input) : nameAndColon? input = none := by
  rw [nameAndColon?_eq_none_iff]
  rintro ⟨n, blanks, rest, -, rfl⟩
  simp at h

theorem nameAndColon?_text (n : StarredName) (rest : List Char) :
    nameAndColon? (n.text ++ ':' :: rest) = some (n.text, rest) :=
  nameAndColon?_eq_some_iff.2 ⟨n, [], rfl, by simp, rfl⟩

/-! ## Whole texts -/

/-- A first word counts as a type if a name and a colon come next. -/
theorem ParamParts.named?_word {word : List Char} (hne : word ≠ [])
    (hword : ∀ c ∈ word, isBlank c = false) : named? (' ' :: (word ++ ' ' :: rest)) =
      ((nameAndColon? (trimLeft rest)).map fun found => ⟨word, found.1, found.2⟩).or
        (((nameAndColon? (word ++ ' ' :: rest)).map fun found => ⟨[], found.1, found.2⟩).or
          ((afterColon? (word ++ ' ' :: rest)).map fun comment => ⟨[], [], comment⟩)) := by
  have hspace : isBlank ' ' = true := by decide
  have hfilled : ∀ c ∈ word, (!isBlank c) = true := fun c hc => by rw [hword c hc]; rfl
  have hstop : ∀ c ∈ (' ' :: rest).head?, (!isBlank c) = false := by
    rintro c ⟨⟩
    rfl
  have hstart : trimLeft (' ' :: (word ++ ' ' :: rest)) = word ++ ' ' :: rest := by
    obtain ⟨c, more, rfl⟩ := List.exists_cons_of_ne_nil hne
    rw [trimLeft_cons_blank hspace, List.cons_append,
      trimLeft_cons (hword c (List.mem_cons_self ..))]
  simp only [named?, hstart, takeWhile_append_stop hfilled hstop,
    dropWhile_append_stop hfilled hstop, trimLeft_cons_blank hspace]
  cases nameAndColon? (trimLeft rest) with
  | some found => rfl
  | none => cases nameAndColon? (word ++ ' ' :: rest) <;> rfl

namespace ParamTag

/-- The tag with the given name and comment. -/
def written (n : StarredName) (comment : List Char) (line : Nat) (type : List Char := []) :
    ParamTag :=
  { name := String.ofList n.word, comment := String.ofList (trim comment), line := line
    typeName := String.ofList type }

theorem ofText_of_named {type : List Char} {n : StarredName}
    (h : ParamParts.named? input = some ⟨type, n.text, comment⟩) :
    ofText input line = written n comment line type := by
  have hstars := n.dropWhile_star []
  rw [List.append_nil, List.append_nil] at hstars
  simp only [ofText, ParamParts.ofText, h, Option.getD_some, hstars, written]

/-- A word before a name and a colon is read as a type. -/
theorem ofText_typed {type blanks : List Char} {n : StarredName} (hne : type ≠ [])
    (htype : ∀ c ∈ type, isBlank c = false) (hblanks : ∀ c ∈ blanks, isBlank c = true)
    (hrest : trimLeft rest = n.text ++ (blanks ++ ':' :: comment)) :
    ofText (' ' :: (type ++ ' ' :: rest)) line = written n comment line type := by
  refine ofText_of_named ?_
  rw [ParamParts.named?_word hne htype, hrest,
    nameAndColon?_eq_some_iff.2 ⟨n, blanks, rfl, hblanks, rfl⟩, Option.map_some, Option.some_or]

/-- A name that a colon follows is read as the name, unless its comment starts in
the same way. -/
theorem ofText_untyped (n : StarredName) (h : nameAndColon? (trimLeft comment) = none) :
    ofText (' ' :: (n.text ++ ':' :: ' ' :: comment)) line = written n comment line := by
  have hspaced : written n (' ' :: comment) line = written n comment line := by
    rw [written, trim_cons_blank (by decide)]
    rfl
  rw [← hspaced]
  refine ofText_of_named ?_
  rw [List.append_cons, ParamParts.named?_word n.marked_ne_nil
    (fun c => n.not_isBlank_of_mem_marked), h, ← List.append_cons, nameAndColon?_text,
    Option.map_none, Option.none_or, Option.map_some, Option.some_or]

/-- What was written in a parameter tag is read back. With a type that is always
so. Without one it is so exactly if the comment does not start with a name and a
colon; if it does, then that name is read, and the first one as its type. -/
theorem ofText_written (n : StarredName) (type comment : List Char) (line : Nat) (hne : type ≠ [])
    (htype : ∀ c ∈ type, isBlank c = false) :
    ofText (' ' :: (type ++ ' ' :: (n.text ++ ':' :: ' ' :: comment))) line =
      written n comment line type ∧
    (ofText (' ' :: (n.text ++ ':' :: ' ' :: comment)) line = written n comment line ↔
      ¬∃ (m : StarredName) (blanks more : List Char), (∀ c ∈ blanks, isBlank c = true) ∧
        trimLeft comment = m.text ++ (blanks ++ ':' :: more)) ∧
    ∀ (m : StarredName) (blanks more : List Char), (∀ c ∈ blanks, isBlank c = true) →
      trimLeft comment = m.text ++ (blanks ++ ':' :: more) →
      ofText (' ' :: (n.text ++ ':' :: ' ' :: comment)) line =
        written m more line (n.text ++ [':']) := by
  have hspaced : written n (' ' :: comment) line type = written n comment line type := by
    rw [written, trim_cons_blank (by decide)]
    rfl
  have hmisread : ∀ (m : StarredName) (blanks more : List Char),
      (∀ c ∈ blanks, isBlank c = true) → trimLeft comment = m.text ++ (blanks ++ ':' :: more) →
      ofText (' ' :: (n.text ++ ':' :: ' ' :: comment)) line =
        written m more line (n.text ++ [':']) := by
    intro m blanks more hblanks hcomment
    rw [List.append_cons]
    exact ofText_typed n.marked_ne_nil (fun c => n.not_isBlank_of_mem_marked) hblanks hcomment
  refine ⟨?_, ⟨?_, ?_⟩, hmisread⟩
  · have hstart : trimLeft (n.text ++ ':' :: ' ' :: comment) =
        n.text ++ ([] ++ ':' :: ' ' :: comment) := n.trimLeft_text _
    rw [← hspaced]
    exact ofText_typed hne htype (by simp) hstart
  · rintro hread ⟨m, blanks, more, hblanks, hcomment⟩
    have hsame : written n comment line = written m more line (n.text ++ [':']) :=
      hread.symm.trans (hmisread m blanks more hblanks hcomment)
    exact n.marked_ne_nil (String.ofList_injective (congrArg ParamTag.typeName hsame)).symm
  · exact fun hplain => ofText_untyped n (nameAndColon?_eq_none_iff.2 hplain)

/-- A time to wait, with a type and without one. The colon in its comment does not
matter, for more than one word stands before it. -/
theorem timeout_written :
    ofText " float **timeout: Seconds, e.g. 1: one second. ".toList 2 =
      { name := "timeout", comment := "Seconds, e.g. 1: one second.", line := 2
        typeName := "float" } ∧
    ofText " **timeout: Seconds, e.g. 1: one second. ".toList 2 =
      { name := "timeout", comment := "Seconds, e.g. 1: one second.", line := 2 } := by
  obtain ⟨htyped, huntyped, -⟩ := ofText_written
    ⟨2, "timeout".toList, by decide, List.all_eq_true.1 (by decide)⟩ "float".toList
    "Seconds, e.g. 1: one second. ".toList 2 (by decide)
    fun c hc => Bool.eq_false_iff.2 (List.any_eq_false.1 (by decide) c hc)
  exact ⟨htyped, huntyped.2 (nameAndColon?_eq_none_iff.1 (by decide))⟩

/-- The name is lost if the comment starts with a word and a colon. -/
theorem twoColons_misread :
    ofText " n: foo:bar".toList 0 =
      { name := "foo", comment := "bar", line := 0, typeName := "n:" } ∧
    ofText " n: foo:bar".toList 0 ≠
      written ⟨0, ['n'], by decide, List.all_eq_true.1 (by decide)⟩ "foo:bar".toList 0 := by
  decide

end ParamTag

end DocLint
