import DocLint.Proofs.Comment.ParamText

/-!
# The two forms of a parameter tag

The text of a parameter tag is in the named form if, after blanks, it starts with a
colon, with a name and a colon, or with a word, blanks, a name and a colon. Every
other text is in the plain form: its first word is the name, and what follows is the
comment. Whatever the form is, the parts hold all of the text but its blanks, and in
the order of the text.

Results:
* `Text.FirstWord`, `Text.firstWord_trimLeft`: the first word of a text.
* `ParamParts.Named`, `ParamParts.isSome_named?_iff`: the texts of the named form, and
  that it is taken for them and for no others.
* `ParamParts.visible_ofText`: no text is lost, in either form.
* `ParamTag.ofText_forms`: what is read from any text.
-/
namespace DocLint

open Text

variable {start text : List Char}

namespace Text

/-! ## Texts without their blanks -/

def visible (text : List Char) : List Char := text.filter fun c => !isBlank c

@[simp] theorem visible_append (s t : List Char) : visible (s ++ t) = visible s ++ visible t :=
  List.filter_append ..

theorem visible_of_blank (h : ∀ c ∈ text, isBlank c = true) : visible text = [] :=
  List.filter_eq_nil_iff.2 fun c hc => by simp [h c hc]

theorem visible_of_no_blank (h : ∀ c ∈ text, isBlank c = false) : visible text = text :=
  List.filter_eq_self.2 fun c hc => by simp [h c hc]

theorem visible_colon (text : List Char) : visible (':' :: text) = ':' :: visible text :=
  List.filter_cons_of_pos (by decide)

theorem visible_trim (text : List Char) : visible (trim text) = visible text := by
  obtain ⟨before, after, htext, hbefore, hafter⟩ := exists_append_trim text
  conv => rhs; rw [htext, visible_append, visible_append, visible_of_blank hbefore,
    visible_of_blank hafter, List.nil_append, List.append_nil]

theorem visible_trimLeft (text : List Char) : visible (trimLeft text) = visible text := by
  rw [← visible_trim, trim_trimLeft, visible_trim]

/-! ## The first word of a text -/

/-- Whether a text has, after blanks, the given first word, and what follows it. The
word is empty only if the text is blank. -/
structure FirstWord (text word after : List Char) : Prop where
  split : ∃ before, (∀ c ∈ before, isBlank c = true) ∧ text = before ++ (word ++ after)
  no_blank : ∀ c ∈ word, isBlank c = false
  ends : ∀ c ∈ after.head?, isBlank c = true
  after_nil : word = [] → after = []

theorem firstWord_trimLeft (text : List Char) : FirstWord text
    ((trimLeft text).takeWhile fun c => !isBlank c)
    ((trimLeft text).dropWhile fun c => !isBlank c) where
  split := ⟨text.takeWhile isBlank, fun c => List.mem_takeWhile_imp, by
    rw [List.takeWhile_append_dropWhile, trimLeft_append_takeWhile]⟩
  no_blank := fun c hc => by simpa using List.mem_takeWhile_imp hc
  ends := fun c hc => by
    have hhead := List.head?_dropWhile_not (fun c => !isBlank c) (trimLeft text)
    rw [Option.mem_def.1 hc] at hhead
    simpa using hhead
  after_nil := fun hword => by
    rcases forall_isBlank_or_exists text with hblank | ⟨before, c, after, rfl, hbefore, hc⟩
    · rw [trimLeft, List.dropWhile_eq_nil_iff.2 hblank]
      rfl
    · rw [trimLeft_append hbefore, trimLeft_cons hc, List.takeWhile_cons_of_pos (by simp [hc])]
        at hword
      cases hword

theorem FirstWord.visible_eq {word after : List Char} (h : FirstWord text word after) :
    visible text = word ++ visible after := by
  obtain ⟨before, hbefore, rfl⟩ := h.split
  rw [visible_append, visible_append, visible_of_blank hbefore, visible_of_no_blank h.no_blank,
    List.nil_append]

end Text

namespace ParamParts

variable {p : ParamParts}

/-! ## The named form -/

/-- The texts of the named form, and their parts. -/
inductive Named : List Char → ParamParts → Prop
  | colon (comment : List Char) : Named (':' :: comment) ⟨[], [], comment⟩
  | name (n : StarredName) (gap comment : List Char) (hgap : ∀ c ∈ gap, isBlank c = true) :
    Named (n.text ++ (gap ++ ':' :: comment)) ⟨[], n.text, comment⟩
  | typed (type between : List Char) (n : StarredName) (gap comment : List Char)
    (htype : type ≠ [] ∧ ∀ c ∈ type, isBlank c = false)
    (hbetween : between ≠ [] ∧ ∀ c ∈ between, isBlank c = true)
    (hgap : ∀ c ∈ gap, isBlank c = true) :
    Named (type ++ (between ++ (n.text ++ (gap ++ ':' :: comment)))) ⟨type, n.text, comment⟩

/-- A first word is a type if a name and a colon come after it. -/
theorem Named.of_firstWord {type after name comment : List Char} (hword : FirstWord text type after)
    (h : nameAndColon? (trimLeft after) = some (name, comment)) :
    Named (type ++ after) ⟨type, name, comment⟩ := by
  obtain ⟨n, gap, rfl, hgap, hname⟩ := nameAndColon?_eq_some_iff.1 h
  have hafter : after ≠ [] := by
    rintro rfl
    exact n.text_ne_nil (List.append_eq_nil_iff.1 hname.symm).1
  have hbetween : after.takeWhile isBlank ≠ [] := by
    obtain ⟨c, more, rfl⟩ := List.exists_cons_of_ne_nil hafter
    rw [List.takeWhile_cons_of_pos (hword.ends c rfl)]
    exact List.cons_ne_nil _ _
  rw [← trimLeft_append_takeWhile after, hname]
  exact .typed type _ n gap comment ⟨mt hword.after_nil hafter, hword.no_blank⟩
    ⟨hbetween, fun c => List.mem_takeWhile_imp⟩ hgap

/-- What is read in the named form is in the named form. -/
theorem named_of_named? (h : named? text = some p) : Named (trimLeft text) p := by
  simp only [named?] at h
  split at h
  · next name comment hname =>
    obtain rfl := Option.some.inj h
    have hnamed := Named.of_firstWord (firstWord_trimLeft text) hname
    rwa [List.takeWhile_append_dropWhile] at hnamed
  · split at h
    · next name comment hname =>
      obtain rfl := Option.some.inj h
      obtain ⟨n, gap, rfl, hgap, hstart⟩ := nameAndColon?_eq_some_iff.1 hname
      rw [hstart]
      exact .name n gap comment hgap
    · obtain ⟨comment, hcomment, rfl⟩ := Option.map_eq_some_iff.1 h
      -- The text was trimmed, so no blanks stand before the colon.
      obtain ⟨blanks, hblanks, hstart⟩ := afterColon?_eq_some_iff.1 hcomment
      have htrimmed : trimLeft (trimLeft text) = trimLeft text := List.dropWhile_idempotent ..
      rw [← htrimmed, hstart, trimLeft_append hblanks, trimLeft_cons (by decide)]
      exact .colon comment

/-- The named form is taken for every text that is in it. -/
theorem isSome_of_named (h : Named (trimLeft text) p) : (named? text).isSome = true := by
  have htyped : ∀ found, nameAndColon?
      (trimLeft ((trimLeft text).dropWhile fun c => !isBlank c)) = some found →
      (named? text).isSome = true := by
    intro found hfound
    simp only [named?, hfound, Option.isSome_some]
  have hname : ∀ found, nameAndColon? (trimLeft text) = some found →
      (named? text).isSome = true := by
    intro found hfound
    simp only [named?, hfound]
    split <;> rfl
  have hcolon : ∀ comment, afterColon? (trimLeft text) = some comment →
      (named? text).isSome = true := by
    intro comment hcomment
    simp only [named?, hcomment]
    split
    · rfl
    · split <;> rfl
  generalize trimLeft text = start at h htyped hname hcolon
  cases h with
  | colon comment =>
    exact hcolon comment (afterColon?_eq_some_iff.2 ⟨[], by simp, rfl⟩)
  | name n gap comment hgap =>
    exact hname _ (nameAndColon?_eq_some_iff.2 ⟨n, gap, rfl, hgap, rfl⟩)
  | typed type between n gap comment htype hbetween hgap =>
    refine htyped (n.text, comment) ?_
    have hstop : ∀ c ∈ (between ++ (n.text ++ (gap ++ ':' :: comment))).head?,
        (!isBlank c) = false := by
      obtain ⟨b, more, rfl⟩ := List.exists_cons_of_ne_nil hbetween.1
      rintro c ⟨⟩
      simp [hbetween.2 b (List.mem_cons_self ..)]
    rw [dropWhile_append_stop (fun c hc => by simp [htype.2 c hc]) hstop,
      trimLeft_append hbetween.2, n.trimLeft_text]
    exact nameAndColon?_eq_some_iff.2 ⟨n, gap, rfl, hgap, rfl⟩

theorem isSome_named?_iff : (named? text).isSome = true ↔ ∃ p, Named (trimLeft text) p := by
  constructor
  · intro h
    obtain ⟨p, hp⟩ := Option.isSome_iff_exists.1 h
    exact ⟨p, named_of_named? hp⟩
  · rintro ⟨p, hp⟩
    exact isSome_of_named hp

/-! ## Nothing is lost -/

theorem Named.visible_eq (h : Named start p) :
    visible start = p.typeName ++ (p.name ++ ':' :: visible p.comment) := by
  cases h with
  | colon comment => exact visible_colon comment
  | name n gap comment hgap =>
    rw [visible_append, visible_append, visible_of_blank hgap, visible_colon,
      visible_of_no_blank fun c => n.not_isBlank_of_mem]
    rfl
  | typed type between n gap comment htype hbetween hgap =>
    rw [visible_append, visible_append, visible_append, visible_append, visible_of_blank hgap,
      visible_of_blank hbetween.2, visible_colon, visible_of_no_blank htype.2,
      visible_of_no_blank fun c => n.not_isBlank_of_mem]
    rfl

/-- The parts of a text hold all of it but its blanks. -/
theorem visible_ofText (text : List Char) : visible text = (ofText text).typeName ++
    ((ofText text).name ++ ((if (named? text).isSome then [':'] else []) ++
      visible (ofText text).comment)) := by
  unfold ofText
  cases h : named? text with
  | none => exact (firstWord_trimLeft text).visible_eq
  | some p => rw [← visible_trimLeft, (named_of_named? h).visible_eq]; rfl

/-- The tag with the given parts. The stars of the name are dropped. -/
def toTag (p : ParamParts) (line : Nat) : ParamTag :=
  { name := String.ofList (p.name.dropWhile (· == '*'))
    comment := String.ofList (trim p.comment)
    line := line
    typeName := String.ofList p.typeName }

/-- What is dropped from a name are the stars before it. -/
theorem exists_stars (p : ParamParts) (line : Nat) : ∃ stars : Nat,
    p.name = List.replicate stars '*' ++ (p.toTag line).name.toList ∧
      (p.toTag line).name.toList.head? ≠ some '*' := by
  refine ⟨(p.name.takeWhile (· == '*')).length, ?_, ?_⟩
  · have hstars : p.name.takeWhile (· == '*') =
        List.replicate (p.name.takeWhile (· == '*')).length '*' :=
      List.eq_replicate_of_mem fun c hc =>
        beq_iff_eq.1 (List.mem_takeWhile_imp (p := (· == '*')) hc)
    rw [← hstars, toTag, String.toList_ofList, List.takeWhile_append_dropWhile]
  · intro hhead
    have hstop := List.head?_dropWhile_not (· == '*') p.name
    rw [toTag, String.toList_ofList] at hhead
    rw [hhead] at hstop
    simp at hstop

end ParamParts

namespace ParamTag

open ParamParts (Named named? toTag)

/-- What is read from a text. The named form is taken exactly if the text, after
blanks, is in it. In the plain form the first word is the name and all that follows
the comment. In both forms the text without its blanks is, in this order: the type,
the stars that are dropped from the name, the name, a colon in the named form only,
and the comment without its blanks. -/
theorem ofText_forms (text : List Char) (line : Nat) :
    ((named? text).isSome = true ↔ ∃ p, Named (trimLeft text) p) ∧
    (∀ p, named? text = some p → Named (trimLeft text) p ∧ ofText text line = toTag p line) ∧
    (named? text = none → ∃ word after, FirstWord text word after ∧
      ofText text line = toTag { typeName := [], name := word, comment := after } line) ∧
    ∃ stars : Nat,
      (ParamParts.ofText text).name = List.replicate stars '*' ++ (ofText text line).name.toList ∧
      (ofText text line).name.toList.head? ≠ some '*' ∧
      visible text = (ofText text line).typeName.toList ++ (List.replicate stars '*' ++
        ((ofText text line).name.toList ++ ((if (named? text).isSome then [':'] else []) ++
          visible (ofText text line).comment.toList))) := by
  have htag : ofText text line = (ParamParts.ofText text).toTag line := rfl
  refine ⟨ParamParts.isSome_named?_iff, ?_, ?_, ?_⟩
  · intro p hp
    refine ⟨ParamParts.named_of_named? hp, ?_⟩
    rw [htag, ParamParts.ofText, hp, Option.getD_some]
  · intro hnone
    refine ⟨_, _, firstWord_trimLeft text, ?_⟩
    rw [htag, ParamParts.ofText, hnone, Option.getD_none]
    rfl
  · obtain ⟨stars, hname, hhead⟩ := (ParamParts.ofText text).exists_stars line
    refine ⟨stars, hname, hhead, ?_⟩
    have hcomment : visible (ofText text line).comment.toList =
        visible (ParamParts.ofText text).comment := by
      rw [htag, toTag, String.toList_ofList, visible_trim]
    have htype : (ofText text line).typeName.toList = (ParamParts.ofText text).typeName :=
      String.toList_ofList
    rw [hcomment, htype, ← List.append_assoc (List.replicate stars '*'), htag, ← hname]
    exact ParamParts.visible_ofText text

/-- A name and a comment with a colon further on, and a type before a name. -/
theorem options_forms :
    (named? " **options Extra settings: see below. ".toList = none ∧
      ∃ word after, FirstWord " **options Extra settings: see below. ".toList word after ∧
        ofText " **options Extra settings: see below. ".toList 3 =
          toTag { typeName := [], name := word, comment := after } 3) ∧
    named? " a:int  *b : c".toList = some ⟨"a:int".toList, "*b".toList, " c".toList⟩ ∧
      Named (trimLeft " a:int  *b : c".toList) ⟨"a:int".toList, "*b".toList, " c".toList⟩ := by
  have hplain : named? " **options Extra settings: see below. ".toList = none := by decide
  have hnamed : named? " a:int  *b : c".toList =
      some ⟨"a:int".toList, "*b".toList, " c".toList⟩ := by decide
  obtain ⟨-, -, hword, -⟩ := ofText_forms " **options Extra settings: see below. ".toList 3
  obtain ⟨-, hparts, -, -⟩ := ofText_forms " a:int  *b : c".toList 3
  exact ⟨⟨hplain, hword hplain⟩, hnamed, (hparts _ hnamed).1⟩

end ParamTag

end DocLint
