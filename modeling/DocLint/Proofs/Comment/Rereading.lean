import DocLint.Proofs.Comment.DescriptionSpan

/-!
# Reading a comment more than once

A reader keeps what it has found. A program may let it read any number of times, and
look at what it has found in between. Parameters are found again each time and add
up, in the reader and in the comment alike; all else is as it was after the first
time. A text that cannot be read leaves the reader as it was made.

Results:
* `Literal.isRefusal_of_readText`: what evaluating a literal can fail with.
* `DocComment.ofLines_tags`: a comment with other tags is the same comment but for
  them.
* `Reader.readLines_repeated`: reading lines once more.
* `Reader.found_run`: what a reader has found after any calls.
-/
namespace DocLint

open Text

/-! ## Literals that cannot be read -/

/-- Whether a fault comes from evaluating a literal: the text is refused, or a value
in it is. -/
def Fault.IsRefusal : Fault → Prop
  | .unreadable _ | .unhashable _ | .wholeTooLarge => True
  | _ => False

variable (lexicon : Literal.Lexicon)

theorem Literal.Refusal.isRefusal_fault (refusal : Refusal) (literal : String) :
    (refusal.fault lexicon literal).IsRefusal := by
  cases refusal <;> trivial

theorem Literal.isRefusal_of_readText {text : String} {fault : Fault}
    (h : readText lexicon text = .error fault) : fault.IsRefusal := by
  unfold readText at h
  cases hshape : Expression.shapeOfText lexicon text.toList with
  | ok shape =>
    rw [hshape] at h
    cases shape with
    | text value => cases h
    | other typeName part =>
      obtain rfl := Except.error.inj h
      trivial
  | error refusal =>
    rw [hshape] at h
    obtain rfl := Except.error.inj h
    exact refusal.isRefusal_fault lexicon text

/-! ## Reading the same lines again -/

/-- A comment with other tags. -/
def DocComment.withTags (c : DocComment) (params : List ParamTag) (returnTag : Option ReturnTag) :
    DocComment :=
  { c with params := params, returnTag := returnTag }

/-- What has been found after a number of readings, by what was found after the first. -/
def Reading.repeated (first : Reading) : Nat → Reading
  | 0 => {}
  | n + 1 =>
    let params := (List.replicate (n + 1) first.params).flatten
    { comment := first.comment.map fun c => c.withTags params first.returnTag
      params := params
      returnTag := first.returnTag }

variable {ls : List (List Char)} {text : String}

/-- The tags are put into a comment as they are. -/
theorem DocComment.ofLines_tags (ls : List (List Char)) (params params' : List ParamTag)
    (returnTag returnTag' : Option ReturnTag) :
    ofLines ls params' returnTag' =
      (ofLines ls params returnTag).map fun c => c.withTags params' returnTag' := by
  rw [ofLines_eq, ofLines_eq]
  split
  · split <;> rfl
  · rfl

theorem Reader.tags_of_readLines (h : (readLines {} ls).comment = none) :
    (readLines {} ls).params = [] ∧ (readLines {} ls).returnTag = none := by
  have hstart : ∀ line ∈ ls, startsTag (trim line) = false := by
    rw [← tagStart_eq_length_iff]
    simp only [readLines, DocComment.ofLines_eq] at h
    split at h
    · split at h
      · cases h
      · exact Nat.le_antisymm (tagStart_le_length ls) (by omega)
    · cases h
  have htags : Tag.ofLines 0 ls = [] := by
    rw [Tag.ofLines_eq, List.map_eq_nil_iff, List.filter_eq_nil_iff]
    intro i hi
    rw [List.mem_range] at hi
    simp [List.getD_eq_getElem?_getD, hi, hstart]
  simp [readLines, htags]

namespace Reading

variable (first : Reading) (n : Nat)

theorem params_repeated : (first.repeated n).params = (List.replicate n first.params).flatten := by
  cases n <;> rfl

theorem returnTag_repeated (hn : 1 ≤ n) : (first.repeated n).returnTag = first.returnTag := by
  cases n with
  | zero => omega
  | succ n => rfl

theorem comment_repeated (hn : 1 ≤ n) : (first.repeated n).comment =
    first.comment.map fun c => c.withTags (first.repeated n).params first.returnTag := by
  cases n with
  | zero => omega
  | succ n => rfl

end Reading

theorem Reader.readLines_repeated (ls : List (List Char)) (n : Nat) :
    readLines ((readLines {} ls).repeated n) ls = (readLines {} ls).repeated (n + 1) := by
  have hparams : (readLines ((readLines {} ls).repeated n) ls).params =
      (List.replicate (n + 1) (readLines {} ls).params).flatten := by
    rw [List.replicate_succ', List.flatten_concat, ← Reading.params_repeated]
    rfl
  have hreturn : (readLines ((readLines {} ls).repeated n) ls).returnTag =
      (readLines {} ls).returnTag := by
    -- The first return tag stays, and without one there is none to be found later.
    cases n with
    | zero => rfl
    | succ n =>
      show (readLines {} ls).returnTag.or _ = _
      simp only [readLines, Option.none_or, Option.or_self]
  have hcomment : (readLines ((readLines {} ls).repeated n) ls).comment =
      (readLines {} ls).comment.map fun c => c.withTags
        (readLines ((readLines {} ls).repeated n) ls).params
        (readLines ((readLines {} ls).repeated n) ls).returnTag :=
    DocComment.ofLines_tags ..
  rw [hparams, hreturn] at hcomment
  generalize readLines ((readLines {} ls).repeated n) ls = later at *
  obtain ⟨comment, params, returnTag⟩ := later
  simp only at hparams hreturn hcomment
  subst hparams hreturn hcomment
  rfl

/-! ## Any calls -/

namespace Reader

/-- What a program can ask of a reader: to read its comment, or for one of the things
that it has found. -/
inductive Call
  | read
  | comment
  | params
  | returnTag
  deriving DecidableEq, Repr

/-- The reader after a call. Asking for what has been found changes nothing. -/
def after (lexicon : Literal.Lexicon) (r : Reader) : Call → Reader
  | .read => (r.attempt lexicon).1
  | .comment | .params | .returnTag => r

def run (lexicon : Literal.Lexicon) (r : Reader) (calls : List Call) : Reader :=
  calls.foldl (after lexicon) r

variable {lexicon : Literal.Lexicon} {r : Reader} {fault : Fault} {value : List Char}

theorem attempt_of_error (h : Literal.readText lexicon r.text = .error fault) :
    r.attempt lexicon = (r, .error fault) := by
  simp only [attempt, read, tokenLines, h, bind, Except.bind]

theorem attempt_of_ok (h : Literal.readText lexicon r.text = .ok value) :
    r.attempt lexicon = ({ r with found := readLines r.found (dedent (lines value)) }, .ok ()) := by
  simp only [attempt, read, tokenLines, h, bind, Except.bind, pure, Except.pure]

theorem run_cons (lexicon : Literal.Lexicon) (r : Reader) (call : Call) (calls : List Call) :
    run lexicon r (call :: calls) = run lexicon (r.after lexicon call) calls := rfl

/-- A text that cannot be read leaves the reader as it is. -/
theorem run_of_error (h : Literal.readText lexicon r.text = .error fault) (calls : List Call) :
    run lexicon r calls = r := by
  induction calls with
  | nil => rfl
  | cons call calls ih =>
    have hcall : r.after lexicon call = r := by
      cases call with
      | read => rw [after, attempt_of_error h]
      | _ => rfl
    rw [run_cons, hcall, ih]

/-- After some calls a reader has found what the readings among them find. -/
theorem run_of_ok (h : Literal.readText lexicon r.text = .ok value) (calls : List Call) (n : Nat)
    (hr : r.found = (readLines {} (dedent (lines value))).repeated n) :
    (run lexicon r calls).text = r.text ∧
      (run lexicon r calls).found =
        (readLines {} (dedent (lines value))).repeated (n + calls.count .read) := by
  induction calls generalizing r n with
  | nil => exact ⟨rfl, hr⟩
  | cons call calls ih =>
    rw [run_cons]
    cases call with
    | read =>
      have hfound : (r.after lexicon .read).found =
          (readLines {} (dedent (lines value))).repeated (n + 1) := by
        rw [after, attempt_of_ok h, hr, readLines_repeated]
      have htext : (r.after lexicon .read).text = r.text := by rw [after, attempt_of_ok h]
      rw [List.count_cons_self, Nat.add_comm (calls.count Call.read), ← Nat.add_assoc, ← htext]
      exact ih (htext ▸ h) (n + 1) hfound
    | _ =>
      rw [List.count_cons_of_ne (by decide)]
      exact ih h n hr

/-- What has been found later, by what was found first: `n` times the parameters, and
all else as it was. -/
structure Repeats (first later : Reading) (n : Nat) : Prop where
  params : later.params = (List.replicate n first.params).flatten
  returnTag : later.returnTag = first.returnTag
  comment : later.comment.map (fun c => { c with params := [] }) =
    first.comment.map (fun c => { c with params := [] })
  /-- The comment has the parameters and the return tag that have been found. -/
  agrees : ∀ c, later.comment = some c →
    c.params = later.params ∧ c.returnTag = later.returnTag
  untagged : later.comment = none → later.params = [] ∧ later.returnTag = none

theorem repeats_repeated (ls : List (List Char)) {n : Nat} (hn : 1 ≤ n) :
    Repeats (readLines {} ls) ((readLines {} ls).repeated n) n := by
  have hone : (readLines {} ls).repeated 1 = readLines {} ls := (readLines_repeated ls 0).symm
  have hfirst := (readLines {} ls).comment_repeated 1 (Nat.le_refl 1)
  have hlater := (readLines {} ls).comment_repeated n hn
  rw [hone] at hfirst
  refine ⟨Reading.params_repeated _ n, Reading.returnTag_repeated _ n hn, ?_, ?_, ?_⟩
  · -- Both comments are the first one with its tags replaced.
    rw [hlater, Option.map_map]
    conv => rhs; rw [hfirst, Option.map_map]
    rfl
  · intro c hc
    rw [hlater, Option.map_eq_some_iff] at hc
    obtain ⟨c, -, rfl⟩ := hc
    exact ⟨rfl, (Reading.returnTag_repeated _ n hn).symm⟩
  · intro hnone
    rw [hlater, Option.map_eq_none_iff] at hnone
    obtain ⟨hparams, hreturn⟩ := tags_of_readLines hnone
    rw [Reading.params_repeated, Reading.returnTag_repeated _ n hn, hparams, hreturn]
    simp

/-- What a reader has found after any calls. A text that cannot be read is refused at
every reading, and then nothing is found. Any other text can be read at every
reading, and with each one the parameters are found again. -/
theorem found_run (lexicon : Literal.Lexicon) (text : String) (calls : List Call) :
    (∀ fault, Literal.readText lexicon text = .error fault → fault.IsRefusal ∧
      ((run lexicon { text := text } calls).attempt lexicon).2 = .error fault ∧
      (run lexicon { text := text } calls).found = {}) ∧
    ∀ value, Literal.readText lexicon text = .ok value →
      ((run lexicon { text := text } calls).attempt lexicon).2 = .ok () ∧
      (calls.count .read = 0 → (run lexicon { text := text } calls).found = {}) ∧
      (1 ≤ calls.count .read → Repeats (run lexicon { text := text } [.read]).found
        (run lexicon { text := text } calls).found (calls.count .read)) := by
  constructor
  · intro fault h
    have hr : Literal.readText lexicon ({ text := text } : Reader).text = .error fault := h
    rw [run_of_error hr, attempt_of_error hr]
    exact ⟨Literal.isRefusal_of_readText lexicon h, rfl, rfl⟩
  · intro value h
    have hr : Literal.readText lexicon ({ text := text } : Reader).text = .ok value := h
    obtain ⟨htext, hfound⟩ := run_of_ok hr calls 0 rfl
    have hfirst := (run_of_ok hr [.read] 0 rfl).2
    rw [Nat.zero_add] at hfound hfirst
    refine ⟨?_, ?_, ?_⟩
    · have htext' : Literal.readText lexicon (run lexicon { text := text } calls).text =
          .ok value := by
        rw [htext]
        exact h
      rw [attempt_of_ok htext']
    · intro hn
      rw [hfound, hn]
      rfl
    · intro hn
      have hone : (run lexicon { text := text } [.read]).found =
          readLines {} (dedent (lines value)) :=
        hfirst.trans (readLines_repeated _ 0).symm
      rw [hfound, hone]
      exact repeats_repeated _ hn

/-- A comment with a tag about a parameter, and nothing else. -/
def taggedLines : List (List Char) := ["@param n: One.".toList]

/-- Read twice, it has the parameter twice, in the reader and in the comment. A name is
no literal, and it is refused again. -/
theorem taggedLines_reread :
    (run .small { text := tripleQuoted taggedLines } [.read, .params, .read]).found.params =
      [⟨"n", "One.", 0, ""⟩, ⟨"n", "One.", 0, ""⟩] ∧
    (∃ c, (run .small { text := tripleQuoted taggedLines } [.read, .params, .read]).found.comment =
      some c ∧ c.params = [⟨"n", "One.", 0, ""⟩, ⟨"n", "One.", 0, ""⟩]) ∧
    ((run .small { text := "notes" } [.read, .comment]).attempt .small).2 =
      .error (.unreadable (.badLiteral "malformed: notes")) ∧
    (run .small { text := "notes" } [.read, .comment]).found = {} := by
  have hall : taggedLines.all (fun l => l.all isPlain) = true := by decide
  have hplain : ∀ l ∈ taggedLines, ∀ c ∈ l, isPlain c = true := fun l hl =>
    List.all_eq_true.1 (List.all_eq_true.1 hall l hl)
  have hread : Literal.readText .small (tripleQuoted taggedLines) =
      .ok (joinWith ['\n'] taggedLines) := readText_triple hplain
  have hlines : lines (joinWith ['\n'] taggedLines) = taggedLines :=
    lines_joinWith (by decide) fun l hl => not_mem_of_isPlain (hplain l hl) (by decide)
  have hbad : Literal.readText .small "notes" =
      .error (.unreadable (.badLiteral "malformed: notes")) := by
    decide +kernel
  have hfirst : (run .small { text := tripleQuoted taggedLines } [.read]).found =
      readLines {} (dedent taggedLines) := by
    rw [run_cons, after, attempt_of_ok (r := { text := tripleQuoted taggedLines }) hread, hlines]
    rfl
  have hrepeats := ((found_run .small (tripleQuoted taggedLines)
    [.read, .params, .read]).2 _ hread).2.2 (by decide)
  have hparams := hrepeats.params
  have hcomment := hrepeats.comment
  rw [hfirst] at hparams hcomment
  have hparams := hparams.trans
    (show _ = [⟨"n", "One.", 0, ""⟩, ⟨"n", "One.", 0, ""⟩] by decide)
  refine ⟨hparams, ?_, ((found_run .small "notes" [.read, .comment]).1 _ hbad).2⟩
  generalize (run .small { text := tripleQuoted taggedLines } [.read, .params, .read]).found =
    later at *
  cases hc : later.comment with
  | none =>
    rw [hc] at hcomment
    cases hcomment
  | some c => exact ⟨c, rfl, (hrepeats.agrees c hc).1.trans hparams⟩

end Reader

end DocLint
