import DocLint.Proofs.Comment.DescriptionSpan
import DocLint.Proofs.Literal.Quoted
import DocLint.Proofs.Rule.Inversion
import Mathlib.Data.List.Count
import Mathlib.Data.List.Nodup

/-!
# The shape of a verdict

A verdict on a function never contradicts itself. It is empty, or it is one
violation about the place of the comment, or it is about what the comment says.
In the last case all violations are at the comment, and what can be said once
about a comment is said once.

Results:
* `Evidence.singleFindings_sublist`: the findings that are made once, in order.
* `docstringReader_described`: a short description is missing only if nothing is
  described.
* `check_shape`: the three shapes of a verdict.
-/
namespace DocLint

open Text TokenSequence

/-- The checks that can fail more than once for a comment: those of its parameters. -/
def repeatedChecks : List Check := paramChecks ++ [.paramCommentNotCapitalized]

/-- The checks that are made once for a comment, in the order in which they are made. -/
def singleChecks : List Check := returnChecks ++ descriptionChecks ++ [.commentNotCapitalized]

/-- The checks of a description that there is nothing to say about without one. -/
def describedChecks : List Check :=
  [.spacingBeforeShort, .spacingBetween, .spacingBeforeTags, .commentNotCapitalized]

/-! ## What is found once -/

theorem Finding.map_check_without (checks : List Check) (fs : List Finding) :
    (without checks fs).map check = (fs.map check).filter fun c => !checks.contains c := by
  rw [List.filter_map]
  rfl

namespace Reading

variable {reading : Reading} {line : Int} {f g : Finding}

theorem checks_returnFindings (reading : Reading) (line : Int) :
    (reading.returnFindings line).map Finding.check ∈
      [[], [Check.returnMissing], [Check.returnValueMissing]] := by
  unfold returnFindings
  split
  · simp
  · split
    · simp
    · simp

theorem returnFindings_sublist (reading : Reading) (line : Int) :
    ((reading.returnFindings line).map Finding.check).Sublist returnChecks := by
  have hsub : ∀ checks ∈ [[], [Check.returnMissing], [Check.returnValueMissing]],
      checks.Sublist returnChecks := by decide
  exact hsub _ (checks_returnFindings reading line)

theorem check_eq_of_mem_returnFindings (hf : f ∈ reading.returnFindings line)
    (hg : g ∈ reading.returnFindings line) : f.check = g.check := by
  have hsame : ∀ checks ∈ [[], [Check.returnMissing], [Check.returnValueMissing]],
      ∀ a ∈ checks, ∀ b ∈ checks, a = b := by decide
  exact hsame _ (checks_returnFindings reading line) _ (List.mem_map_of_mem hf) _
    (List.mem_map_of_mem hg)

end Reading

namespace DocComment

variable {c : DocComment} {f : Finding}

theorem descriptionFindings_sublist (c : DocComment) :
    (c.descriptionFindings.map Finding.check).Sublist descriptionChecks := by
  have hone : ∀ (p : Prop) [Decidable p] (check : Check) (f : Finding), f.check = check →
      ((if p then [f] else []).map Finding.check).Sublist [check] := fun p _ check f hcheck => by
    split
    · rw [List.map_singleton, hcheck]
    · exact List.nil_sublist _
  unfold descriptionFindings
  split
  · exact List.singleton_sublist.2 (by decide)
  · rw [List.map_append, List.map_append]
    exact List.Sublist.cons _ (((hone _ .spacingBeforeShort _ rfl).append
      (hone _ .spacingBetween _ rfl)).append (hone _ .spacingBeforeTags _ rfl))

theorem capitalFindings_sublist (c : DocComment) :
    (c.capitalFindings.map Finding.check).Sublist [.commentNotCapitalized] := by
  unfold capitalFindings
  split
  · exact List.nil_sublist _
  · exact List.Sublist.refl _

/-- Where the short description is missing, nothing else is said about it. -/
theorem check_eq_shortMissing (hblank : isBlankText c.shortDescription.toList = true)
    (h : f ∈ c.descriptionFindings) : f.check = .shortMissing := by
  rw [descriptionFindings, if_pos hblank] at h
  rw [List.mem_singleton.1 h]

theorem isBlankText_of_shortMissing (h : f ∈ c.descriptionFindings)
    (hcheck : f.check = .shortMissing) : isBlankText c.shortDescription.toList = true := by
  by_contra hblank
  rw [descriptionFindings, if_neg hblank] at h
  simp only [List.mem_append, List.mem_ite_nil_right, List.mem_singleton] at h
  rcases h with (⟨-, rfl⟩ | ⟨-, rfl⟩) | ⟨-, rfl⟩ <;> cases hcheck

end DocComment

namespace Evidence

open Finding

variable {e : Evidence} {f g : Finding}

/-- What is found once is found in the order of its checks. -/
theorem singleFindings_sublist (e : Evidence) :
    ((without repeatedChecks e.findings).map check).Sublist singleChecks := by
  have hparam : without repeatedChecks e.paramFindings = [] :=
    without_eq_nil fun f hf => List.mem_append_left _ (Reading.check_of_mem_paramFindings hf)
  have htags : without repeatedChecks (ParamTag.capitalFindings e.reading.params) = [] :=
    without_eq_nil fun f hf => by
      obtain ⟨tag, -, rfl⟩ := List.mem_map.1 hf
      exact List.mem_append_right _ (List.mem_singleton.2 rfl)
  have hreturn : ((without repeatedChecks e.returnFindings).map check).Sublist returnChecks := by
    refine (List.filter_sublist.map _).trans ?_
    unfold returnFindings
    split
    · exact List.nil_sublist _
    · exact e.reading.returnFindings_sublist _
  simp only [findings, without_append, apply_ite (without repeatedChecks), without_nil, hparam,
    htags, List.append_nil, ite_self, List.nil_append, List.map_append]
  refine (List.Sublist.append ?_ ?_).append ?_
  · split
    · exact List.nil_sublist _
    · split
      · exact hreturn
      · exact List.nil_sublist _
  · exact (List.filter_sublist.map _).trans e.comment.descriptionFindings_sublist
  · exact (List.filter_sublist.map _).trans e.comment.capitalFindings_sublist

theorem count_check_findings_le_one (e : Evidence) {check : Check} (h : check ∈ singleChecks) :
    (e.findings.map Finding.check).count check ≤ 1 := by
  have hsingle : ∀ check ∈ singleChecks, (!repeatedChecks.contains check) = true := by decide
  have hnodup : singleChecks.Nodup := by decide
  -- Leaving out the other checks does not change how often this one fails.
  rw [← List.count_filter (p := fun c => !repeatedChecks.contains c) (hsingle check h),
    ← map_check_without]
  exact List.nodup_iff_count_le_one.1 (e.singleFindings_sublist.nodup hnodup) check

/-- What is found about the return tag is found by its checks only. -/
theorem mem_returnFindings (h : f ∈ e.findings) (hcheck : f.check ∈ returnChecks) :
    f ∈ e.reading.returnFindings e.comment.endLine := by
  have hparam : ∀ c ∈ returnChecks, c ∉ paramChecks := by decide
  have hdescription : ∀ c ∈ returnChecks, c ∉ descriptionChecks := by decide
  have hcapital : ∀ c ∈ returnChecks, c ∉ capitalChecks := by decide
  rcases mem_findings h with h | h | h | h | h
  · exact absurd (Reading.check_of_mem_paramFindings h) (hparam _ hcheck)
  · exact absurd (ParamTag.check_of_mem_capitalFindings h) (hcapital _ hcheck)
  · unfold returnFindings at h
    split at h
    · cases h
    · exact h
  · exact absurd (DocComment.check_of_mem_descriptionFindings h) (hdescription _ hcheck)
  · exact absurd (DocComment.check_of_mem_capitalFindings h) (hcapital _ hcheck)

/-- What is found about the description is found by its checks only. -/
theorem mem_descriptionFindings (h : f ∈ e.findings) (hcheck : f.check ∈ descriptionChecks) :
    f ∈ e.comment.descriptionFindings := by
  have hparam : ∀ c ∈ descriptionChecks, c ∉ paramChecks := by decide
  have hreturn : ∀ c ∈ descriptionChecks, c ∉ returnChecks := by decide
  have hcapital : ∀ c ∈ descriptionChecks, c ∉ capitalChecks := by decide
  rcases mem_findings h with h | h | h | h | h
  · exact absurd (Reading.check_of_mem_paramFindings h) (hparam _ hcheck)
  · exact absurd (ParamTag.check_of_mem_capitalFindings h) (hcapital _ hcheck)
  · exact absurd (check_of_mem_returnFindings h) (hreturn _ hcheck)
  · exact h
  · exact absurd (DocComment.check_of_mem_capitalFindings h) (hcapital _ hcheck)

theorem mem_capitalFindings (h : f ∈ e.findings) (hcheck : f.check = .commentNotCapitalized) :
    f ∈ e.comment.capitalFindings := by
  rcases mem_findings h with h | h | h | h | h
  · exact absurd (Reading.check_of_mem_paramFindings h) (by rw [hcheck]; decide)
  · obtain ⟨tag, -, rfl⟩ := List.mem_map.1 h
    cases hcheck
  · exact absurd (check_of_mem_returnFindings h) (by rw [hcheck]; decide)
  · exact absurd (DocComment.check_of_mem_descriptionFindings h) (by rw [hcheck]; decide)
  · exact h

end Evidence

/-! ## Missing descriptions -/

theorem Text.mem_joinWith_of_mem {c : Char} {separator line : List Char} {ls : List (List Char)}
    (hline : line ∈ ls) (hc : c ∈ line) : c ∈ joinWith separator ls := by
  induction ls with
  | nil => cases hline
  | cons l ls ih =>
    cases ls with
    | nil =>
      obtain rfl := List.mem_singleton.1 hline
      simpa [joinWith] using hc
    | cons l' ls =>
      rw [joinWith_cons_cons, List.mem_append, List.mem_append]
      rcases List.mem_cons.1 hline with rfl | hline
      · exact .inl hc
      · exact .inr (.inr (ih hline))

/-- A short description has a first line, and that is not blank if the lines are
trimmed. So if it is blank, then nothing is described. -/
theorem DocComment.content_of_isBlankText {ls : List (List Char)} {params : List ParamTag}
    {returnTag : Option ReturnTag} {c : DocComment}
    (h : DocComment.ofLines ls params returnTag = some c)
    (hls : ∀ line ∈ ls, line ≠ [] → isBlankText line = false)
    (hblank : isBlankText c.shortDescription.toList = true) : c.content = "" := by
  rcases ofLines_cases h with ⟨-, -, rfl⟩ | ⟨d, hcuts, rfl⟩
  · rfl
  · obtain ⟨line, hline⟩ := List.exists_mem_of_ne_nil _ hcuts.short
    have hbody : line ∈ d.body := List.mem_append_left _ (List.mem_append_left _ hline)
    have hfilled := hls line (List.mem_of_mem_take (hcuts.mem_of_mem_body hbody))
      (hcuts.short_filled line hline)
    rw [isBlankText, List.all_eq_false] at hfilled
    obtain ⟨b, hb, hnot⟩ := hfilled
    rw [ofDescription, String.toList_ofList, isBlankText, List.all_eq_true] at hblank
    exact absurd (hblank b (mem_joinWith_of_mem hline hb)) hnot

/-- Where the reader of docstrings finds no short description, it finds no
description, and so nothing that starts with a lower-case letter. -/
theorem docstringReader_described {lexicon : Literal.Lexicon} {text : String} {r : Reading}
    {c : DocComment}
    (h : docstringReader lexicon text = .ok r) (hc : r.comment = some c)
    (hblank : isBlankText c.shortDescription.toList = true) : c.capitalFindings = [] := by
  obtain ⟨value, -, rfl⟩ := exists_value_of_docstringReader h
  have hcontent : c.content = "" :=
    DocComment.content_of_isBlankText hc (fun line => isBlankText_of_mem_dedent) hblank
  rw [DocComment.capitalFindings, hcontent]
  rfl

/-! ## The three shapes -/

/-- One violation about the place of the comment of the function at `i`, and
nothing else. -/
inductive AboutPlace (s : TokenSequence) (i : Int) : List Violation → Prop
  | missing (v : Violation) (hcode : v.code = Check.commentMissing.code)
    (hindex : v.tokenIndex = i) : AboutPlace s i [v]
  | wrongStyle (v : Violation) (j : Nat) (hcode : v.code = Check.commentWrongStyle.code)
    (hbody : s.firstBodyToken i = .ok (some j))
    (hkind : s.tokens[j]?.any (·.kind == .comment) = true) (hindex : v.tokenIndex = j) :
    AboutPlace s i [v]
  | unreadable (v : Violation) (j : Nat) (hcode : v.code = Check.commentUnreadable.code)
    (hdoc : s.docCommentOf i = .ok (some j)) (hindex : v.tokenIndex = j) : AboutPlace s i [v]
  | empty (v : Violation) (j : Nat) (hcode : v.code = Check.commentEmpty.code)
    (hdoc : s.docCommentOf i = .ok (some j)) (hindex : v.tokenIndex = j) : AboutPlace s i [v]

/-- Violations about what the comment of the function at `i` says. -/
structure AboutContent (s : TokenSequence) (i : Int) (vs : List Violation) : Prop where
  ne_nil : vs ≠ []
  anchored : ∃ j : Nat, s.docCommentOf i = .ok (some j) ∧ ∀ v ∈ vs, v.tokenIndex = j
  /-- There is a comment, and it was read. -/
  opened : ∀ v ∈ vs, ∀ check ∈ openingChecks, v.code ≠ check.code
  once : ∀ check ∈ singleChecks, (vs.map Violation.code).count check.code ≤ 1
  /-- A return tag that is missing does not lack its value. -/
  returns : ∀ v ∈ vs, ∀ w ∈ vs, v.code = Check.returnMissing.code →
    w.code ≠ Check.returnValueMissing.code
  /-- Nothing is said about a description that is missing. -/
  described : ∀ v ∈ vs, ∀ w ∈ vs, v.code = Check.shortMissing.code →
    ∀ check ∈ describedChecks, w.code ≠ check.code

variable {lexicon : Literal.Lexicon} {s : TokenSequence} {i : Int} {vs : List Violation}

theorem AboutPlace.exists_code (h : AboutPlace s i vs) :
    ∃ v ∈ vs, ∃ check ∈ openingChecks, v.code = check.code := by
  cases h with
  | missing v hcode => exact ⟨v, by simp, _, by decide, hcode⟩
  | wrongStyle v j hcode => exact ⟨v, by simp, _, by decide, hcode⟩
  | unreadable v j hcode => exact ⟨v, by simp, _, by decide, hcode⟩
  | empty v j hcode => exact ⟨v, by simp, _, by decide, hcode⟩

theorem Check.place_of_report {check : Check} {args : List String} {v : Violation}
    (h : check.report s i args = .ok v) : v.code = check.code ∧ v.tokenIndex = i := by
  obtain ⟨t, message, -, -, rfl⟩ := exists_of_report h
  exact ⟨rfl, rfl⟩

/-- If there is nothing to check further, that is because of the place of the comment. -/
theorem Opening.Found.aboutPlace {reader : CommentReader}
    (h : Opening.Found reader s i (.closed vs)) : vs = [] ∨ AboutPlace s i vs := by
  cases h with
  | bodiless => exact .inl rfl
  | missing v h =>
    obtain ⟨hcode, hindex⟩ := Check.place_of_report h
    exact .inr (.missing v hcode hindex)
  | wrongStyle v j hbody hkind h =>
    obtain ⟨hcode, hindex⟩ := Check.place_of_report h
    exact .inr (.wrongStyle v j hcode hbody hkind hindex)
  | unreadable v j hdoc reason h =>
    obtain ⟨hcode, hindex⟩ := Check.place_of_report h
    exact .inr (.unreadable v j hcode hdoc hindex)
  | empty v j hdoc h =>
    obtain ⟨hcode, hindex⟩ := Check.place_of_report h
    exact .inr (.empty v j hcode hdoc hindex)

theorem Subject.exists_finding {u : Subject} {fs : List Finding} {v : Violation} {check : Check}
    (hv : v ∈ fs.map u.violation) (hcode : v.code = check.code) :
    ∃ f ∈ fs, f.check = check := by
  obtain ⟨f, hf, rfl⟩ := List.mem_map.1 hv
  exact ⟨f, hf, Check.code_injective hcode⟩

/-- What is found about a comment that was read is about its content. -/
theorem Evidence.aboutContent {e : Evidence} {u : Subject} {j : Nat} (hne : e.findings ≠ [])
    (hdoc : s.docCommentOf i = .ok (some j)) (hcomment : u.commentIndex = j)
    (hread : docstringReader lexicon u.token.text = .ok e.reading)
    (hc : e.reading.comment = some e.comment) :
    AboutContent s i (e.findings.map u.violation) where
  ne_nil := by simpa using hne
  anchored := ⟨j, hdoc, fun v hv => by
    obtain ⟨f, -, rfl⟩ := List.mem_map.1 hv
    exact hcomment⟩
  opened := fun v hv check hcheck hcode => by
    have hother : ∀ check ∈ openingChecks, check ∉ contentChecks := by decide
    obtain ⟨f, hf, rfl⟩ := Subject.exists_finding hv hcode
    exact hother _ hcheck (check_of_mem_findings hf)
  once := fun check hcheck => by
    have hcodes : (e.findings.map u.violation).map Violation.code =
        (e.findings.map Finding.check).map Check.code := by
      rw [List.map_map, List.map_map]
      rfl
    rw [hcodes, List.count_map_of_injective _ _ fun a b => Check.code_injective]
    exact e.count_check_findings_le_one hcheck
  returns := fun v hv w hw hvcode hwcode => by
    obtain ⟨f, hf, hfcheck⟩ := Subject.exists_finding hv hvcode
    obtain ⟨g, hg, hgcheck⟩ := Subject.exists_finding hw hwcode
    have hsame := Reading.check_eq_of_mem_returnFindings
      (mem_returnFindings hf (by rw [hfcheck]; decide))
      (mem_returnFindings hg (by rw [hgcheck]; decide))
    rw [hfcheck, hgcheck] at hsame
    cases hsame
  described := fun v hv w hw hvcode check hcheck hwcode => by
    obtain ⟨f, hf, hfcheck⟩ := Subject.exists_finding hv hvcode
    obtain ⟨g, hg, rfl⟩ := Subject.exists_finding hw hwcode
    have hblank := DocComment.isBlankText_of_shortMissing
      (mem_descriptionFindings hf (by rw [hfcheck]; decide)) hfcheck
    by_cases hcapital : g.check = .commentNotCapitalized
    · have hnil := docstringReader_described hread hc hblank
      exact List.not_mem_nil (hnil ▸ mem_capitalFindings hg hcapital)
    · have hdescription : ∀ check ∈ describedChecks, check ≠ .commentNotCapitalized →
          check ∈ descriptionChecks ∧ check ≠ .shortMissing := by decide
      obtain ⟨hmem, hshort⟩ := hdescription _ hcheck hcapital
      exact hshort (DocComment.check_eq_shortMissing hblank (mem_descriptionFindings hg hmem))

/-- A verdict on a function has one of three shapes: it is empty, or it is about
the place of the comment, or it is about its content. -/
theorem check_shape (s : TokenSequence) (ignored exempt : List String) (i : Int)
    (vs : List Violation)
    (h : (FunctionRule.mk (docstringReader lexicon) ignored exempt).check s i = .ok vs) :
    (vs = [] ∨ AboutPlace s i vs ∨ AboutContent s i vs) ∧
    ¬(vs = [] ∧ AboutPlace s i vs) ∧ ¬(vs = [] ∧ AboutContent s i vs) ∧
    ¬(AboutPlace s i vs ∧ AboutContent s i vs) := by
  refine ⟨?_, fun ⟨hnil, hplace⟩ => ?_, fun ⟨hnil, hcontent⟩ => hcontent.ne_nil hnil,
    fun ⟨hplace, hcontent⟩ => ?_⟩
  · by_cases ha : FunctionRule.IsAnchored s i
    · have hsteps := h
      rw [FunctionRule.check_eq_runSteps ha] at hsteps
      obtain ⟨opening, hop, -⟩ := exists_of_bind hsteps
      cases opening with
      | closed ws =>
        rw [FunctionRule.runSteps_closed hop, Except.ok.injEq] at hsteps
        exact (hsteps ▸ (Opening.found hop).aboutPlace).imp_right .inl
      | opened u =>
        cases Opening.found hop with
        | opened _ n j t hindex ht hdoc hcomment hread =>
          subst hindex
          obtain ⟨e, hreading, hc, rfl⟩ := FunctionRule.exists_findings ha ht hop hread h
          by_cases hne : e.findings = []
          · exact .inl (by rw [hne]; rfl)
          · exact .inr (.inr (Evidence.aboutContent hne hdoc hcomment (hreading ▸ hread.reading)
              (hreading ▸ hc)))
    · rw [FunctionRule.check_of_not_isAnchored ha, Except.ok.injEq] at h
      exact .inl h.symm
  · obtain ⟨v, hv, -⟩ := hplace.exists_code
    rw [hnil] at hv
    cases hv
  · obtain ⟨v, hv, check, hcheck, hcode⟩ := hplace.exists_code
    exact hcontent.opened v hv check hcheck hcode

/-- The verdict on the small file is about the content of its comment. -/
theorem smallFile_shape : ∃ v,
    (FunctionRule.mk (docstringReader .small) [] []).check (ofLexemes smallFile) 1 = .ok [v] ∧
    AboutContent (ofLexemes smallFile) 1 [v] := by
  have hcheck := check_smallFile .small
  refine ⟨_, hcheck, ?_⟩
  obtain hnil | hplace | hcontent := (check_shape _ [] [] 1 _ hcheck).1
  · cases hnil
  · cases hplace with
    | missing v hcode => exact absurd hcode (by decide)
    | wrongStyle v j hcode => exact absurd hcode (by decide)
    | unreadable v j hcode => exact absurd hcode (by decide)
    | empty v j hcode => exact absurd hcode (by decide)
  · exact hcontent

end DocLint
