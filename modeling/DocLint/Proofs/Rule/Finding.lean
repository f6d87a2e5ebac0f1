import DocLint.Proofs.Steps
import DocLint.Proofs.Text.Template
import DocLint.Rule.FunctionComment.Extended

/-!
# Findings about a doc comment

The checks of a doc comment report violations one by one, and each report could
fail. A `Finding` is what is reported, with as many arguments as its message
takes, so no report of a finding fails. `Evidence` is all that the checks look
at; what they find is a function of it.

Results:
* `Subject.report_finding`: the report of a finding is a violation.
* `checkDescription_findings`, `checkTag_findings`, `checkCapital_findings`,
  `checkParams_findings`, `checkReturn_findings`: the checks in terms of
  findings.
* `FunctionRule.checkBaseline_opened`, `FunctionRule.check_opened`: the verdict
  on a function whose comment has been read.
-/
namespace DocLint

/-! ## Reports -/

/-- A check that fails, and what its violation says. The line is counted from the
first line of the comment. -/
structure Finding where
  check : Check
  args : List String := []
  line : Int
  fits : args.length = check.slots := by rfl

namespace Finding

def message (f : Finding) : String :=
  match Violation.messageOf f.check.template f.args with
  | .ok message => message
  | .error _ => ""

theorem messageOf_eq (f : Finding) :
    Violation.messageOf f.check.template f.args = .ok f.message := by
  obtain ⟨message, h⟩ := f.check.exists_messageOf f.fits
  rw [Finding.message, h]

end Finding

namespace Subject

variable {u : Subject}

/-- The violation that says what was found. -/
def violation (u : Subject) (f : Finding) : Violation :=
  { code := f.check.code
    message := f.message
    tokenIndex := u.commentIndex
    line := u.lineOf f.line
    args := f.args }

theorem report_finding (u : Subject) (f : Finding) :
    u.report f.check f.args (some (u.lineOf f.line)) = .ok (u.violation f) := by
  simp only [report, Check.report, Violation.atToken, TokenSequence.get_eq_ok_iff.2 u.token_eq,
    f.messageOf_eq, bind, Except.bind, pure, Except.pure]
  rfl

/-- A report without a line is about the first line. -/
theorem report_first (u : Subject) (check : Check) (h : 0 = check.slots) :
    u.report check = .ok (u.violation ⟨check, [], 0, h⟩) := by
  rw [← u.report_finding ⟨check, [], 0, h⟩]
  simp only [report, Check.report, Violation.atToken, TokenSequence.get_eq_ok_iff.2 u.token_eq,
    bind, Except.bind, lineOf, Int.add_zero]
  rfl

/-- Reports of checks with their arguments, all of them about one line. -/
theorem mapM_report (u : Subject) (fs : List Finding) (line : Int)
    (h : ∀ f ∈ fs, f.line = line) :
    (fs.map fun f => (f.check, f.args)).mapM
        (fun found => u.report found.1 found.2 (some (u.lineOf line))) =
      .ok (fs.map u.violation) := by
  rw [List.mapM_map]
  refine mapM_eq_ok_map fun f hf => ?_
  rw [← h f hf]
  exact u.report_finding f

end Subject

/-! ## What the checks of the content find -/

def DocComment.descriptionFindings (c : DocComment) : List Finding :=
  if Text.isBlankText c.shortDescription.toList then [{ check := .shortMissing, line := 0 }]
  else
    (if c.line > 1 then [{ check := .spacingBeforeShort, line := c.line }] else []) ++
    (if c.longDescription != "" && c.blankLinesBeforeLong != 1 then
      [{ check := .spacingBetween, line := c.line }] else []) ++
    if c.blankLinesBeforeTags.any (· != 1) then
      [{ check := .spacingBeforeTags, line := c.line }] else []

/-- What is found about the first letter of the description. -/
def DocComment.capitalFindings (c : DocComment) : List Finding :=
  if startsUpper c.content.toList then []
  else [{ check := .commentNotCapitalized, line := c.line }]

namespace ParamTag

/-- What is found about the name of a tag, given the parameter at its position. -/
def namingFindings (position : Nat) (real : Option String) (tag : ParamTag) : List Finding :=
  match real with
  | some real =>
    if tag.name = "" || real = tag.name then []
    else if Text.sameIgnoringCase real tag.name then
      [{ check := .paramNameCaseMismatch, args := [Subject.shownName tag, real, toString position]
         line := tag.line }]
    else
      [{ check := .paramNameMismatch, args := [Subject.shownName tag, real, toString position]
         line := tag.line }]
  | none => [{ check := .paramExtra, args := [toString position], line := tag.line }]

/-- What is found about a tag, given the parameter at its position. -/
def findings (position : Nat) (real : Option String) (tag : ParamTag) : List Finding :=
  namingFindings position real tag ++
  (if tag.name = "" then
    [{ check := .paramNameMissing, args := [toString position], line := tag.line }] else []) ++
  if Text.isBlankText tag.comment.toList then
    [{ check := .paramCommentMissing, args := [Subject.shownName tag, toString position]
       line := tag.line }] else []

/-- The checks of a tag that is there. -/
def checks : List Check :=
  [.paramNameMismatch, .paramNameCaseMismatch, .paramExtra, .paramNameMissing,
    .paramCommentMissing]

section

variable {position : Nat} {real : Option String} {tag : ParamTag} {f : Finding}

/-- What is found about a tag is found by one of its checks, ends with the position
and is about the line of the tag. -/
theorem of_mem_namingFindings (h : f ∈ tag.namingFindings position real) :
    f.check ∈ checks ∧ f.args.getLast? = some (toString position) ∧ f.line = tag.line := by
  cases real with
  | none =>
    obtain rfl := List.mem_singleton.1 h
    exact ⟨by simp [checks], rfl, rfl⟩
  | some real =>
    simp only [namingFindings] at h
    split at h
    · cases h
    · split at h
      · obtain rfl := List.mem_singleton.1 h
        exact ⟨by simp [checks], rfl, rfl⟩
      · obtain rfl := List.mem_singleton.1 h
        exact ⟨by simp [checks], rfl, rfl⟩

theorem of_mem_findings (h : f ∈ tag.findings position real) :
    f.check ∈ checks ∧ f.args.getLast? = some (toString position) ∧ f.line = tag.line := by
  simp only [findings, List.mem_append, List.mem_ite_nil_right, List.mem_singleton] at h
  rcases h with (h | ⟨-, rfl⟩) | ⟨-, rfl⟩
  · exact of_mem_namingFindings h
  · exact ⟨by simp [checks], rfl, rfl⟩
  · exact ⟨by simp [checks], rfl, rfl⟩

theorem line_of_mem_findings (h : f ∈ tag.findings position real) : f.line = tag.line :=
  (of_mem_findings h).2.2

end

/-- What is found about the first letters of the tags' comments. -/
def capitalFindings (params : List ParamTag) : List Finding :=
  (params.filter fun tag => !startsUpper (Text.trim tag.comment.toList)).map fun tag =>
    { check := .paramCommentNotCapitalized, args := [Subject.shownName tag], line := tag.line }

end ParamTag

namespace Subject

variable {u : Subject} {c : DocComment}

theorem comment_eq_ok (hc : u.reading.comment = some c) (member : String) :
    u.comment member = .ok c := by
  rw [comment, hc]

theorem checkDescription_findings (hc : u.reading.comment = some c) :
    u.checkDescription = .ok (c.descriptionFindings.map u.violation) := by
  unfold checkDescription DocComment.descriptionFindings
  simp only [comment_eq_ok hc, bind, Except.bind, pure, Except.pure]
  split
  · rw [u.report_first .shortMissing rfl]
    rfl
  · have h := u.mapM_report
      ((if c.line > 1 then [⟨.spacingBeforeShort, [], c.line, rfl⟩] else []) ++
        (if c.longDescription != "" && c.blankLinesBeforeLong != 1 then
          [⟨.spacingBetween, [], c.line, rfl⟩] else []) ++
        if c.blankLinesBeforeTags.any (· != 1) then [⟨.spacingBeforeTags, [], c.line, rfl⟩] else [])
      c.line (by
        intro f hf
        simp only [List.mem_append] at hf
        rcases hf with (hf | hf) | hf <;> split at hf <;> simp_all)
    rw [← h, List.mapM_map]
    generalize (c.longDescription != "" && c.blankLinesBeforeLong != 1) = between
    generalize c.blankLinesBeforeTags.any (· != 1) = before
    by_cases h1 : c.line > 1 <;> cases between <;> cases before <;> simp [h1]

theorem checkTag_findings (u : Subject) (position : Nat) (real : Option String) (tag : ParamTag) :
    u.checkTag position real tag = .ok ((tag.findings position real).map u.violation) := by
  rw [← u.mapM_report _ tag.line fun f => ParamTag.line_of_mem_findings]
  cases real <;> simp only [checkTag, ParamTag.findings, ParamTag.namingFindings, List.map_append,
    apply_ite (List.map _), List.map_cons, List.map_nil]

theorem checkCapital_findings (hc : u.reading.comment = some c) :
    u.checkCapital = .ok (c.capitalFindings.map u.violation) := by
  unfold checkCapital DocComment.capitalFindings
  simp only [comment_eq_ok hc, bind, Except.bind, pure, Except.pure]
  split
  · rfl
  · rw [u.report_finding ⟨.commentNotCapitalized, [], c.line, rfl⟩]
    rfl

end Subject

/-! ## What all checks of a function find -/

/-- What is found about the parameter tags, given the parameters of the
signature. Without tags the line of the comment counts for those that are
missing. -/
def Reading.paramFindings (reading : Reading) (real : List String) (commentLine : Int) :
    List Finding :=
  (reading.params.zipIdx.flatMap fun tag => tag.1.findings (tag.2 + 1) real[tag.2]?) ++
  (real.filter fun name => !(real.take reading.params.length).contains name).map fun name =>
    { check := .paramTagMissing, args := [name]
      line := (reading.params.getLast?.map ParamTag.line).getD commentLine }

/-- What is found about the tags that there are. -/
def Reading.tagFindings (reading : Reading) (real : List String) : List Finding :=
  reading.params.zipIdx.flatMap fun tag => tag.1.findings (tag.2 + 1) real[tag.2]?

/-- What is found about the parameters after the last tag. -/
def Reading.missingFindings (reading : Reading) (real : List String) (line : Int) : List Finding :=
  (real.drop reading.params.length).map fun name =>
    { check := .paramTagMissing, args := [name]
      line := (reading.params.getLast?.map ParamTag.line).getD line }

def Reading.returnFindings (reading : Reading) (endLine : Int) : List Finding :=
  match reading.returnTag with
  | none => [{ check := .returnMissing, line := endLine }]
  | some tag =>
    if Text.isBlankText tag.value.toList then [{ check := .returnValueMissing, line := tag.line }]
    else []

/-- Whether some return statement in the scope of a function gives a value. -/
def TokenSequence.functionReturns (s : TokenSequence) (function : Token) : Bool :=
  match function.extent.scopeOpener, function.extent.scopeCloser with
  | some opener, some closer => s.returnsValue opener closer
  | _, _ => false

/-- What the checks look at, once the comment of a function has been read. -/
structure Evidence where
  reading : Reading
  comment : DocComment
  /-- The parameters of the signature that need a tag. -/
  real : List String
  /-- Whether the function needs no return tag. -/
  exempt : Bool
  returnsValue : Bool

namespace Evidence

def paramFindings (e : Evidence) : List Finding := e.reading.paramFindings e.real e.comment.line

def returnFindings (e : Evidence) : List Finding :=
  if e.exempt then [] else e.reading.returnFindings e.comment.endLine

def baselineFindings (e : Evidence) : List Finding :=
  e.paramFindings ++ e.returnFindings ++ e.comment.descriptionFindings

def findings (e : Evidence) : List Finding :=
  (if e.comment.inherits then []
    else e.paramFindings ++ ParamTag.capitalFindings e.reading.params) ++
  (if e.comment.inherits then [] else if e.returnsValue then e.returnFindings else []) ++
  e.comment.descriptionFindings ++ e.comment.capitalFindings

end Evidence

/-- The evidence that a rule has about a subject. -/
structure Subject.Gives (u : Subject) (rule : FunctionRule) (e : Evidence) : Prop where
  reading : u.reading = e.reading
  comment : u.reading.comment = some e.comment
  real : rule.realParams u = .ok e.real
  exempt : ∃ name, u.tokens.declaredName u.functionIndex = .ok name ∧
    rule.exemptFunctions.contains name = e.exempt
  returnsValue : ∃ t, u.tokens.get u.functionIndex = .ok t ∧
    u.tokens.functionReturns t = e.returnsValue

namespace FunctionRule

variable {rule : FunctionRule} {u : Subject} {e : Evidence}

/-- The verdict on the parameter tags, for any parameters of the signature. -/
theorem checkParams_eq {c : DocComment} {real : List String} (hc : u.reading.comment = some c)
    (hreal : rule.realParams u = .ok real) :
    rule.checkParams u = .ok ((u.reading.paramFindings real c.line).map u.violation) := by
  have htags : (u.reading.params.zipIdx.mapM fun tag : ParamTag × Nat =>
      u.checkTag (tag.2 + 1) real[tag.2]? tag.1) = .ok (u.reading.params.zipIdx.map fun tag =>
        (tag.1.findings (tag.2 + 1) real[tag.2]?).map u.violation) :=
    mapM_eq_ok_map fun tag _ => u.checkTag_findings _ _ _
  have hmissing : ∀ line, ((real.filter fun name =>
      !(real.take u.reading.params.length).contains name).mapM fun name =>
        u.report .paramTagMissing [name] (some (u.lineOf line))) =
      .ok ((real.filter fun name => !(real.take u.reading.params.length).contains name).map
        fun name => u.violation ⟨.paramTagMissing, [name], line, rfl⟩) := fun line =>
    mapM_eq_ok_map fun name _ => u.report_finding ⟨.paramTagMissing, [name], line, rfl⟩
  unfold checkParams
  simp only [hreal, htags, bind, Except.bind, pure, Except.pure, Reading.paramFindings,
    List.map_append, List.flatMap_def, List.map_flatten, List.map_map]
  cases u.reading.params.getLast? with
  | some tag =>
    simp only [hmissing]
    rfl
  | none =>
    simp only [Subject.comment_eq_ok hc, Except.map, hmissing]
    rfl

theorem checkParams_findings (h : u.Gives rule e) :
    rule.checkParams u = .ok (e.paramFindings.map u.violation) := by
  rw [Evidence.paramFindings, ← h.reading]
  exact checkParams_eq h.comment h.real

/-- The verdict on the return tag, for any name of the function. -/
theorem checkReturn_eq {c : DocComment} {name : String} (hc : u.reading.comment = some c)
    (hname : u.tokens.declaredName u.functionIndex = .ok name) :
    rule.checkReturn u = .ok ((if rule.exemptFunctions.contains name then []
      else u.reading.returnFindings c.endLine).map u.violation) := by
  unfold checkReturn Reading.returnFindings
  simp only [hname, bind, Except.bind, pure, Except.pure]
  split
  · rfl
  · cases u.reading.returnTag with
    | none =>
      simp only [Subject.comment_eq_ok hc,
        u.report_finding ⟨.returnMissing, [], c.endLine, rfl⟩]
      rfl
    | some tag =>
      simp only
      split
      · rw [u.report_finding ⟨.returnValueMissing, [], tag.line, rfl⟩]
        rfl
      · rfl

theorem checkReturn_findings (h : u.Gives rule e) :
    rule.checkReturn u = .ok (e.returnFindings.map u.violation) := by
  obtain ⟨name, hname, hexempt⟩ := h.exempt
  rw [checkReturn_eq h.comment hname, hexempt, h.reading]
  rfl

theorem inherits_eq (h : u.Gives rule e) : u.inherits = .ok e.comment.inherits := by
  rw [Subject.inherits, Subject.comment_eq_ok h.comment]
  rfl

theorem checkParamsFully_findings (h : u.Gives rule e) : rule.checkParamsFully u =
    .ok ((if e.comment.inherits then []
      else e.paramFindings ++ ParamTag.capitalFindings e.reading.params).map u.violation) := by
  have hmore : ((u.reading.params.filter fun tag =>
      !startsUpper (Text.trim tag.comment.toList)).mapM fun tag =>
        u.report .paramCommentNotCapitalized [Subject.shownName tag] (some (u.lineOf tag.line))) =
      .ok ((ParamTag.capitalFindings u.reading.params).map u.violation) := by
    rw [ParamTag.capitalFindings, List.map_map]
    exact mapM_eq_ok_map fun tag _ =>
      u.report_finding ⟨.paramCommentNotCapitalized, [Subject.shownName tag], tag.line, rfl⟩
  unfold checkParamsFully
  simp only [inherits_eq h, bind, Except.bind, pure, Except.pure]
  split
  · rfl
  · simp only [checkParams_findings h, hmore, ← h.reading, List.map_append]

theorem checkReturnFully_findings (h : u.Gives rule e) : rule.checkReturnFully u =
    .ok ((if e.comment.inherits then []
      else if e.returnsValue then e.returnFindings else []).map u.violation) := by
  obtain ⟨t, ht, hreturns⟩ := h.returnsValue
  rw [← hreturns]
  unfold checkReturnFully TokenSequence.functionReturns
  simp only [inherits_eq h, ht, bind, Except.bind, pure, Except.pure]
  split
  · rfl
  · cases t.extent.scopeOpener with
    | none => rfl
    | some opener =>
      cases t.extent.scopeCloser with
      | none => rfl
      | some closer =>
        simp only
        split
        · exact checkReturn_findings h
        · rfl

variable {s : TokenSequence} {i : Int}

/-- The baseline verdict on a function whose comment has been read. -/
theorem checkBaseline_opened (hop : Opening.ofFunction rule.reader s i = .ok (.opened u))
    (h : u.Gives rule e) :
    rule.checkBaseline s i = .ok (e.baselineFindings.map u.violation) := by
  simp only [checkBaseline, runSteps, hop, List.mapM_cons, List.mapM_nil, checkParams_findings h,
    checkReturn_findings h, Subject.checkDescription_findings h.comment, bind, Except.bind, pure,
    Except.pure, Evidence.baselineFindings, List.map_append]
  simp

/-- Whether all checks are made of the function at `i`: something that a comment
can follow stands before it. -/
def IsAnchored (s : TokenSequence) (i : Int) : Prop :=
  (s.findPrevious (.oneOf [.comment, .docComment, .classKeyword, .function, .openTag])
    (i - 1)).isSome

theorem check_eq_runSteps (ha : IsAnchored s i) : rule.check s i = rule.runSteps s i
    [rule.checkParamsFully, rule.checkReturnFully, Subject.checkDescription,
      Subject.checkCapital] := by
  obtain ⟨j, hj⟩ := Option.isSome_iff_exists.1 ha
  simp only [check, hj, Option.isNone_some, Bool.false_eq_true, if_false]

theorem check_of_not_isAnchored (ha : ¬IsAnchored s i) : rule.check s i = .ok [] := by
  unfold IsAnchored at ha
  unfold check
  rw [if_pos (by simpa using ha)]

/-- The verdict on a function whose comment has been read. -/
theorem check_opened (ha : IsAnchored s i)
    (hop : Opening.ofFunction rule.reader s i = .ok (.opened u)) (h : u.Gives rule e) :
    rule.check s i = .ok (e.findings.map u.violation) := by
  rw [check_eq_runSteps ha]
  simp only [runSteps, hop, List.mapM_cons, List.mapM_nil, checkParamsFully_findings h,
    checkReturnFully_findings h, Subject.checkDescription_findings h.comment,
    Subject.checkCapital_findings h.comment, bind, Except.bind, pure, Except.pure,
    Evidence.findings, List.map_append]
  simp

end FunctionRule

end DocLint
