import DocLint.Comment.Reader
import DocLint.Proofs.Literal.Quoted
import DocLint.Proofs.Rule.Finding
import DocLint.Token.OfLexemes
import Mathlib.Data.List.Nodup

/-!
# The verdict on the parameter tags

The tags are compared with the parameters of the signature position by position.
For a signature whose parameters have different names, the verdict says which
tags and which parameters have no counterpart, and which names do not agree.

Results:
* `ParamTag.findings_eq_nil_iff`: when nothing is found about a tag.
* `Reading.paramFindings_eq`: a tag is missing for each parameter after the last
  tag.
* `ParamVerdict`, `FunctionRule.checkParams_verdict`: what a verdict on the
  parameter tags says.
-/
namespace DocLint

open Text

/-! ## Violations by check and position -/

/-- The checks of a tag's name against the parameter at its position. -/
def namingChecks : List Check := [.paramNameMismatch, .paramNameCaseMismatch, .paramNameMissing]

/-- Whether a finding is of one of the checks and about a position. -/
def Finding.isAt (checks : List Check) (position : Nat) (f : Finding) : Bool :=
  checks.contains f.check && f.args.getLast? == some (toString position)

/-- Whether a violation is of one of the checks and about a position. The position
is the last argument of the message. -/
def Violation.isAt (checks : List Check) (position : Nat) (v : Violation) : Bool :=
  (checks.map Check.code).contains v.code && v.args.getLast? == some (toString position)

namespace Subject

variable (u : Subject) (fs : List Finding)

theorem filter_violation (check : Check) :
    ((fs.map u.violation).filter fun v => v.code == check.code) =
      (fs.filter fun f => f.check == check).map u.violation := by
  rw [List.filter_map]
  congr 2
  funext f
  exact Bool.eq_iff_iff.2 (by simpa [violation] using ⟨Check.code_injective, congrArg Check.code⟩)

theorem countP_violation (checks : List Check) (position : Nat) :
    (fs.map u.violation).countP (Violation.isAt checks position) =
      fs.countP (Finding.isAt checks position) := by
  have hcode : ∀ f : Finding, (checks.map Check.code).contains f.check.code =
      checks.contains f.check := fun f => Bool.eq_iff_iff.2 (by
    simpa using ⟨fun ⟨check, hmem, hcode⟩ => Check.code_injective hcode ▸ hmem,
      fun hmem => ⟨_, hmem, rfl⟩⟩)
  rw [List.countP_map]
  congr 1
  funext f
  simp only [Function.comp_apply, Violation.isAt, Finding.isAt, violation, hcode]

end Subject

/-! ## One tag -/

namespace ParamTag

variable {tag : ParamTag} {name : String} {position : Nat}

/-- Nothing is found about a tag that says something about its parameter. -/
theorem findings_eq_nil_iff (hname : name ≠ "") :
    tag.findings position (some name) = [] ↔
      tag.name = name ∧ ∃ c ∈ tag.comment.toList, isBlank c = false := by
  have hblank : isBlankText tag.comment.toList = false ↔
      ∃ c ∈ tag.comment.toList, isBlank c = false := by
    simp [isBlankText]
  rw [← hblank]
  by_cases hempty : tag.name = ""
  · simp [findings, namingFindings, hempty, hname.symm]
  · by_cases hsame : name = tag.name
    · simp [findings, namingFindings, hempty, hsame]
    · have hnaming : tag.namingFindings position (some name) ≠ [] := by
        simp only [namingFindings, hempty, hsame, decide_false, Bool.or_false,
          Bool.false_eq_true, if_false]
        split <;> exact List.cons_ne_nil _ _
      simp [findings, hnaming, Ne.symm hsame]

/-- A tag without a parameter at its position is superfluous, and no other is. -/
theorem filter_extra_findings (tag : ParamTag) (position : Nat) (real : Option String) :
    (tag.findings position real).filter (fun f => f.check == .paramExtra) =
      if real.isNone then [{ check := .paramExtra, args := [toString position], line := tag.line }]
      else [] := by
  have hnaming : ∀ name, (tag.namingFindings position (some name)).filter
      (fun f => f.check == .paramExtra) = [] := fun name => by
    unfold namingFindings
    simp only
    split
    · rfl
    · split <;> rfl
  rw [findings, List.filter_append, List.filter_append]
  cases real with
  | none => split <;> split <;> rfl
  | some name =>
    rw [hnaming]
    split <;> split <;> rfl

/-- The name of a tag is found fault with once, unless it is the parameter's. -/
theorem countP_findings (hname : name ≠ "") (tag : ParamTag) (position : Nat) :
    (tag.findings position (some name)).countP (Finding.isAt namingChecks position) =
      if tag.name = name then 0 else 1 := by
  have hblank : ∀ (blank : Bool) (f : Finding), f.check = .paramCommentMissing →
      (if blank then [f] else []).countP (Finding.isAt namingChecks position) = 0 := by
    intro blank f hcheck
    have hf : f.isAt namingChecks position = false := by
      simp [Finding.isAt, hcheck, namingChecks]
    cases blank <;> simp [hf]
  rw [findings, List.countP_append, hblank _ _ rfl, Nat.add_zero, List.countP_append]
  by_cases hempty : tag.name = ""
  · simp [namingFindings, hempty, hname.symm, Finding.isAt, namingChecks]
  · by_cases hsame : name = tag.name
    · simp [namingFindings, hempty, hsame]
    · simp only [namingFindings, hempty, hsame, Ne.symm hsame, decide_false, Bool.or_false,
        Bool.false_eq_true, if_false, List.countP_nil, Nat.add_zero]
      split <;> simp [Finding.isAt, namingChecks]

/-- A finding about the name of a tag is about the position of the tag. -/
theorem isAt_of_mem_findings {real : Option String} {f : Finding} {p : Nat}
    (hf : f ∈ tag.findings position real) (h : f.isAt namingChecks p = true) : p = position := by
  simp only [Finding.isAt, (of_mem_findings hf).2.1, Bool.and_eq_true, beq_iff_eq,
    Option.some.injEq, Nat.toString_eq_repr] at h
  have hdigits : Nat.toDigits 10 position = Nat.toDigits 10 p := by
    rw [← Nat.toList_repr, h.2, Nat.toList_repr]
  rw [← Nat.ofDigitChars_ten_toDigits (n := p), ← hdigits, Nat.ofDigitChars_ten_toDigits]

end ParamTag

/-! ## All tags -/

/-- Where only one position of a list gives anything, that is all it gives. -/
theorem flatMap_zipIdx_eq {α β : Type} {xs : List α} {x : α} {n p : Nat} {f : α × Nat → List β}
    (hx : xs[p]? = some x) (h : ∀ y i, i ≠ n + p → f (y, i) = []) :
    (xs.zipIdx n).flatMap f = f (x, n + p) := by
  induction xs generalizing n p with
  | nil => cases hx
  | cons y ys ih =>
    rw [List.zipIdx_cons, List.flatMap_cons]
    cases p with
    | zero =>
      obtain rfl := Option.some.inj hx
      have hrest : (ys.zipIdx (n + 1)).flatMap f = [] :=
        List.flatMap_eq_nil_iff.2 fun ⟨z, i⟩ hz => h z i (by
          have := List.le_snd_of_mem_zipIdx hz
          simp only at this
          omega)
      rw [hrest, List.append_nil]
      rfl
    | succ p =>
      rw [h y n (by omega), List.nil_append, ih hx fun z i hi => h z i (by omega)]
      congr 2
      omega

/-- A value for each number from `m` on, counted from one. -/
theorem flatMap_range_of_le {β : Type} (m : Nat) (f : Nat → β) (n : Nat) :
    ((List.range n).flatMap fun i => if m ≤ i then [f (i + 1)] else []) =
      (List.range' (m + 1) (n - m)).map f := by
  induction n with
  | zero => simp
  | succ n ih =>
    rw [List.range_succ, List.flatMap_append, ih, List.flatMap_singleton]
    by_cases h : m ≤ n
    · have hlast : m + 1 + 1 * (n - m) = n + 1 := by omega
      rw [if_pos h, Nat.succ_sub h, List.range'_concat, hlast, List.map_append]
      rfl
    · rw [if_neg h, List.append_nil, show n + 1 - m = n - m by omega]

theorem filter_not_contains_take {α : Type} [DecidableEq α] {xs : List α} (h : xs.Nodup)
    (n : Nat) : (xs.filter fun x => !(xs.take n).contains x) = xs.drop n := by
  have hdisjoint := List.disjoint_of_nodup_append ((List.take_append_drop n xs).symm ▸ h)
  calc (xs.filter fun x => !(xs.take n).contains x)
    _ = ((xs.take n ++ xs.drop n).filter fun x => !(xs.take n).contains x) := by
        rw [List.take_append_drop]
    _ = xs.drop n := by
        rw [List.filter_append, List.filter_eq_nil_iff.2 (by simp),
          List.filter_eq_self.2 (by simpa using fun x hx hmem => hdisjoint hmem hx),
          List.nil_append]

namespace Reading

variable {reading : Reading} {real : List String} {line : Int}

/-- The tags that are missing are those of the parameters after the last tag. -/
theorem paramFindings_eq (hnodup : real.Nodup) (reading : Reading) (line : Int) :
    reading.paramFindings real line =
      reading.tagFindings real ++ reading.missingFindings real line := by
  rw [paramFindings, filter_not_contains_take hnodup]
  rfl

theorem check_of_mem_tagFindings {f : Finding} (h : f ∈ reading.tagFindings real) :
    f.check ∈ ParamTag.checks := by
  obtain ⟨tag, -, hf⟩ := List.mem_flatMap.1 h
  exact (ParamTag.of_mem_findings hf).1

theorem check_of_mem_missingFindings {f : Finding} (h : f ∈ reading.missingFindings real line) :
    f.check = .paramTagMissing := by
  obtain ⟨name, -, rfl⟩ := List.mem_map.1 h
  rfl

theorem args_missingFindings (reading : Reading) (real : List String) (line : Int) :
    (reading.missingFindings real line).map Finding.args =
      (real.drop reading.params.length).map fun name => [name] := by
  rw [missingFindings, List.map_map]
  rfl

/-- Nothing is found about the tags if each of them says something about the
parameter at its position. -/
theorem tagFindings_eq_nil_iff (hfilled : ∀ name ∈ real, name ≠ "") :
    reading.tagFindings real = [] ↔
      ∀ (i : Nat) (tag : ParamTag), reading.params[i]? = some tag →
        real[i]? = some tag.name ∧ ∃ c ∈ tag.comment.toList, isBlank c = false := by
  have htag : ∀ i (tag : ParamTag), tag.findings (i + 1) real[i]? = [] ↔
      real[i]? = some tag.name ∧ ∃ c ∈ tag.comment.toList, isBlank c = false := by
    intro i tag
    cases hname : real[i]? with
    | none => simp [ParamTag.findings, ParamTag.namingFindings]
    | some name =>
      rw [ParamTag.findings_eq_nil_iff (hfilled name (List.mem_of_getElem? hname)),
        Option.some_inj, eq_comm]
  simp only [tagFindings, List.flatMap_eq_nil_iff, Prod.forall, List.mem_zipIdx_iff_getElem?, htag]
  exact forall_comm

/-- Nothing is found about the parameters if the tags are about them in order, and
each tag says something. -/
theorem paramFindings_eq_nil_iff (hfilled : ∀ name ∈ real, name ≠ "") (hnodup : real.Nodup) :
    reading.paramFindings real line = [] ↔ reading.params.map ParamTag.name = real ∧
      ∀ tag ∈ reading.params, ∃ c ∈ tag.comment.toList, isBlank c = false := by
  rw [paramFindings_eq hnodup, List.append_eq_nil_iff, missingFindings, List.map_eq_nil_iff,
    List.drop_eq_nil_iff, tagFindings_eq_nil_iff hfilled]
  constructor
  · rintro ⟨htags, hlength⟩
    refine ⟨List.ext_getElem? fun i => ?_, fun tag htag => ?_⟩
    · rw [List.getElem?_map]
      cases htag : reading.params[i]? with
      | none =>
        have := List.getElem?_eq_none_iff.1 htag
        rw [List.getElem?_eq_none (by omega)]
        rfl
      | some tag => exact (htags i tag htag).1.symm
    · obtain ⟨i, htag⟩ := List.mem_iff_getElem?.1 htag
      exact (htags i tag htag).2
  · rintro ⟨rfl, hcomments⟩
    refine ⟨fun i tag htag => ⟨?_, hcomments tag (List.mem_of_getElem? htag)⟩, ?_⟩
    · rw [List.getElem?_map, htag]
      rfl
    · exact Nat.le_of_eq (List.length_map _)

/-- The superfluous tags are those after the last parameter. -/
theorem args_extra_tagFindings (reading : Reading) (real : List String) :
    ((reading.tagFindings real).filter fun f => f.check == .paramExtra).map Finding.args =
      (List.range' (real.length + 1) (reading.params.length - real.length)).map
        fun position => [toString position] := by
  have hposition : ∀ tag : ParamTag × Nat,
      ((tag.1.findings (tag.2 + 1) real[tag.2]?).filter fun f => f.check == .paramExtra).map
        Finding.args = if real.length ≤ tag.2 then [[toString (tag.2 + 1)]] else [] := by
    intro tag
    rw [ParamTag.filter_extra_findings]
    by_cases h : real.length ≤ tag.2 <;> simp [h]
  rw [tagFindings, List.filter_flatMap, List.map_flatMap]
  simp only [hposition]
  rw [← List.flatMap_map Prod.snd fun i =>
    if real.length ≤ i then [[toString (i + 1)]] else [], List.zipIdx_map_snd,
    ← List.range_eq_range']
  exact flatMap_range_of_le real.length (fun position => [toString position]) _

/-- The name of a tag that has a parameter at its position is found fault with
once, unless it is the parameter's. -/
theorem countP_tagFindings {i : Nat} {tag : ParamTag} {name : String}
    (htag : reading.params[i]? = some tag) (hname : real[i]? = some name) (hfilled : name ≠ "") :
    (reading.tagFindings real).countP (Finding.isAt namingChecks (i + 1)) =
      if tag.name = name then 0 else 1 := by
  have hothers : ∀ (tag : ParamTag) j, j ≠ 0 + i →
      (tag.findings (j + 1) real[j]?).filter (Finding.isAt namingChecks (i + 1)) = [] := by
    intro tag j hj
    rw [List.filter_eq_nil_iff]
    intro f hf h
    have := ParamTag.isAt_of_mem_findings hf h
    omega
  rw [List.countP_eq_length_filter, tagFindings, List.filter_flatMap,
    flatMap_zipIdx_eq htag hothers, ← List.countP_eq_length_filter, Nat.zero_add, hname,
    ParamTag.countP_findings hfilled]

theorem args_extra_paramFindings (hnodup : real.Nodup) (reading : Reading) (line : Int) :
    ((reading.paramFindings real line).filter fun f => f.check == .paramExtra).map Finding.args =
      (List.range' (real.length + 1) (reading.params.length - real.length)).map
        fun position => [toString position] := by
  have hlast : (reading.missingFindings real line).filter (fun f => f.check == .paramExtra) = [] :=
    List.filter_eq_nil_iff.2 fun f hf => by simp [check_of_mem_missingFindings hf]
  rw [paramFindings_eq hnodup, List.filter_append, hlast, List.append_nil, args_extra_tagFindings]

theorem length_lt_of_paramExtra (hnodup : real.Nodup) {f : Finding}
    (hf : f ∈ reading.paramFindings real line) (hcheck : f.check = .paramExtra) :
    real.length < reading.params.length := by
  have hmem : f.args ∈ ((reading.paramFindings real line).filter fun f =>
      f.check == .paramExtra).map Finding.args :=
    List.mem_map_of_mem (List.mem_filter.2 ⟨hf, by simp [hcheck]⟩)
  rw [args_extra_paramFindings hnodup] at hmem
  obtain ⟨position, hposition, -⟩ := List.mem_map.1 hmem
  have := List.mem_range'_1.1 hposition
  omega

theorem length_lt_of_paramTagMissing (hnodup : real.Nodup) {f : Finding}
    (hf : f ∈ reading.paramFindings real line) (hcheck : f.check = .paramTagMissing) :
    reading.params.length < real.length := by
  rw [paramFindings_eq hnodup, List.mem_append] at hf
  rcases hf with hf | hf
  · have := check_of_mem_tagFindings hf
    rw [hcheck] at this
    exact absurd this (by decide)
  · obtain ⟨name, hname, -⟩ := List.mem_map.1 hf
    have := List.length_pos_of_mem hname
    rw [List.length_drop] at this
    omega

end Reading

/-! ## The verdict -/

/-- What a verdict on the parameter tags says, for the parameters of a signature
that need a tag. -/
structure ParamVerdict (real : List String) (tags : List ParamTag) (vs : List Violation) :
    Prop where
  /-- The tags are about the parameters, in order, and each of them says something. -/
  clean : vs = [] ↔ tags.map ParamTag.name = real ∧
    ∀ tag ∈ tags, ∃ c ∈ tag.comment.toList, isBlank c = false
  /-- Each tag after the last parameter is superfluous. -/
  extra : (vs.filter fun v => v.code == Check.paramExtra.code).map Violation.args =
    (List.range' (real.length + 1) (tags.length - real.length)).map
      fun position => [toString position]
  /-- Each parameter after the last tag lacks one, and this is said last. -/
  missing : ∃ tagged untagged, vs = tagged ++ untagged ∧
    (∀ v ∈ tagged, v.code ≠ Check.paramTagMissing.code) ∧
    (∀ v ∈ untagged, v.code = Check.paramTagMissing.code) ∧
    untagged.map Violation.args = (real.drop tags.length).map fun name => [name]
  /-- Never are there too many tags and too few. -/
  apart : ∀ v ∈ vs, ∀ w ∈ vs, v.code = Check.paramExtra.code →
    w.code ≠ Check.paramTagMissing.code
  /-- The name of a tag is found fault with once, unless it is the parameter's. -/
  naming : ∀ i tag name, tags[i]? = some tag → real[i]? = some name →
    vs.countP (Violation.isAt namingChecks (i + 1)) = if tag.name = name then 0 else 1

namespace FunctionRule

variable {rule : FunctionRule} {u : Subject} {c : DocComment} {real : List String}

/-- The verdict on the parameter tags of a function whose parameters have names,
each of them another one. -/
theorem checkParams_verdict (hcomment : u.reading.comment = some c)
    (hreal : rule.realParams u = .ok real) (hfilled : ∀ name ∈ real, name ≠ "")
    (hnodup : real.Nodup) :
    ∃ vs, rule.checkParams u = .ok vs ∧ ParamVerdict real u.reading.params vs := by
  refine ⟨_, checkParams_eq hcomment hreal, ?_⟩
  have hparts := Reading.paramFindings_eq hnodup u.reading c.line
  constructor
  case clean => rw [List.map_eq_nil_iff, Reading.paramFindings_eq_nil_iff hfilled hnodup]
  case extra =>
    rw [u.filter_violation, List.map_map,
      ← Reading.args_extra_paramFindings hnodup u.reading c.line]
    rfl
  case missing =>
    refine ⟨(u.reading.tagFindings real).map u.violation,
      (u.reading.missingFindings real c.line).map u.violation, ?_, ?_, ?_, ?_⟩
    · rw [hparts, List.map_append]
    · simp only [List.forall_mem_map]
      intro f hf hcode
      have := Reading.check_of_mem_tagFindings hf
      rw [Check.code_injective hcode] at this
      exact absurd this (by decide)
    · simp only [List.forall_mem_map]
      exact fun f hf => congrArg Check.code (Reading.check_of_mem_missingFindings hf)
    · rw [← Reading.args_missingFindings u.reading real c.line, List.map_map]
      rfl
  case apart =>
    simp only [List.forall_mem_map]
    intro f hf g hg hfcode hgcode
    have hmore := Reading.length_lt_of_paramExtra hnodup hf (Check.code_injective hfcode)
    have hless := Reading.length_lt_of_paramTagMissing hnodup hg (Check.code_injective hgcode)
    omega
  case naming =>
    intro i tag name htag hname
    have hlast : (u.reading.missingFindings real c.line).countP
        (Finding.isAt namingChecks (i + 1)) = 0 := List.countP_eq_zero.2 fun f hf => by
      simp [Finding.isAt, namingChecks, Reading.check_of_mem_missingFindings hf]
    rw [u.countP_violation, hparts, List.countP_append, hlast, Nat.add_zero,
      Reading.countP_tagFindings htag hname (hfilled name (List.mem_of_getElem? hname))]

end FunctionRule

/-- `def f(self, n, k):` with a doc comment as its block. -/
def taggedFile : List Lexeme :=
  [⟨.name, "def", 1, 0⟩, ⟨.name, "f", 1, 4⟩, ⟨.operator, "(", 1, 5⟩, ⟨.name, "self", 1, 6⟩,
    ⟨.operator, ",", 1, 10⟩, ⟨.name, "n", 1, 12⟩, ⟨.operator, ",", 1, 13⟩, ⟨.name, "k", 1, 15⟩,
    ⟨.operator, ")", 1, 16⟩, ⟨.operator, ":", 1, 17⟩, ⟨.newline, "\n", 1, 18⟩,
    ⟨.indent, "  ", 2, 0⟩,
    ⟨.string, "'''Sum.\n\n@param N: One.\n@param k\n@param : More.'''", 2, 2⟩,
    ⟨.newline, "\n", 6, 17⟩, ⟨.dedent, "", 7, 0⟩, ⟨.endMarker, "", 7, 0⟩]

/-- The function of that file with its comment, which has been read. -/
def taggedSubject : Subject where
  tokens := TokenSequence.ofLexemes taggedFile
  functionIndex := 1
  commentIndex := 13
  token := ⟨.docComment, "'''Sum.\n\n@param N: One.\n@param k\n@param : More.'''", 2, 2, {}⟩
  reading := Reader.readLines {}
    (dedent (lines "Sum.\n\n@param N: One.\n@param k\n@param : More.".toList))
  token_eq := by decide

/-- The first tag has the wrong case, the second says nothing, and the third is
superfluous and has no name. -/
theorem taggedSubject_verdict :
    ∃ vs, (FunctionRule.mk (docstringReader .small) ["self"] []).checkParams taggedSubject = .ok vs ∧
      vs.map Violation.code =
        ["ParamNameNoCaseMatch", "MissingParamComment", "ExtraParamComment", "MissingParamName"] ∧
      ParamVerdict ["n", "k"] taggedSubject.reading.params vs := by
  obtain ⟨c, hcomment⟩ : ∃ c, taggedSubject.reading.comment = some c :=
    Option.isSome_iff_exists.1 (by decide)
  have hreal : (FunctionRule.mk (docstringReader .small) ["self"] []).realParams taggedSubject =
      .ok ["n", "k"] := by decide
  obtain ⟨vs, hvs, hverdict⟩ :=
    FunctionRule.checkParams_verdict hcomment hreal (by decide) (by decide)
  refine ⟨vs, hvs, ?_, hverdict⟩
  rw [FunctionRule.checkParams_eq hcomment hreal] at hvs
  rw [← Except.ok.inj hvs]
  rfl

end DocLint
