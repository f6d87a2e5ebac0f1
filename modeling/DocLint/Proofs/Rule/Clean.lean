import DocLint.Proofs.Comment.Written
import DocLint.Proofs.Rule.Opening

/-!
# A comment in full has no violations

A function whose comment is in the usual form, with the parameters of its
signature in order, passes all checks.

Results:
* `FullComment.WellFormed.findings_eq_nil`: nothing is found about such a comment.
* `check_fullComment`: the verdict on its function, in any token sequence.
-/
namespace DocLint

open Text TokenSequence

namespace WrittenParam

variable {p : WrittenParam}

/-- Nothing is found about the tag of the parameter at its position. -/
theorem WellFormed.findings_eq_nil (h : p.WellFormed) (position number : Nat) :
    (p.shown number).findings position (some p.name) = [] := by
  obtain ⟨c, rest, hcomment, hc, -⟩ := h.comment
  have hname : p.name ≠ "" := fun hname => h.name_ne_nil (by rw [hname]; rfl)
  have hmem : c ∈ trimRight p.comment.toList := mem_trimRight (by simp [hcomment]) hc
  have hblank : isBlankText (p.shown number).comment.toList = false := by
    rw [shown, String.toList_ofList]
    exact isBlankText_of_mem hmem hc
  have hshown : (p.shown number).name = p.name := rfl
  simp [ParamTag.findings, ParamTag.namingFindings, hshown, hname, hblank]

theorem WellFormed.startsUpper (h : p.WellFormed) (number : Nat) :
    startsUpper (trim (p.shown number).comment.toList) = true := by
  obtain ⟨c, rest, hcomment, hc, hlower⟩ := h.comment
  rw [shown, String.toList_ofList, hcomment, trimRight_cons hc, trim_cons hc]
  simp [DocLint.startsUpper, hlower]

end WrittenParam

namespace FullComment

variable {c : FullComment}

def names (c : FullComment) : List String := c.params.map WrittenParam.name

theorem params_getElem? {i : Nat} {tag : ParamTag} (h : c.reading.params[i]? = some tag) :
    ∃ p ∈ c.params, tag = p.shown (3 + i) ∧ c.names[i]? = some p.name := by
  simp only [reading, List.getElem?_map, List.getElem?_zipIdx, Option.map_map,
    Option.map_eq_some_iff, Function.comp_apply] at h
  obtain ⟨p, hp, rfl⟩ := h
  exact ⟨p, List.mem_of_getElem? hp, rfl, by rw [names, List.getElem?_map, hp]; rfl⟩

theorem length_params (c : FullComment) : c.reading.params.length = c.names.length := by
  simp [reading, names]

theorem WellFormed.paramFindings_eq_nil (h : c.WellFormed) (line : Int) :
    c.reading.paramFindings c.names line = [] := by
  have htags : (c.reading.params.zipIdx.flatMap fun tag =>
      tag.1.findings (tag.2 + 1) c.names[tag.2]?) = [] := by
    rw [List.flatMap_eq_nil_iff]
    rintro ⟨tag, i⟩ hmem
    rw [List.mem_zipIdx_iff_getElem?] at hmem
    obtain ⟨p, hp, htag, hname⟩ :=
      params_getElem? (show c.reading.params[i]? = some tag from hmem)
    simp only [hname, htag, (h.params p hp).findings_eq_nil]
  have hmissing : (c.names.filter fun name =>
      !(c.names.take c.reading.params.length).contains name) = [] := by
    rw [length_params, List.take_length, List.filter_eq_nil_iff]
    intro name hname
    simp [hname]
  rw [Reading.paramFindings, htags, hmissing]
  rfl

theorem WellFormed.capitalFindings_eq_nil (h : c.WellFormed) :
    ParamTag.capitalFindings c.reading.params = [] := by
  rw [ParamTag.capitalFindings, List.map_eq_nil_iff, List.filter_eq_nil_iff]
  intro tag htag
  obtain ⟨i, htag⟩ := List.mem_iff_getElem?.1 htag
  obtain ⟨p, hp, rfl, -⟩ := params_getElem? htag
  simp [(h.params p hp).startsUpper]

theorem WellFormed.returnFindings_eq_nil (h : c.WellFormed) (line : Int) :
    c.reading.returnFindings line = [] := by
  obtain ⟨d, hd, hblank, hcolon⟩ := h.returns
  have hmem : d ∈ trim ((trim c.returnText).dropWhile (· == ':')) := by
    refine mem_trim (mem_dropWhile (mem_trim ?_ hblank) (by simpa using hcolon)) hblank
    simp [returnText, mem_trimRight hd hblank]
  have hvalue : isBlankText (ReturnTag.ofText c.returnText (3 + c.params.length)).value.toList =
      false := by
    rw [ReturnTag.ofText, String.toList_ofList]
    exact isBlankText_of_mem hmem hblank
  simp [Reading.returnFindings, reading, hvalue]

/-- Nothing is found about the comment, whatever function it belongs to. -/
theorem WellFormed.findings_eq_nil (h : c.WellFormed) {e : Evidence}
    (hreading : e.reading = c.reading) (hcomment : c.reading.comment = some e.comment)
    (hreal : e.real = c.names) : e.findings = [] := by
  obtain ⟨first, rest, hsummary, hfirst, hlower, -⟩ := h.summary
  have hshown : trimRight c.summary.toList = first :: trimRight rest := by
    rw [hsummary, trimRight_cons hfirst]
  have hdescription : e.comment.descriptionFindings = [] := by
    have hfilled : isBlankText (first :: trimRight rest) = false :=
      isBlankText_of_mem (List.mem_cons_self ..) hfirst
    rw [← Option.some.inj hcomment]
    simp [DocComment.descriptionFindings, hshown, hfilled]
  have hcapital : e.comment.capitalFindings = [] := by
    rw [← Option.some.inj hcomment]
    simp [DocComment.capitalFindings, hshown, startsUpper, hlower]
  have hreturn : e.returnFindings = [] := by
    rw [Evidence.returnFindings, hreading, h.returnFindings_eq_nil]
    simp
  have hparams : e.paramFindings = [] := by
    rw [Evidence.paramFindings, hreading, hreal, h.paramFindings_eq_nil]
  have htags : ParamTag.capitalFindings e.reading.params = [] := by
    rw [hreading, h.capitalFindings_eq_nil]
  rw [Evidence.findings, hdescription, hcapital, hreturn, hparams, htags]
  simp

end FullComment

/-- A function passes all checks if its comment is in the usual form and says
something about each of its parameters, in order, and about nothing else. The
returned value is described in any case. -/
theorem check_fullComment (lexicon : Literal.Lexicon) (s : TokenSequence) (n k : Nat)
    (t d : Token) (names ignored exempt : List String) (c : FullComment)
    (hopen : s.tokens[0]?.any (·.kind == .openTag) = true) (hn : 0 < n)
    (ht : s.tokens[n]? = some t) (hnames : s.parameterNames n = .ok names)
    (hdoc : s.docCommentOf n = .ok (some k)) (hd : s.tokens[k]? = some d)
    (htext : d.text = c.text) (hc : c.WellFormed)
    (hparams : c.names = names.filter fun name => !ignored.contains name) :
    (FunctionRule.mk (docstringReader lexicon) ignored exempt).check s n = .ok [] := by
  have hread : docstringReader lexicon d.text = .ok c.reading := by
    rw [htext, hc.docstringReader_text]
  obtain ⟨comment, hcomment⟩ : ∃ comment, c.reading.comment = some comment := ⟨_, rfl⟩
  have hopened := Opening.ofFunction_of_docComment (docstringReader lexicon) hdoc hd
  simp only [hread, hcomment, Option.isSome_some, if_true] at hopened
  obtain ⟨name, hname⟩ := exists_declaredName ht
  have ha : FunctionRule.IsAnchored s n := isAnchored_of_openTag hopen hn
  have hgives : Subject.Gives ⟨s, n, k, d, c.reading, (get?_natCast s k).trans hd⟩
      ⟨docstringReader lexicon, ignored, exempt⟩
      ⟨c.reading, comment, c.names, exempt.contains name, s.functionReturns t⟩ :=
    { reading := rfl
      comment := hcomment
      real := by
        simp only [FunctionRule.realParams, hnames, hparams, bind, Except.bind, pure, Except.pure]
      exempt := ⟨name, hname, rfl⟩
      returnsValue := ⟨t, get_natCast ht, rfl⟩ }
  have hnil : (⟨c.reading, comment, c.names, exempt.contains name, s.functionReturns t⟩ :
      Evidence).findings = [] := hc.findings_eq_nil rfl hcomment rfl
  refine (FunctionRule.check_opened ha ?_ hgives).trans ?_
  · exact hopened
  · rw [hnil]
    rfl

/-- A comment in full on a function of one parameter. -/
def oneMore : FullComment :=
  { summary := "One more."
    params := [⟨"n", "The number."⟩]
    returns := "the next number"
    indent := 2
    closing := 2 }

/-- `def f(self, n):` with that comment and a returned value as its block. -/
def documentedFile : List Lexeme :=
  [⟨.name, "def", 1, 0⟩, ⟨.name, "f", 1, 4⟩, ⟨.operator, "(", 1, 5⟩, ⟨.name, "self", 1, 6⟩,
    ⟨.operator, ",", 1, 10⟩, ⟨.name, "n", 1, 12⟩, ⟨.operator, ")", 1, 13⟩, ⟨.operator, ":", 1, 14⟩,
    ⟨.newline, "\n", 1, 15⟩, ⟨.indent, "  ", 2, 0⟩, ⟨.string, oneMore.text, 2, 2⟩,
    ⟨.newline, "\n", 7, 5⟩, ⟨.name, "return", 8, 2⟩, ⟨.name, "n", 8, 9⟩, ⟨.newline, "\n", 8, 10⟩,
    ⟨.dedent, "", 9, 0⟩, ⟨.endMarker, "", 9, 0⟩]

theorem oneMore_wellFormed : oneMore.WellFormed where
  summary := ⟨'O', _, rfl, by decide⟩
  summary_plain := List.all_eq_true.1 (by decide)
  params := by
    intro p hp
    obtain rfl := List.mem_singleton.1 hp
    exact ⟨by decide, List.all_eq_true.1 (by decide), ⟨'T', _, rfl, by decide⟩, by decide,
      List.all_eq_true.1 (by decide)⟩
  returns := ⟨'t', by decide⟩
  returns_plain := List.all_eq_true.1 (by decide)

theorem documentedFile_clean :
    (ofLexemes documentedFile).docCommentOf 1 = .ok (some 11) ∧
    (FunctionRule.mk (docstringReader .small) ["self"] []).check (ofLexemes documentedFile) 1 =
      .ok [] := by
  have hdoc : (ofLexemes documentedFile).docCommentOf 1 = .ok (some 11) := by decide
  have ht : (ofLexemes documentedFile).tokens[1]? =
      some ⟨.function, "def", 1, 0, ⟨some 8, some 15, some 3, some 7⟩⟩ := by decide
  have hd : (ofLexemes documentedFile).tokens[11]? =
      some ⟨.docComment, oneMore.text, 2, 2, {}⟩ := by decide
  have hnames : (ofLexemes documentedFile).parameterNames 1 = .ok ["self", "n"] := by decide
  exact ⟨hdoc, check_fullComment .small _ 1 11 _ _ ["self", "n"] ["self"] [] oneMore (by decide)
    (by decide) ht hnames hdoc hd rfl oneMore_wellFormed (by decide)⟩

end DocLint
