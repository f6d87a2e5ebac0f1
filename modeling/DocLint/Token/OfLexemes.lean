import DocLint.Lexeme.Layout
import DocLint.Token.Sequence

/-!
# From lexemes to tokens

`TokenSequence.ofLexemes` makes the token sequence of a file. Lexemes without
width are dropped, and a file in which nothing is kept has the empty sequence.
Any other sequence starts with an open tag, so the kept lexeme number `k`,
counted from zero, is the token at `k + 1`. The tokens of declarations get
their extent, and the documenting strings their class.
-/
namespace DocLint

/-- The position in the token sequence of the kept lexeme at `index`. -/
def place (lexemes : List Lexeme) (index : Nat) : Nat :=
  (lexemes.take index).countP Lexeme.isKept + 1

/-- A layout in terms of the token sequence. -/
def Layout.toExtent (layout : Layout) (lexemes : List Lexeme) : Extent :=
  let placed (index : Nat) : Int := place lexemes index
  { scopeOpener := layout.scopeOpener.map placed
    scopeCloser := layout.scopeCloser.map placed
    parenOpener := layout.parenOpener.map placed
    parenCloser := layout.parenCloser.map placed }

/-- The positions of the declarations among the lexemes. -/
def declarations (lexemes : List Lexeme) : List Nat :=
  (List.range lexemes.length).filter fun i => lexemes[i]?.any Lexeme.isDeclaration

/-- The positions of the strings that document a declaration. -/
def docStrings (lexemes : List Lexeme) : List Nat :=
  (declarations lexemes).filterMap fun i => (Layout.ofDeclaration lexemes i).docString? lexemes

/-- The token of the lexeme at `index`, given the documenting strings. -/
def Lexeme.toToken (lexemes : List Lexeme) (docs : List Nat) (x : Lexeme) (index : Nat) : Token :=
  { kind := if docs.contains index then .docComment else x.kind
    text := x.text
    line := x.line
    column := x.column
    extent :=
      if x.isDeclaration then (Layout.ofDeclaration lexemes index).toExtent lexemes else {} }

namespace TokenSequence

/-- The token at the start of every file that holds anything. -/
def openTag : Token := { kind := .openTag, text := "", line := 1 }

def ofLexemes (lexemes : List Lexeme) : TokenSequence :=
  if lexemes.any Lexeme.isKept then
    let docs := docStrings lexemes
    let kept := lexemes.zipIdx.filter fun x => x.1.isKept
    ⟨openTag :: kept.map fun x => x.1.toToken lexemes docs x.2⟩
  else ⟨[]⟩

end TokenSequence

end DocLint
