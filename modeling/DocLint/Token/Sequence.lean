import DocLint.Fault
import DocLint.Search
import DocLint.Token

/-!
# Token sequences

A `TokenSequence` is the list of the tokens of one file. Tokens are read with
`get`, which refuses every index outside the sequence. The two searches take
any bounds, cut them to the sequence, and answer with a position or nothing.
`findNext` goes forward and leaves out the position at which it stops;
`findPrevious` goes backward and includes it.

Main statements: `get_eq_ok_iff` and `get_isOk_iff`, which say when there is a
token to read.
-/
namespace DocLint

structure TokenSequence where
  tokens : List Token
  deriving DecidableEq, Repr

/-- What a search looks for. -/
inductive KindTest
  /-- A token of one of these classes. -/
  | oneOf (kinds : List TokenKind)
  /-- A token of none of these classes. -/
  | noneOf (kinds : List TokenKind)
  deriving DecidableEq, Repr

/-- Whether a token of the given class is looked for. -/
def KindTest.accepts : KindTest → TokenKind → Bool
  | oneOf kinds, kind => kinds.contains kind
  | noneOf kinds, kind => !kinds.contains kind

namespace TokenSequence

def length (s : TokenSequence) : Nat := s.tokens.length

/-- The token at an index that counts from zero, if there is one. -/
def get? (s : TokenSequence) (index : Int) : Option Token :=
  if 0 ≤ index then s.tokens[index.toNat]? else none

/-- The token at an index that counts from zero. -/
def get (s : TokenSequence) (index : Int) : Except Fault Token :=
  match s.get? index with
  | some token => .ok token
  | none => .error (.tokenOutOfRange index s.length)

/-- The first position from `start` on, and before `stop`, that holds a token
with the property `p`. -/
def findNextBy (s : TokenSequence) (p : Token → Bool) (start : Int)
    (stop : Option Int := none) : Option Nat :=
  let hi := match stop with
    | none => s.length
    | some stop => (min stop s.length).toNat
  firstIn p s.tokens start.toNat hi

/-- The first position from `start` on, and before `stop`, with a token of the
wanted class. -/
def findNext (s : TokenSequence) (test : KindTest) (start : Int) (stop : Option Int := none) :
    Option Nat :=
  s.findNextBy (fun token => test.accepts token.kind) start stop

/-- The last position up to `start`, and not before `stop`, with a token of the
wanted class. -/
def findPrevious (s : TokenSequence) (test : KindTest) (start : Int)
    (stop : Option Int := none) : Option Nat :=
  lastIn (fun token => test.accepts token.kind) s.tokens (stop.getD 0).toNat
    (min (start + 1) s.length).toNat

def indicesOf (s : TokenSequence) (kind : TokenKind) : List Nat :=
  (List.range s.length).filter fun i => s.tokens[i]?.any (·.kind == kind)

/-! ## Small facts -/

@[simp] theorem get?_natCast (s : TokenSequence) (i : Nat) : s.get? i = s.tokens[i]? := by
  simp [get?]

theorem get?_eq_some_iff {s : TokenSequence} {index : Int} {token : Token} :
    s.get? index = some token ↔ 0 ≤ index ∧ s.tokens[index.toNat]? = some token := by
  simp [get?]

theorem get_eq_ok_iff {s : TokenSequence} {index : Int} {token : Token} :
    s.get index = .ok token ↔ s.get? index = some token := by
  unfold get
  cases s.get? index <;> simp

theorem get_isOk_iff {s : TokenSequence} {index : Int} :
    (∃ token, s.get index = .ok token) ↔ 0 ≤ index ∧ index < s.length := by
  simp only [get_eq_ok_iff, get?_eq_some_iff, length]
  constructor
  · rintro ⟨token, h0, h⟩
    have := (List.getElem?_eq_some_iff.1 h).1
    omega
  · rintro ⟨h0, h⟩
    have hlt : index.toNat < s.tokens.length := by omega
    exact ⟨s.tokens[index.toNat], h0, List.getElem?_eq_getElem hlt⟩

end TokenSequence

end DocLint
