import DocLint.Literal.Expression
import DocLint.Literal.Parameter

/-!
# Reading an expression from symbols

The grammar of expressions. An expression is a function expression, or a choice
between two, or operands with operators between them; `operatorLevel?` tells how
tight an operator binds, from 1 for the loosest to 10, and all of them group to
the left. Signs bind tighter, and a power tighter than a sign before it.

Each reader takes the symbols from the start of what it reads and gives the
symbols that are left. The first argument bounds how deep readers call each
other. On the way from one symbol to the next there are fewer than sixteen of
them, which is what `Expression.ofSymbols?` allows for.
-/
namespace DocLint.Literal

/-- The level of the operator at the start of some symbols, and what follows. -/
def operatorLevel? : List Symbol → Option (Nat × List Symbol)
  | .keyword .orWord :: rest => some (1, rest)
  | .keyword .andWord :: rest => some (2, rest)
  | .keyword .notWord :: .keyword .inWord :: rest => some (4, rest)
  | .keyword .inWord :: rest => some (4, rest)
  | .keyword .isWord :: .keyword .notWord :: rest => some (4, rest)
  | .keyword .isWord :: rest => some (4, rest)
  | .mark .comparison :: rest => some (4, rest)
  | .mark .bitOr :: rest => some (5, rest)
  | .mark .bitXor :: rest => some (6, rest)
  | .mark .bitAnd :: rest => some (7, rest)
  | .mark .shift :: rest => some (8, rest)
  | .mark .plus :: rest => some (9, rest)
  | .mark .minus :: rest => some (9, rest)
  | .mark .star :: rest => some (10, rest)
  | .mark .slash :: rest => some (10, rest)
  | .mark .product :: rest => some (10, rest)
  | _ => none

/-- The level of the parts of a choice, of what a loop goes through, and of its
conditions. -/
def choiceLevel : Nat := 1

/-- The level of what is negated. -/
def negationLevel : Nat := 3

/-- The level of what is starred in a collection. -/
def starredLevel : Nat := 5

/-- The level of what a sign stands before, and of an exponent. -/
def signLevel : Nat := 11

/-- Two operands with an operator of a level between them. -/
def Expression.ofOperator (level : Nat) (left right : Expression) : Expression :=
  if level = 9 then .sum left right else .other

def Mark.isSign (mark : Mark) : Bool := mark = .plus || mark = .minus || mark = .tilde

/-- The leading quotations of some symbols, and the rest. -/
def splitQuotations : List Symbol → List Quotation × List Symbol
  | .quotation value :: rest =>
    let (values, after) := splitQuotations rest
    (value :: values, after)
  | rest => ([], rest)

/-- Whether a list of items ends here. -/
def atClose : List Symbol → Bool
  | [] => true
  | .mark (.closing _) :: _ => true
  | _ => false

/-- Whether an assignment inside an expression starts here. -/
def atWalrus : List Symbol → Bool
  | .name _ :: .mark .walrus :: _ => true
  | _ => false

/-- Whether a part of a slice is left out here. -/
def atOmitted : List Symbol → Bool
  | .mark .colon :: _ => true
  | .mark .comma :: _ => true
  | rest => atClose rest

/-- What follows the start of a loop, if one starts here. -/
def loopStart? : List Symbol → Option (List Symbol)
  | .keyword .forWord :: rest => some rest
  | .keyword .asyncWord :: .keyword .forWord :: rest => some rest
  | _ => none

/-- What follows a symbol that has to come. -/
def after? (symbol : Symbol) : List Symbol → Option (List Symbol)
  | first :: rest => if first = symbol then some rest else none
  | [] => none

/-- What follows a closing bracket that has to come. -/
def close? (bracket : Bracket) : List Symbol → Option (List Symbol) :=
  after? (.mark (.closing bracket))

/-- What has come in a list of arguments: nothing, arguments by position,
arguments by name, or arguments from a table. Each rules out the ones before. -/
inductive ArgumentPlace
  | start
  | positional
  | named
  | doubled
  deriving DecidableEq, Repr

mutual

def readExpression : Nat → List Symbol → Option (Expression × List Symbol)
  | 0, _ => none
  | fuel + 1, symbols =>
    match symbols with
    | .keyword .lambdaWord :: rest => do
      let rest ← readParameters fuel .start rest
      let (_, rest) ← readExpression fuel rest
      return (.other, rest)
    | _ => do
      let (left, rest) ← readOperands fuel choiceLevel symbols
      match rest with
      | .keyword .ifWord :: rest =>
        let (_, rest) ← readOperands fuel choiceLevel rest
        let rest ← after? (.keyword .elseWord) rest
        let (_, rest) ← readExpression fuel rest
        return (.other, rest)
      | _ => return (left, rest)

/-- Reads operands with operators of a level or tighter ones between them. -/
def readOperands : Nat → Nat → List Symbol → Option (Expression × List Symbol)
  | 0, _, _ => none
  | fuel + 1, level, symbols => do
    let (left, rest) ← readOperand fuel level symbols
    readOperators fuel level left rest

def readOperators : Nat → Nat → Expression → List Symbol → Option (Expression × List Symbol)
  | 0, _, _, _ => none
  | fuel + 1, level, left, symbols =>
    match operatorLevel? symbols with
    | some (tightness, rest) =>
      if level ≤ tightness then do
        let (right, rest) ← readOperands fuel (tightness + 1) rest
        readOperators fuel level (.ofOperator tightness left right) rest
      else some (left, symbols)
    | none => some (left, symbols)

/-- Reads an operand: a negation where the level allows it, a sign and what it
stands before, or a power. -/
def readOperand : Nat → Nat → List Symbol → Option (Expression × List Symbol)
  | 0, _, _ => none
  | fuel + 1, level, symbols =>
    match symbols with
    | .keyword .notWord :: rest =>
      if level ≤ negationLevel then do
        let (_, rest) ← readOperands fuel negationLevel rest
        return (.other, rest)
      else none
    | .mark mark :: rest =>
      if mark.isSign then do
        let (operand, rest) ← readOperands fuel signLevel rest
        return (.ofSign mark operand, rest)
      else readPower fuel symbols
    | _ => readPower fuel symbols

/-- Reads an operand without a sign, perhaps to the power of one with a sign. -/
def readPower : Nat → List Symbol → Option (Expression × List Symbol)
  | 0, _ => none
  | fuel + 1, symbols => do
    let (base, rest) ← match symbols with
      | .keyword .awaitWord :: rest => (readPrimary fuel rest).map fun r => (Expression.other, r.2)
      | _ => readPrimary fuel symbols
    match rest with
    | .mark .doubleStar :: rest =>
      let (_, rest) ← readOperands fuel signLevel rest
      return (.other, rest)
    | _ => return (base, rest)

/-- Reads an atom with the members, calls and items after it. -/
def readPrimary : Nat → List Symbol → Option (Expression × List Symbol)
  | 0, _ => none
  | fuel + 1, symbols => do
    let (atom, rest) ← readAtom fuel symbols
    readTrailers fuel atom rest

def readTrailers : Nat → Expression → List Symbol → Option (Expression × List Symbol)
  | 0, _, _ => none
  | fuel + 1, value, symbols =>
    match symbols with
    | .mark .dot :: .name _ :: rest => readTrailers fuel .place rest
    | .mark (.opening .round) :: .mark (.closing .round) :: rest =>
      readTrailers fuel value.called rest
    | .mark (.opening .round) :: rest => do
      let rest ← readArguments fuel .start rest
      readTrailers fuel .other rest
    | .mark (.opening .square) :: rest => do
      let rest ← readSlices fuel rest
      readTrailers fuel .place rest
    | _ => some (value, symbols)

/-- Reads a constant, a name or something in brackets. -/
def readAtom : Nat → List Symbol → Option (Expression × List Symbol)
  | 0, _ => none
  | fuel + 1, symbols =>
    match symbols with
    | .quotation value :: rest => do
      let (values, rest) := splitQuotations rest
      return (← Expression.ofQuotations (value :: values), rest)
    | .number value :: rest => some (.number value, rest)
    | .constant typeName :: rest => some (.constant typeName, rest)
    | .name spelling :: rest => some (.name spelling, rest)
    | .mark (.opening .round) :: rest => readRound fuel rest
    | .mark (.opening .square) :: rest => readSquare fuel rest
    | .mark (.opening .curly) :: rest => readCurly fuel rest
    | _ => none

/-- Reads on after a round bracket: a group, a tuple or a generator. -/
def readRound : Nat → List Symbol → Option (Expression × List Symbol)
  | 0, _ => none
  | fuel + 1, symbols =>
    match symbols with
    | .mark (.closing .round) :: rest => some (.tuple [], rest)
    | .keyword .yieldWord :: rest => do
      let rest ← close? .round (← readYield fuel rest)
      return (.other, rest)
    | _ => do
      let (first, rest) ← readItem fuel symbols
      match rest with
      | .mark .comma :: rest =>
        let (items, rest) ← readItems fuel rest
        return (.tuple (first :: items), ← close? .round rest)
      | _ =>
        if first.isStarred then none
        else
          match loopStart? rest with
          | some rest => return (.other, ← close? .round (← readLoop fuel rest))
          | none => return (first, ← close? .round rest)

/-- Reads on after a square bracket: a list, written out or made by a loop. -/
def readSquare : Nat → List Symbol → Option (Expression × List Symbol)
  | 0, _ => none
  | fuel + 1, symbols =>
    match symbols with
    | .mark (.closing .square) :: rest => some (.list [], rest)
    | _ => do
      let (first, rest) ← readItem fuel symbols
      match loopStart? rest with
      | some rest =>
        if first.isStarred then none
        else return (.other, ← close? .square (← readLoop fuel rest))
      | none =>
        let (items, rest) ← readMoreItems fuel rest
        return (.list (first :: items), ← close? .square rest)

/-- Reads on after a curly bracket: a set or a table, written out or made by a
loop. The first item tells which. -/
def readCurly : Nat → List Symbol → Option (Expression × List Symbol)
  | 0, _ => none
  | fuel + 1, symbols =>
    match symbols with
    | .mark (.closing .curly) :: rest => some (.dict [], rest)
    | .mark .doubleStar :: _ => do
      let (entries, rest) ← readEntries fuel symbols
      return (.dict entries, ← close? .curly rest)
    | _ => do
      let (first, rest) ← readItem fuel symbols
      match rest with
      | .mark .colon :: rest =>
        if first.isStarred || atWalrus symbols then none
        else
          let (value, rest) ← readExpression fuel rest
          match loopStart? rest with
          | some rest => return (.other, ← close? .curly (← readLoop fuel rest))
          | none =>
            let (entries, rest) ← readMoreEntries fuel rest
            return (.dict ((first, value) :: entries), ← close? .curly rest)
      | _ =>
        match loopStart? rest with
        | some rest =>
          if first.isStarred then none
          else return (.other, ← close? .curly (← readLoop fuel rest))
        | none =>
          let (items, rest) ← readMoreItems fuel rest
          return (.set (first :: items), ← close? .curly rest)

/-- Reads an item of a collection, which can be starred or an assignment. -/
def readItem : Nat → List Symbol → Option (Expression × List Symbol)
  | 0, _ => none
  | fuel + 1, symbols =>
    match symbols with
    | .mark .star :: rest => do
      let (operand, rest) ← readOperands fuel starredLevel rest
      return (.starred operand, rest)
    | _ => readNamed fuel symbols

/-- Reads an expression, or an assignment of one to a name. -/
def readNamed : Nat → List Symbol → Option (Expression × List Symbol)
  | 0, _ => none
  | fuel + 1, symbols =>
    match symbols with
    | .name _ :: .mark .walrus :: rest => do
      let (_, rest) ← readExpression fuel rest
      return (.other, rest)
    | _ => readExpression fuel symbols

/-- Reads items up to a closing bracket, with commas between them and perhaps
after the last. -/
def readItems : Nat → List Symbol → Option (List Expression × List Symbol)
  | 0, _ => none
  | fuel + 1, symbols =>
    if atClose symbols then some ([], symbols)
    else do
      let (item, rest) ← readItem fuel symbols
      let (items, rest) ← readMoreItems fuel rest
      return (item :: items, rest)

def readMoreItems : Nat → List Symbol → Option (List Expression × List Symbol)
  | 0, _ => none
  | fuel + 1, symbols =>
    match symbols with
    | .mark .comma :: rest => readItems fuel rest
    | _ => some ([], symbols)

/-- Reads entries of a table up to a closing bracket. The entries of another
table are an entry without a key. -/
def readEntries : Nat → List Symbol → Option (List (Expression × Expression) × List Symbol)
  | 0, _ => none
  | fuel + 1, symbols =>
    if atClose symbols then some ([], symbols)
    else
      match symbols with
      | .mark .doubleStar :: rest => do
        let (_, rest) ← readOperands fuel starredLevel rest
        let (entries, rest) ← readMoreEntries fuel rest
        return ((.other, .other) :: entries, rest)
      | _ => do
        let (key, rest) ← readExpression fuel symbols
        let (value, rest) ← readExpression fuel (← after? (.mark .colon) rest)
        let (entries, rest) ← readMoreEntries fuel rest
        return ((key, value) :: entries, rest)

def readMoreEntries : Nat → List Symbol → Option (List (Expression × Expression) × List Symbol)
  | 0, _ => none
  | fuel + 1, symbols =>
    match symbols with
    | .mark .comma :: rest => readEntries fuel rest
    | _ => some ([], symbols)

/-- Reads a loop after its start: what it assigns to, what it goes through, and
the conditions and loops inside. -/
def readLoop : Nat → List Symbol → Option (List Symbol)
  | 0, _ => none
  | fuel + 1, symbols => do
    let rest ← readTargets fuel symbols
    let (_, rest) ← readOperands fuel choiceLevel rest
    readInner fuel rest

/-- Reads the conditions and the loops inside a loop. -/
def readInner : Nat → List Symbol → Option (List Symbol)
  | 0, _ => none
  | fuel + 1, symbols =>
    match symbols with
    | .keyword .ifWord :: rest => do
      let (_, rest) ← readOperands fuel choiceLevel rest
      readInner fuel rest
    | _ =>
      match loopStart? symbols with
      | some rest => readLoop fuel rest
      | none => some symbols

/-- Reads what a loop assigns to, up to what it goes through. -/
def readTargets : Nat → List Symbol → Option (List Symbol)
  | 0, _ => none
  | fuel + 1, symbols => do
    let (target, rest) ← match symbols with
      | .mark .star :: rest => readPrimary fuel rest
      | _ => readPrimary fuel symbols
    if target.isTarget then
      match rest with
      | .keyword .inWord :: rest => some rest
      | .mark .comma :: .keyword .inWord :: rest => some rest
      | .mark .comma :: rest => readTargets fuel rest
      | _ => none
    else none

/-- Reads arguments after the opening bracket of a call or after a comma, and
the closing bracket. A generator without brackets of its own is the only
argument. -/
def readArguments : Nat → ArgumentPlace → List Symbol → Option (List Symbol)
  | 0, _, _ => none
  | fuel + 1, place, symbols =>
    match symbols with
    | .mark (.closing .round) :: rest => if place = .start then none else some rest
    | .mark .doubleStar :: rest => do
      let (_, rest) ← readExpression fuel rest
      readMoreArguments fuel .doubled rest
    | .mark .star :: rest =>
      if place = .doubled then none
      else do
        let (_, rest) ← readExpression fuel rest
        readMoreArguments fuel (if place = .named then .named else .positional) rest
    | .name _ :: .mark .assign :: rest => do
      let (_, rest) ← readExpression fuel rest
      readMoreArguments fuel (if place = .doubled then .doubled else .named) rest
    | _ =>
      if place = .named || place = .doubled then none
      else do
        let (_, rest) ← readNamed fuel symbols
        match loopStart? rest with
        | some rest => if place = .start then close? .round (← readLoop fuel rest) else none
        | none => readMoreArguments fuel .positional rest

def readMoreArguments : Nat → ArgumentPlace → List Symbol → Option (List Symbol)
  | 0, _, _ => none
  | fuel + 1, place, symbols =>
    match symbols with
    | .mark .comma :: rest => readArguments fuel place rest
    | _ => close? .round symbols

/-- Reads what is between square brackets after an atom, one slice or more, and
the closing bracket. -/
def readSlices : Nat → List Symbol → Option (List Symbol)
  | 0, _ => none
  | fuel + 1, symbols => do
    let rest ← match symbols with
      | .mark .star :: rest => (readExpression fuel rest).map Prod.snd
      | _ => readSlice fuel symbols
    match rest with
    | .mark .comma :: .mark (.closing .square) :: rest => some rest
    | .mark .comma :: rest => readSlices fuel rest
    | _ => close? .square rest

/-- Reads an index, or a slice of two or three parts that can be left out. -/
def readSlice : Nat → List Symbol → Option (List Symbol)
  | 0, _ => none
  | fuel + 1, symbols =>
    if atWalrus symbols then (readNamed fuel symbols).map Prod.snd
    else do
      let rest ← match symbols with
        | .mark .colon :: _ => some symbols
        | _ => (readExpression fuel symbols).map Prod.snd
      match rest with
      | .mark .colon :: rest =>
        let rest ← readSlicePart fuel rest
        match rest with
        | .mark .colon :: rest => readSlicePart fuel rest
        | _ => some rest
      | _ => some rest

/-- Reads a part of a slice after a colon, which can be left out. -/
def readSlicePart : Nat → List Symbol → Option (List Symbol)
  | 0, _ => none
  | fuel + 1, symbols =>
    if atOmitted symbols then some symbols else (readExpression fuel symbols).map Prod.snd

/-- Reads what a generator gives, in round brackets. -/
def readYield : Nat → List Symbol → Option (List Symbol)
  | 0, _ => none
  | fuel + 1, symbols =>
    match symbols with
    | .keyword .fromWord :: rest => (readExpression fuel rest).map Prod.snd
    | _ => if atClose symbols then some symbols else readYielded fuel symbols

/-- Reads items that are no assignments, with commas between them and perhaps
after the last. -/
def readYielded : Nat → List Symbol → Option (List Symbol)
  | 0, _ => none
  | fuel + 1, symbols => do
    let (_, rest) ← match symbols with
      | .mark .star :: rest => readOperands fuel starredLevel rest
      | _ => readExpression fuel symbols
    match rest with
    | .mark .comma :: rest => if atClose rest then some rest else readYielded fuel rest
    | _ => some rest

/-- Reads parameters of a function expression, and the colon after them. -/
def readParameters : Nat → ParameterPlace → List Symbol → Option (List Symbol)
  | 0, _, _ => none
  | fuel + 1, place, symbols =>
    match symbols with
    | .mark .colon :: rest => if place.canEnd then some rest else none
    | .name _ :: .mark .assign :: rest => do
      let place ← place.default?
      let (_, rest) ← readExpression fuel rest
      readMoreParameters fuel place rest
    | .name _ :: rest => do readMoreParameters fuel (← place.name?) rest
    | .mark .slash :: rest => do readMoreParameters fuel (← place.slash?) rest
    | .mark .star :: .mark .comma :: rest =>
      if place.takesStar then readParameters fuel .bareStar rest else none
    | .mark .star :: .name _ :: rest =>
      if place.takesStar then readMoreParameters fuel .afterStar rest else none
    | .mark .doubleStar :: .name _ :: rest =>
      if place.takesDoubleStar then readMoreParameters fuel .last rest else none
    | _ => none

def readMoreParameters : Nat → ParameterPlace → List Symbol → Option (List Symbol)
  | 0, _, _ => none
  | fuel + 1, place, symbols =>
    match symbols with
    | .mark .comma :: rest => readParameters fuel place rest
    | .mark .colon :: rest => some rest
    | _ => none

end

/-- Reads expressions up to the end, with commas between them: one alone is
itself, and otherwise they are a tuple. -/
def readToEnd (fuel : Nat) : Nat → List Symbol → Option (List Expression × Bool)
  | 0, _ => none
  | count + 1, symbols => do
    let (first, rest) ← readExpression fuel symbols
    match rest with
    | [] => return ([first], false)
    | [.mark .comma] => return ([first], true)
    | .mark .comma :: rest =>
      let (items, _) ← readToEnd fuel count rest
      return (first :: items, true)
    | _ => none

/-- The expression that the symbols form, all of them together. Expressions with
commas between or after them form a tuple. -/
def Expression.ofSymbols? (symbols : List Symbol) : Option Expression := do
  let (items, hasComma) ← readToEnd (16 * symbols.length + 16) (symbols.length + 1) symbols
  match items, hasComma with
  | [item], false => return item
  | _, _ => return .tuple items

end DocLint.Literal
