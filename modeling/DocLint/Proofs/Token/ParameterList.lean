import DocLint.Proofs.Token.ParameterScan

/-!
# Parameter lists

The grammar of what stands between the parentheses of a declaration, as syntax
trees: parameters and markers with commas between them; annotations and default
values, in which brackets hold anything that is balanced; and lambdas, whose
parameters may have default values with lambdas in turn.

The machine for parameter names reads the name of each parameter of the list. It
knows whether it is among the parameters of a lambda, but not of how many. So
when a default value of a lambda's parameter holds a lambda, the first colon ends
both, and the parameters after that one count as parameters of the function.

Results:
* `Items.run_tokens`: what the machine reads in a list, by induction on the tree.
* `parameterNames_list`: the names that are read, and when they are the names of
  the list.
-/
namespace DocLint

open TokenSequence (isSignificant ofLexemes)

/-- Whether a token has no meaning for the structure of an expression. -/
def Token.isPlain (t : Token) : Bool :=
  !t.opensBracket && !t.closesBracket && !t.isOperator "," && !t.isOperator ":" &&
    !(t.kind == .name && t.text == "lambda")

namespace Signature

/-! ## Syntax trees -/

def operator (text : String) : Token := { kind := .operator, text := text, line := 0 }

def word (text : String) : Token := { kind := .name, text := text, line := 0 }

/-- A token of an expression that is no part of a lambda and no bracket. -/
structure Atom where
  token : Token
  isPlain : token.isPlain = true

/-- Brackets with what they hold. -/
structure Group where
  opener : Token
  inner : List Token
  closer : Token
  opens : opener.opensBracket = true
  closes : closer.closesBracket = true
  balanced : IsBalanced inner

/-- The name of a parameter. -/
structure Name where
  text : String
  ne_lambda : text ≠ "lambda"

/-- What may stand before the name of a parameter. -/
inductive Stars
  | none
  | one
  | two
  deriving DecidableEq, Repr

/-- What may stand in the place of a parameter. -/
inductive Marker
  | star
  | slash
  deriving DecidableEq, Repr

/-- Whose parameters a list holds. -/
inductive Site
  | function
  | lambda
  deriving DecidableEq, Repr

mutual

/-- An annotation or a default value. A lambda reaches to its end. -/
inductive Expression
  | nil
  | atom (atom : Atom) (rest : Expression)
  | group (group : Group) (rest : Expression)
  | lambda (params : Items .lambda) (body : Expression)

/-- A default value, if there is one. -/
inductive Default
  | none
  | some (value : Expression)

/-- A parameter or a marker. The parameters of a lambda have no annotations. -/
inductive Item : Site → Type
  | marker {site : Site} (marker : Marker) : Item site
  | param {site : Site} (stars : Stars) (name : Name) (default : Default) : Item site
  | annotated (stars : Stars) (name : Name) (type : Expression) (default : Default) :
    Item .function

/-- Parameters and markers with commas between them. A comma may follow the last. -/
inductive Items : Site → Type
  | nil {site : Site} : Items site
  | last {site : Site} (item : Item site) : Items site
  | cons {site : Site} (item : Item site) (rest : Items site) : Items site

end

/-! ## Tokens -/

def Group.tokens (g : Group) : List Token := g.opener :: (g.inner ++ [g.closer])

def Stars.tokens : Stars → List Token
  | .none => []
  | .one => [operator "*"]
  | .two => [operator "**"]

def Marker.token : Marker → Token
  | .star => operator "*"
  | .slash => operator "/"

mutual

def Expression.tokens : Expression → List Token
  | .nil => []
  | .atom a rest => a.token :: rest.tokens
  | .group g rest => g.tokens ++ rest.tokens
  | .lambda params body => word "lambda" :: (params.tokens ++ operator ":" :: body.tokens)

def Default.tokens : Default → List Token
  | .none => []
  | .some value => operator "=" :: value.tokens

def Item.tokens : {site : Site} → Item site → List Token
  | _, .marker m => [m.token]
  | _, .param stars name default => stars.tokens ++ word name.text :: default.tokens
  | _, .annotated stars name type default =>
    stars.tokens ++ word name.text :: operator ":" :: (type.tokens ++ default.tokens)

def Items.tokens : {site : Site} → Items site → List Token
  | _, .nil => []
  | _, .last item => item.tokens
  | _, .cons item rest => item.tokens ++ operator "," :: rest.tokens

end

/-! ## Names -/

/-- The name of a parameter. A marker has none. -/
def Item.names {site : Site} : Item site → List String
  | .marker _ => []
  | .param _ name _ => [name.text]
  | .annotated _ name _ _ => [name.text]

/-- The names of a list, in order. -/
def Items.names {site : Site} : Items site → List String
  | .nil => []
  | .last item => item.names
  | .cons item rest => item.names ++ rest.names

/-- Whether a lambda stands in an expression, and not within brackets. -/
def Expression.hasLambda : Expression → Bool
  | .nil => false
  | .atom _ rest => rest.hasLambda
  | .group _ rest => rest.hasLambda
  | .lambda _ _ => true

def Default.hasLambda : Default → Bool
  | .none => false
  | .some value => value.hasLambda

/-- Whether the annotation or the default value of an item holds a lambda. -/
def Item.hasLambda {site : Site} : Item site → Bool
  | .marker _ => false
  | .param _ _ default => default.hasLambda
  | .annotated _ _ type default => type.hasLambda || default.hasLambda

mutual

/-- The names of parameters of lambdas that are read in an expression. -/
def Expression.strays : Expression → List String
  | .nil => []
  | .atom _ rest => rest.strays
  | .group _ rest => rest.strays
  | .lambda params body => params.read true ++ body.strays

def Default.strays : Default → List String
  | .none => []
  | .some value => value.strays

/-- The names of parameters of lambdas that are read in an item. -/
def Item.strays : {site : Site} → Item site → List String
  | _, .marker _ => []
  | _, .param _ _ default => default.strays
  | _, .annotated _ _ type default => type.strays ++ default.strays

/-- The names that are read in a list. Among the parameters of a lambda names do
not count, but those parameters seem to be over when an item holds a lambda. -/
def Items.read : {site : Site} → Items site → (inLambda : Bool) → List String
  | _, .nil, _ => []
  | _, .last item, inLambda => (if inLambda then [] else item.names) ++ item.strays
  | _, .cons item rest, inLambda => (if inLambda then [] else item.names) ++ item.strays ++
    rest.read (inLambda && !item.hasLambda)

end

/-- The names of parameters of lambdas that are read in a list of the function's
parameters. -/
def Items.strays {site : Site} : Items site → List String
  | .nil => []
  | .last item => item.strays
  | .cons item rest => item.strays ++ rest.strays

theorem Items.length_read {site : Site} : ∀ items : Items site,
    (items.read false).length = items.names.length + items.strays.length
  | .nil => rfl
  | .last _ => List.length_append
  | .cons _ rest => by
    simp only [Items.read, Items.names, Items.strays, Bool.false_and, Bool.false_eq_true, if_false,
      List.length_append, rest.length_read]
    omega

/-- No name is lost, and the names keep their order. -/
theorem Items.names_sublist_read {site : Site} : ∀ items : Items site,
    items.names.Sublist (items.read false)
  | .nil => List.Sublist.slnil
  | .last _ => List.sublist_append_left ..
  | .cons _ rest => (List.sublist_append_left ..).append rest.names_sublist_read

/-- What is read are the names if and only if there are no others. -/
theorem Items.read_eq_names_iff {site : Site} (items : Items site) :
    items.read false = items.names ↔ items.strays = [] := by
  constructor
  · intro h
    have hlength := items.length_read
    rw [h] at hlength
    exact List.length_eq_zero_iff.1 (by omega)
  · intro h
    refine (items.names_sublist_read.eq_of_length ?_).symm
    rw [items.length_read, h]
    rfl

/-! ## What the machine reads -/

section Scan

open ParameterScan

variable {names : List String} {inLambda : Bool}

/-- The machine at depth one. -/
def inside (names : List String) (inLambda : Bool := false) (expecting : Bool := false) :
    ParameterScan :=
  { depth := 1, expecting := expecting, inLambda := inLambda, names := names }

theorem step_plain {t : Token} (h : t.isPlain = true) :
    (inside names inLambda).step t = inside names inLambda := by
  simp only [Token.isPlain, Bool.and_eq_true, Bool.not_eq_true'] at h
  obtain ⟨⟨⟨⟨ho, hc⟩, hcomma⟩, hcolon⟩, hlambda⟩ := h
  simp [step, stepInside, inside, ho, hc, hcomma, hcolon, hlambda]

theorem isPlain_word (n : Name) : (word n.text).isPlain = true := by
  simp [Token.isPlain, word, Token.opensBracket, Token.closesBracket, Token.isOperator, n.ne_lambda]

theorem isPlain_marker (m : Marker) : m.token.isPlain = true := by
  cases m <;> decide

theorem run_plain (ts : List Token) (h : ∀ t ∈ ts, t.isPlain = true) :
    (inside names inLambda).run ts = inside names inLambda := by
  induction ts with
  | nil => rfl
  | cons t ts ih =>
    rw [run_cons, step_plain (h t (List.mem_cons_self ..)),
      ih fun u hu => h u (List.mem_cons_of_mem t hu)]

theorem isPlain_of_mem_stars {stars : Stars} : ∀ t ∈ stars.tokens, t.isPlain = true := by
  cases stars <;> decide

theorem step_lambda : (inside names inLambda).step (word "lambda") = inside names true := by
  cases inLambda <;> rfl

theorem step_colon (expecting : Bool) :
    (inside names false expecting).step (operator ":") = inside names := by
  cases expecting <;> rfl

theorem step_colon_lambda : (inside names true).step (operator ":") = inside names := rfl

theorem step_comma (expecting : Bool) :
    (inside names false expecting).step (operator ",") = inside names false true := by
  cases expecting <;> rfl

theorem step_comma_lambda : (inside names true).step (operator ",") = inside names true := rfl

theorem step_stars (stars : Stars) :
    (inside names false true).run stars.tokens = inside names false true := by
  cases stars <;> rfl

theorem step_name (n : Name) :
    (inside names false true).step (word n.text) = inside (names ++ [n.text]) := by
  simp [step, stepInside, inside, word, Token.opensBracket, Token.closesBracket, Token.isOperator,
    n.ne_lambda]

/-- Whether a parameter may still start after an item, without a comma. -/
def Item.isStar {site : Site} : Item site → Bool
  | .marker .star => true
  | _ => false

theorem step_marker {site : Site} (m : Marker) : (inside names false true).step m.token =
    inside names false (Item.marker m : Item site).isStar := by
  cases m <;> rfl

mutual

/-- An expression ends the parameters of a lambda if it holds a lambda itself. -/
theorem Expression.run_tokens : ∀ (e : Expression) (names : List String) (inLambda : Bool),
    (inside names inLambda).run e.tokens =
      inside (names ++ e.strays) (inLambda && !e.hasLambda)
  | .nil, names, inLambda => by
    simp [Expression.tokens, Expression.strays, Expression.hasLambda]
  | .atom a rest, names, inLambda => by
    rw [Expression.tokens, run_cons, step_plain a.isPlain, rest.run_tokens]
    rfl
  | .group g rest, names, inLambda => by
    rw [Expression.tokens, run_append, Group.tokens,
      run_brackets (Int.le_refl 1) g.opens g.closes g.balanced, rest.run_tokens]
    rfl
  | .lambda params body, names, inLambda => by
    rw [Expression.tokens, run_cons, step_lambda, List.append_cons, run_append, params.run_lambda,
      body.run_tokens, List.append_assoc]
    simp [Expression.strays, Expression.hasLambda]

theorem Default.run_tokens : ∀ (d : Default) (names : List String) (inLambda : Bool),
    (inside names inLambda).run d.tokens =
      inside (names ++ d.strays) (inLambda && !d.hasLambda)
  | .none, names, inLambda => by
    simp [Default.tokens, Default.strays, Default.hasLambda]
  | .some value, names, inLambda => by
    rw [Default.tokens, run_cons, step_plain (by decide), value.run_tokens]
    rfl

/-- An item where a parameter of the function may start. -/
theorem Item.run_read : ∀ {site : Site} (item : Item site) (names : List String),
    (inside names false true).run item.tokens =
      inside (names ++ (item.names ++ item.strays)) false item.isStar
  | site, .marker m, names => by
    have hmarker : (inside names false true).step m.token =
        inside names false (Item.marker m : Item site).isStar := step_marker m
    rw [Item.tokens, run_cons, hmarker, run_nil, Item.names, Item.strays, List.append_nil,
      List.append_nil]
  | _, .param stars name default, names => by
    rw [Item.tokens, run_append, step_stars, run_cons, step_name, default.run_tokens,
      List.append_assoc]
    rfl
  | _, .annotated stars name type default, names => by
    rw [Item.tokens, run_append, step_stars, run_cons, step_name, run_cons, step_colon, run_append,
      type.run_tokens, default.run_tokens, List.append_assoc, List.append_assoc]
    rfl

/-- An item among the parameters of a lambda. -/
theorem Item.run_lambda : ∀ (item : Item .lambda) (names : List String),
    (inside names true).run item.tokens = inside (names ++ item.strays) (!item.hasLambda)
  | .marker m, names => by
    rw [Item.tokens, run_cons, step_plain (isPlain_marker m), run_nil, Item.strays,
      List.append_nil]
    rfl
  | .param stars name default, names => by
    rw [Item.tokens, run_append, run_plain _ isPlain_of_mem_stars, run_cons,
      step_plain (isPlain_word name), default.run_tokens]
    rfl

/-- Items where a parameter of the function may start. -/
theorem Items.run_read : ∀ {site : Site} (items : Items site) (names : List String),
    ∃ expecting, (inside names false true).run items.tokens =
      inside (names ++ items.read false) false expecting
  | _, .nil, names => ⟨true, by rw [Items.tokens, run_nil, Items.read, List.append_nil]⟩
  | _, .last item, names => ⟨item.isStar, item.run_read names⟩
  | _, .cons item rest, names => by
    obtain ⟨expecting, hrest⟩ := rest.run_read (names ++ (item.names ++ item.strays))
    refine ⟨expecting, ?_⟩
    rw [Items.tokens, run_append, item.run_read, run_cons, step_comma, hrest, List.append_assoc]
    rfl

/-- The parameters of a lambda, and the colon after them. -/
theorem Items.run_lambda : ∀ (items : Items .lambda) (names : List String),
    (inside names true).run (items.tokens ++ [operator ":"]) = inside (names ++ items.read true)
  | .nil, names => by
    rw [Items.tokens, List.nil_append, run_cons, step_colon_lambda, run_nil, Items.read,
      List.append_nil]
  | .last item, names => by
    rw [Items.tokens, run_append, item.run_lambda, run_cons, run_nil]
    cases item.hasLambda with
    | true => exact step_colon false
    | false => exact step_colon_lambda
  | .cons item rest, names => by
    rw [Items.tokens, List.append_assoc, List.cons_append, run_append, item.run_lambda, run_cons,
      Items.read, if_pos rfl, List.nil_append, ← List.append_assoc]
    cases item.hasLambda with
    | true =>
      -- The lambda is over for the machine: what comes next counts as the function's.
      obtain ⟨expecting, hrest⟩ := rest.run_read (names ++ item.strays)
      rw [Bool.not_true, step_comma, run_append, hrest, run_cons, run_nil, step_colon]
      rfl
    | false =>
      rw [Bool.not_false, step_comma_lambda, rest.run_lambda]
      rfl

end

end Scan

end Signature

/-! ## The parameters of a declaration -/

/-- The names that are read between the parentheses of a declaration. Those of the
list are among them, in order, and there are no others unless a lambda has a
parameter with a name after a default value that holds a lambda itself. -/
theorem parameterNames_list (s : TokenSequence) (n : Nat) (t opener closer : Token)
    (before between after : List Token) (items : Signature.Items .function)
    (ht : s.tokens[n]? = some t) (hs : s.tokens = before ++ opener :: (between ++ closer :: after))
    (ha : t.extent.parenOpener = some (before.length : Int))
    (hb : t.extent.parenCloser = some ((before.length + between.length + 1 : Nat) : Int))
    (ho : opener.isOperator "(" = true) (hc : closer.isOperator ")" = true)
    (hitems : (between.filter isSignificant).map Token.bare = items.tokens) :
    s.parameterNames n = .ok (items.read false) ∧ items.names.Sublist (items.read false) ∧
    (s.parameterNames n = .ok items.names ↔ items.strays = []) := by
  have hread : s.parameterNames n = .ok (items.read false) := by
    have hopens : opener.opensBracket = true := by simp [Token.opensBracket, ho]
    have hcloses : closer.closesBracket = true := by simp [Token.closesBracket, hc]
    have hlength : s.length = before.length + between.length + 2 + after.length := by
      simp only [TokenSequence.length, hs, List.length_append, List.length_cons]
      omega
    have hspan : ((List.range (before.length + between.length + 1 - before.length + 1)).filterMap
        fun k => s.tokens[before.length + k]?) = opener :: (between ++ [closer]) := by
      have hdrop : s.tokens.drop before.length = (opener :: (between ++ [closer])) ++ after := by
        rw [hs, List.drop_left]
        simp
      simp only [← List.getElem?_drop, filterMap_getElem?_range, hdrop]
      exact List.take_left' (by simp; omega)
    have hopened : ParameterScan.step {} opener = Signature.inside [] false true :=
      ParameterScan.step_opens hopens
    obtain ⟨expecting, hrun⟩ := items.run_read []
    rw [← hitems, ParameterScan.run_map_bare, ParameterScan.run_filter] at hrun
    rw [TokenSequence.parameterNames_of_parens ht ha hb (by omega) (by omega), hspan,
      ParameterScan.run_cons, hopened, ParameterScan.run_append, hrun, ParameterScan.run_cons,
      ParameterScan.step_closes hcloses]
    rfl
  refine ⟨hread, items.names_sublist_read, ?_⟩
  rw [hread, Except.ok.injEq, items.read_eq_names_iff]

/-- A function with an annotation and a bare marker, and with a lambda in the default
value of a lambda's last parameter. Its first line ends with a comment. -/
def lambdaFile : List Lexeme :=
  [⟨.name, "def", 1, 0⟩, ⟨.name, "f", 1, 4⟩, ⟨.operator, "(", 1, 5⟩, ⟨.name, "self", 1, 6⟩,
    ⟨.operator, ",", 1, 10⟩, ⟨.name, "a", 1, 12⟩, ⟨.operator, ":", 1, 13⟩, ⟨.operator, "(", 1, 15⟩,
    ⟨.name, "x", 1, 16⟩, ⟨.operator, ",", 1, 17⟩, ⟨.operator, ")", 1, 18⟩, ⟨.operator, "=", 1, 20⟩,
    ⟨.number, "1", 1, 22⟩, ⟨.operator, ",", 1, 23⟩, ⟨.comment, "# one", 1, 26⟩,
    ⟨.lineBreak, "\n", 1, 31⟩, ⟨.operator, "*", 2, 6⟩, ⟨.operator, ",", 2, 7⟩, ⟨.name, "b", 2, 9⟩,
    ⟨.operator, "=", 2, 10⟩, ⟨.name, "lambda", 2, 11⟩, ⟨.name, "y", 2, 18⟩,
    ⟨.operator, ",", 2, 19⟩, ⟨.name, "z", 2, 21⟩, ⟨.operator, "=", 2, 22⟩,
    ⟨.name, "lambda", 2, 23⟩, ⟨.operator, ":", 2, 29⟩, ⟨.name, "y", 2, 31⟩, ⟨.operator, ":", 2, 32⟩, ⟨.name, "z", 2, 34⟩, ⟨.operator, ",", 2, 35⟩,
    ⟨.operator, "**", 2, 37⟩, ⟨.name, "kw", 2, 39⟩, ⟨.operator, ")", 2, 41⟩,
    ⟨.operator, ":", 2, 42⟩, ⟨.operator, "...", 2, 44⟩, ⟨.newline, "\n", 2, 47⟩,
    ⟨.endMarker, "", 3, 0⟩]

/-- The parameters of that function. -/
def lambdaItems : Signature.Items .function :=
  .cons (.param .none ⟨"self", by decide⟩ .none) <|
  .cons (.annotated .none ⟨"a", by decide⟩
    (.group ⟨Signature.operator "(", [Signature.word "x", Signature.operator ","],
      Signature.operator ")", by decide, by decide, by decide⟩ .nil)
    (.some (.atom ⟨{ kind := .number, text := "1", line := 0 }, by decide⟩ .nil))) <|
  .cons (.marker .star) <|
  .cons (.param .none ⟨"b", by decide⟩ (.some (.lambda
    (.cons (.param .none ⟨"y", by decide⟩ .none) <|
      .last (.param .none ⟨"z", by decide⟩ (.some (.lambda .nil
        (.atom ⟨Signature.word "y", by decide⟩ .nil)))))
    (.atom ⟨Signature.word "z", by decide⟩ .nil)))) <|
  .last (.param .two ⟨"kw", by decide⟩ .none)

/-- No parameter with a name comes after the lambda within the lambda. -/
theorem lambdaFile_parameterNames : lambdaItems.strays = [] ∧
    lambdaItems.names = ["self", "a", "b", "kw"] ∧
    (ofLexemes lambdaFile).parameterNames 1 = .ok ["self", "a", "b", "kw"] := by
  have ht : (ofLexemes lambdaFile).tokens[1]? =
      some ⟨.function, "def", 1, 0, ⟨some 35, some 37, some 3, some 34⟩⟩ := by decide
  have hs : (ofLexemes lambdaFile).tokens = (ofLexemes lambdaFile).tokens.take 3 ++
      ⟨.operator, "(", 1, 5, {}⟩ :: (((ofLexemes lambdaFile).tokens.drop 4).take 30 ++
        ⟨.operator, ")", 2, 41, {}⟩ :: (ofLexemes lambdaFile).tokens.drop 35) := by decide
  have hstrays : lambdaItems.strays = [] := by decide
  obtain ⟨-, -, hnames⟩ := parameterNames_list (ofLexemes lambdaFile) 1 _ _ _ _ _ _ lambdaItems
    ht hs (by decide) (by decide) (by decide) (by decide) (by decide)
  exact ⟨hstrays, rfl, hnames.2 hstrays⟩

/-- `def f(a=lambda x=lambda y: y, z=1: x): ...`. -/
def strayFile : List Lexeme :=
  [⟨.name, "def", 1, 0⟩, ⟨.name, "f", 1, 4⟩, ⟨.operator, "(", 1, 5⟩, ⟨.name, "a", 1, 6⟩,
    ⟨.operator, "=", 1, 7⟩, ⟨.name, "lambda", 1, 8⟩, ⟨.name, "x", 1, 15⟩, ⟨.operator, "=", 1, 16⟩,
    ⟨.name, "lambda", 1, 17⟩, ⟨.name, "y", 1, 24⟩, ⟨.operator, ":", 1, 25⟩, ⟨.name, "y", 1, 27⟩,
    ⟨.operator, ",", 1, 28⟩, ⟨.name, "z", 1, 30⟩, ⟨.operator, "=", 1, 31⟩, ⟨.number, "1", 1, 32⟩,
    ⟨.operator, ":", 1, 33⟩, ⟨.name, "x", 1, 35⟩, ⟨.operator, ")", 1, 36⟩, ⟨.operator, ":", 1, 37⟩,
    ⟨.operator, "...", 1, 39⟩, ⟨.newline, "\n", 1, 42⟩, ⟨.endMarker, "", 2, 0⟩]

/-- The parameters of that function. -/
def strayItems : Signature.Items .function :=
  .last <| .param .none ⟨"a", by decide⟩ <| .some <| .lambda
    (.cons (.param .none ⟨"x", by decide⟩ (.some (.lambda
      (.last (.param .none ⟨"y", by decide⟩ .none))
      (.atom ⟨Signature.word "y", by decide⟩ .nil)))) <|
      .last (.param .none ⟨"z", by decide⟩ (.some
        (.atom ⟨{ kind := .number, text := "1", line := 0 }, by decide⟩ .nil))))
    (.atom ⟨Signature.word "x", by decide⟩ .nil)

/-- The second parameter of the outer lambda counts as one of the function. -/
theorem strayFile_parameterNames :
    ((((ofLexemes strayFile).tokens.drop 4).take 15).filter isSignificant).map Token.bare =
      strayItems.tokens ∧
    (ofLexemes strayFile).tokens[1]?.map Token.extent = some ⟨some 20, some 22, some 3, some 19⟩ ∧
    strayItems.names = ["a"] ∧
    (ofLexemes strayFile).parameterNames 1 = .ok ["a", "z"] := by
  decide

end DocLint
