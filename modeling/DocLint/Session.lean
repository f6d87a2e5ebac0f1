import DocLint.Checker
import DocLint.ParserPath
import DocLint.Registry.Packaged
import DocLint.Settings

/-!
# Sessions

A session holds the collaborators of the linter under their keys. It starts
with the settings, the builder of token sequences and the registry. The comment
parser joins them when it is first asked for: its path is looked up in the
settings then, and what is found stays until another parser is registered.

An operation that can fail gives a `Step`, which says what the session is
afterwards in either case. The lookup of parsers is a parameter.

A session is plugged into a host part by part (`Session.plugIn`). The host gets
one checker after the other, and keeps what it has if a later part fails. What
the host does with a checker is a parameter as well (`Registrar`); it may refuse
one.
-/
namespace DocLint

/-- What can be registered in a session. -/
inductive Collaborator
  | settings (value : Settings)
  /-- The builder of token sequences. -/
  | sequencer
  | registry (value : Registry)
  | parser (value : NamedParser)
  /-- Anything else. -/
  | data (value : Value)

namespace Collaborator

def className : Collaborator → String
  | settings _ => "ConfigurationLoader"
  | sequencer => "PythonTokenGateway"
  | registry _ => "RuleRegistryService"
  | parser _ => "type"
  | data value => value.typeName

/-- The fault of a collaborator that lacks what is asked of it. -/
def lacks (collaborator : Collaborator) (member : String) : Fault :=
  .lacksMember collaborator.className member

/-- A collaborator as a reader of comments. -/
def reader : Collaborator → CommentReader
  | parser value => value.reader
  | other => fun _ => .error (.notCallable other.className)

end Collaborator

/-- How the parser at a path is found. Nothing is asked of what is found. -/
abbrev Resolver := String → Except Fault (Collaborator × LogLine)

/-- The collaborators of the linter, by key. -/
structure Session where
  registered : List (String × Collaborator)

/-- What an operation leads to: the session afterwards, the log lines, and the
result. -/
structure Step (α : Type) where
  session : Session
  log : List LogLine
  result : Except Fault α

namespace Session

def settingsKey : String := "ConfigurationLoader"

def sequencerKey : String := "PythonTokenGateway"

def registryKey : String := "RuleRegistryService"

def parserKey : String := "CommentParserFactory"

/-- Registers a collaborator. One that has the key already is replaced. -/
def register (session : Session) (key : String) (collaborator : Collaborator) : Session :=
  ⟨Assoc.upsert key collaborator session.registered⟩

def start (settings : Settings) : Session :=
  ⟨[(settingsKey, .settings settings), (sequencerKey, .sequencer),
    (registryKey, .registry Registry.packaged)]⟩

def get (session : Session) (key : String) : Except Fault Collaborator :=
  match Assoc.lookup key session.registered with
  | some collaborator => .ok collaborator
  | none => .error (.unregistered key)

/-- The settings, of which `member` is asked for. -/
def settings (session : Session) (member : String) : Except Fault Settings := do
  match ← session.get settingsKey with
  | .settings value => return value
  | other => throw (other.lacks member)

def sequencer (session : Session) : Except Fault Collaborator := session.get sequencerKey

/-- The registry, of which `member` is asked for. -/
def registry (session : Session) (member : String) : Except Fault Registry := do
  match ← session.get registryKey with
  | .registry value => return value
  | other => throw (other.lacks member)

/-- The comment parser. It is looked up if none is registered, and registered
if one is found. -/
def parser (resolve : Resolver) (session : Session) : Step Collaborator :=
  match Assoc.lookup parserKey session.registered with
  | some collaborator => ⟨session, [], .ok collaborator⟩
  | none =>
    match session.settings Settings.parserKey with
    | .error fault => ⟨session, [], .error fault⟩
    | .ok settings =>
      match resolve settings.commentParser with
      | .error fault => ⟨session, [], .error fault⟩
      | .ok (found, line) =>
        ⟨session.register parserKey found, [line], .ok found⟩

/-- The rule for function comments, with the comment parser and the settings. -/
def functionRule (resolve : Resolver) (session : Session) : Step FunctionRule :=
  let step := session.parser resolve
  { step with
    result := do
      let parser ← step.result
      let settings ← session.settings Settings.ignoredKey
      return { reader := parser.reader
               ignoredParams := settings.ignoredParams
               exemptFunctions := settings.exemptFunctions } }

end Session

/-- The side of the host when a session is plugged in, with states of type `σ`. -/
structure Registrar (σ : Type) where
  /-- What the host does when a checker is being made for it. -/
  attach : σ → Except Fault Unit × σ
  /-- What it does when it is given a checker. -/
  take : Checker → σ → Except Fault Unit × σ
  /-- The checkers that it has got, in order. -/
  held : σ → List Checker

namespace Registrar

/-- A host that keeps every checker that it is given. -/
def collecting : Registrar (List Checker) where
  attach held := (.ok (), held)
  take checker held := (.ok (), held ++ [checker])
  held := id

end Registrar

/-- A host while a session is plugged in. -/
structure Plugging (σ : Type) where
  session : Session
  log : List LogLine := []
  host : σ

/-- A part of plugging a session in. If it fails, what came before it stays done. -/
abbrev Plug (σ : Type) := ExceptT Fault (StateM (Plugging σ))

namespace Plug

variable {σ α : Type}

/-- Makes a step in the session. -/
def ask (step : Session → Step α) : Plug σ α := ExceptT.mk fun plugging =>
  let done := step plugging.session
  (done.result, { plugging with session := done.session, log := plugging.log ++ done.log })

/-- Looks something up in the session. -/
def look (find : Session → Except Fault α) : Plug σ α :=
  ask fun session => ⟨session, [], find session⟩

/-- Turns to the host. -/
def tell (deed : σ → Except Fault α × σ) : Plug σ α := ExceptT.mk fun plugging =>
  let (result, host) := deed plugging.host
  (result, { plugging with host })

/-- Makes a checker with what it takes from the registry, and gives it to the
host. The host hears of it first between the messages and the symbols. -/
def give (registrar : Registrar σ) (registry : Registry) (ids : List String)
    (make : Registry.Listing → Checker) : Plug σ Unit := do
  let messages ← look fun _ => registry.messages ids
  tell registrar.attach
  let symbols ← look fun _ => registry.symbols ids
  tell (registrar.take (make ⟨messages, symbols⟩))

end Plug

namespace Session

/-- Gives the host a checker for the ends of files and then one for function
comments. -/
def plugIn {σ : Type} (resolve : Resolver) (registrar : Registrar σ) : Plug σ Unit := do
  let _ ← Plug.look sequencer
  let registry ← Plug.look fun session => session.registry "get_registry"
  let rule ← Plug.ask (functionRule resolve)
  Plug.give registrar registry Checker.endOfFileIds Checker.endOfFile
  Plug.give registrar registry Checker.functionIds fun listing =>
    Checker.functionComment listing rule

/-- The checkers that a host gets from the session. -/
def checkers (resolve : Resolver) (session : Session) : Step (List Checker) :=
  let (result, plugging) := (plugIn resolve .collecting).run.run { session, host := [] }
  ⟨plugging.session, plugging.log, result.map fun _ => plugging.host⟩

end Session

end DocLint
