import DocLint.Session
import DocLint.Settings.Lookup

/-!
# The host of sessions

The host works in one directory with one project file. It keeps every session
that it has started, and one of them may be shared. A session reads the project
file when it starts, so a later change of the file does not touch it.
-/
namespace DocLint

/-- A working directory and the sessions started in it. -/
structure Host where
  project : ProjectFile
  /-- All sessions, in the order in which they were started. -/
  sessions : List Session := []
  /-- The number of the shared session. -/
  shared : Option Nat := none

namespace Host

/-- A project file with the given settings, or an empty one. -/
def projectFile : Option Table → ProjectFile
  | some table => .table [("tool", .table [(ProjectFile.sectionName, .table table)])]
  | none => .table []

/-- The settings in the project file, and the warnings about them. -/
def loadSettings (host : Host) : Except Fault (Settings × List LogLine) := do
  let settings : Settings := ⟨← ProjectFile.search [host.project]⟩
  return (settings, settings.warnings)

/-- Starts a session, which gets the next number. -/
def startSession (host : Host) : Except Fault (Host × Nat × List LogLine) := do
  let (settings, log) ← host.loadSettings
  return ({ host with sessions := host.sessions ++ [Session.start settings] },
    host.sessions.length, log)

/-- The number of the shared session, which is started if there is none. -/
def sharedSession (host : Host) : Except Fault (Host × Nat × List LogLine) :=
  match host.shared with
  | some number => .ok (host, number, [])
  | none => do
    let (host, number, log) ← host.startSession
    return ({ host with shared := some number }, number, log)

/-- Forgets which session is shared. -/
def reset (host : Host) : Host := { host with shared := none }

def writeSettings (host : Host) (table : Option Table) : Host :=
  { host with project := projectFile table }

/-- Makes a step in the session with a number. -/
def withSession {α : Type} (host : Host) (number : Nat) (step : Session → Step α) :
    Host × List LogLine × Except Fault α :=
  match host.sessions[number]? with
  | none => (host, [], .error (.unregistered (toString number)))
  | some session =>
    let done := step session
    ({ host with sessions := host.sessions.set number done.session }, done.log, done.result)

def checkers (resolve : Resolver) (host : Host) :
    Host × List LogLine × Except Fault (List Checker) :=
  match host.sharedSession with
  | .error fault => (host, [], .error fault)
  | .ok (host, number, started) =>
    let (host, log, result) := host.withSession number (Session.checkers resolve)
    (host, started ++ log, result)

end Host

end DocLint
