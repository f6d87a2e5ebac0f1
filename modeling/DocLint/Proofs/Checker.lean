import DocLint.Proofs.Registry
import DocLint.Proofs.Rule.Inversion
import Mathlib.Data.List.Nodup

/-!
# What the host shows

A checker passes the arguments of a violation to the host, and not its message.
The host fills the template that it finds under the message's symbol. With the
packaged registry that gives the violation's message again, whatever the rule has
found.

Results:
* `Checker.mem_run_iff`: the messages of a run.
* `Checker.Shows`: what the host makes of a message.
* `Checker.shows_of_covers`: a violation of a check that the registry has an entry
  for.
* `Checker.tells_shown`: all messages of both checkers.
-/
namespace DocLint.Checker

open TokenSequence

variable {checker : Checker} {xs : List Lexeme} {v : Violation} {m : Message}

/-- Whether the checker tells the host `m` about the violation `v` of a file. The
rule is applied to one anchor after the other, so a failure at a later anchor
takes nothing back. -/
def Tells (checker : Checker) (xs : List Lexeme) (v : Violation) (m : Message) : Prop :=
  ∃ i ∈ (ofLexemes xs).indicesOf checker.anchor, ∃ vs,
    checker.rule (ofLexemes xs) (i : Nat) = .ok vs ∧ v ∈ vs ∧ m = checker.message v

/-- A run that ends tells what there is to tell, and nothing else. -/
theorem mem_run_iff {messages : List Message} (h : checker.run xs = .ok messages) :
    m ∈ messages ↔ ∃ v, checker.Tells xs v m := by
  obtain ⟨vs, hvs, h⟩ := exists_of_bind h
  obtain rfl := Except.ok.inj h
  obtain ⟨found, hfound, hvs⟩ := exists_of_bind hvs
  obtain rfl := Except.ok.inj hvs
  constructor
  · intro hm
    obtain ⟨v, hv, rfl⟩ := List.mem_map.1 hm
    obtain ⟨verdict, hverdict, hv⟩ := List.mem_flatten.1 hv
    obtain ⟨i, hi, hrule⟩ := exists_mem_of_mapM hfound hverdict
    exact ⟨v, i, hi, verdict, hrule, hv, rfl⟩
  · rintro ⟨v, i, hi, verdict, hrule, hv, rfl⟩
    exact List.mem_map_of_mem (List.mem_flatten.2 ⟨verdict, mem_of_mapM hfound hi hrule, hv⟩)

/-- Whether the host shows a violation as it is. The symbol of its message is
declared, under one id, and the template there, filled with the arguments of the
message if there are any, is the violation's message. -/
structure Shows (checker : Checker) (v : Violation) (m : Message) (p : String × MessageEntry) :
    Prop where
  declared : p ∈ checker.messages
  symbol : p.2.symbol = m.symbol
  only : ∀ q ∈ checker.messages, q.2.symbol = m.symbol → q = p
  line : m.line = v.line
  text : Violation.messageOf p.2.template m.args = .ok v.message
  slots : Text.textSlots? p.2.template.toList = some m.args.length

theorem shows_of_covers {entries : List CatalogueEntry} {checks : List Check} {check : Check}
    (hcovers : CatalogueEntry.Covers entries checks)
    (hlisting : checker.toListing = .ofEntries entries)
    (hcheck : check ∈ checks) (hv : v.IsOf check) : ∃ p, checker.Shows v (checker.message v) p := by
  have hmessages : checker.messages = entries.map fun entry => (entry.id, entry.declared) :=
    congrArg Registry.Listing.messages hlisting
  have hsymbols : checker.symbols = entries.map fun entry => (entry.code, entry.symbol) :=
    congrArg Registry.Listing.symbols hlisting
  obtain ⟨entry, hentry, heq⟩ : ∃ entry ∈ entries,
      (entry.code, entry.template) = (check.code, check.template) := by
    rw [← List.mem_map, hcovers.checks]
    exact List.mem_map_of_mem hcheck
  obtain ⟨hcode, htemplate⟩ := Prod.mk.inj heq
  have hsymbol : checker.symbolFor v.code = entry.symbol := by
    have hkeys : ((entries.map fun entry => (entry.code, entry.symbol)).map Prod.fst).Nodup := by
      rw [List.map_map]
      exact hcovers.codes
    rw [symbolFor, hsymbols, hv.code, ← hcode,
      Assoc.lookup_of_mem hkeys (List.mem_map.2 ⟨entry, hentry, rfl⟩), Option.getD_some]
  refine ⟨(entry.id, entry.declared), ?_, hsymbol.symm, fun q hq hqsymbol => ?_, rfl, ?_, ?_⟩
  · rw [hmessages]
    exact List.mem_map_of_mem hentry
  · rw [hmessages] at hq
    obtain ⟨other, hother, rfl⟩ := List.mem_map.1 hq
    rw [List.inj_on_of_nodup_map hcovers.symbols hother hentry (hqsymbol.trans hsymbol)]
  · show Violation.messageOf entry.template v.args = .ok v.message
    rw [htemplate, hv.message]
  · show Text.textSlots? entry.template.toList = some v.args.length
    rw [htemplate, hv.fits, check.textSlots?_template]

/-- With the packaged registry there are both checkers, and the host shows what the
rules have found: each message of either checker has a symbol that the checker
declares, and the template that is declared with it, filled with the message's
arguments, is the violation's message. A run that ends has told all of them. -/
theorem tells_shown (xs : List Lexeme) (rule : FunctionRule) :
    ∃ ends functions, Registry.packaged.listing endOfFileIds = .ok ends ∧
      Registry.packaged.listing functionIds = .ok functions ∧
      ∀ checker, checker = endOfFile ends ∨ checker = functionComment functions rule →
        (∀ v m, checker.Tells xs v m → ∃ p, checker.Shows v m p) ∧
        ∀ messages, checker.run xs = .ok messages →
          ∀ m, m ∈ messages ↔ ∃ v, checker.Tells xs v m := by
  have hends := CatalogueEntry.covers_ofEndOfFile
  have hfunctions := CatalogueEntry.covers_ofFunction
  refine ⟨_, _, Registry.listing_packaged hends.packaged hends.ids hends.codes,
    Registry.listing_packaged hfunctions.packaged hfunctions.ids hfunctions.codes, ?_⟩
  intro checker hchecker
  refine ⟨?_, fun messages h m => mem_run_iff h⟩
  rintro v m ⟨i, -, vs, hrule, hv, rfl⟩
  rcases hchecker with rfl | rfl
  · obtain ⟨check, hcheck, hof⟩ := EndOfFile.exists_check_of_mem hrule hv
    exact shows_of_covers hends rfl hcheck hof
  · obtain ⟨check, hcheck, hof⟩ := FunctionRule.exists_check_of_mem hrule hv
    exact shows_of_covers hfunctions rfl hcheck hof

/-- The small file has no blank line at its end, and the host shows how many it has. -/
theorem smallFile_shown : ∃ ends v m p, Registry.packaged.listing endOfFileIds = .ok ends ∧
    (endOfFile ends).Tells smallFile v m ∧ m.args = ["0"] ∧ (endOfFile ends).Shows v m p := by
  obtain ⟨message, hmessage⟩ := Check.endBlankLineMissing.exists_messageOf
    (show ["0"].length = Check.endBlankLineMissing.slots from rfl)
  have hlast : (ofLexemes smallFile).get 9 = .ok ⟨.terminator, "\n", 2, 5, {}⟩ := by decide
  have hlength : (ofLexemes smallFile).length = 10 := by decide
  have hcode : EndOfFile.lastCode (ofLexemes smallFile) = 9 := by decide
  have htag : EndOfFile.hasEarlierTag (ofLexemes smallFile) 0 = false := by decide
  have hcheck : EndOfFile.check (ofLexemes smallFile) (0 : Nat) =
      .ok [⟨Check.endBlankLineMissing.code, message, 9, 2, ["0"]⟩] := by
    simp [EndOfFile.check, htag, hlength, hcode, hlast, hmessage, Check.report, Violation.atToken,
      bind, Except.bind, pure, Except.pure]
  obtain ⟨ends, functions, hends, -, hshown⟩ := tells_shown smallFile plainRule
  have hanchor : 0 ∈ (ofLexemes smallFile).indicesOf .openTag := by decide
  have htells : (endOfFile ends).Tells smallFile _ _ :=
    ⟨0, hanchor, _, hcheck, List.mem_singleton.2 rfl, rfl⟩
  obtain ⟨p, hp⟩ := (hshown _ (.inl rfl)).1 _ _ htells
  exact ⟨ends, _, _, p, hends, htells, rfl, hp⟩

end DocLint.Checker
