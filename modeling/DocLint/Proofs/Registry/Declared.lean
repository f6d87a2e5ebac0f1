import DocLint.Checker
import DocLint.Proofs.Steps

/-!
# Which symbols are declared

A checker gets two tables from a registry: the messages that it declares to the
host, by id, and the symbols that it reports, by code. An entry without a code is
in the first table only, and an entry without a template in the second only. So
the two tables have different entries, but where they share one they agree on its
symbol. There is no table if one of the values in it has no text.

Results:
* `exists_of_collect`: what is made of the entries of some ids.
* `mem_messages_iff`: what is declared.
* `exists_source_of_mem_symbols`: the entry that a code has its symbol from.
* `symbols_declared`: a symbol that is not declared is one of an entry without a
  template.
-/
namespace DocLint

/-! ## Tables made from a list of ids -/

namespace Assoc

variable {α : Type} {key : String} {value : α} {ids : List String}
  {f : String → Option (String × α)}

/-- A table with a value for each id, or none, has the values of its ids. -/
theorem lookup_filterMap_ids_iff (hkeys : ∀ id ∈ ids, ∀ pair, f id = some pair → pair.1 = id) :
    lookup key (ids.filterMap f) = some value ↔ key ∈ ids ∧ f key = some (key, value) := by
  induction ids with
  | nil =>
    constructor
    · exact nofun
    · intro h
      cases h.1
  | cons id ids ih =>
    replace ih := ih fun other hother => hkeys other (List.mem_cons_of_mem id hother)
    cases hf : f id with
    | none =>
      rw [List.filterMap_cons_none hf, ih, List.mem_cons]
      constructor
      · intro h
        exact ⟨.inr h.1, h.2⟩
      · intro h
        refine ⟨h.1.resolve_left fun heq => ?_, h.2⟩
        rw [heq, hf] at h
        cases h.2
    | some pair =>
      obtain ⟨k, v⟩ := pair
      obtain rfl : k = id := hkeys id (List.mem_cons_self ..) (k, v) hf
      rw [List.filterMap_cons_some hf, lookup, List.mem_cons]
      by_cases hid : k = key
      · subst hid
        simp [hf]
      · rw [if_neg hid, ih]
        constructor
        · intro h
          exact ⟨.inr h.1, h.2⟩
        · intro h
          exact ⟨h.1.resolve_left (Ne.symm hid), h.2⟩

/-- Where a value comes from: the first id whose pair has the key. -/
theorem exists_of_lookup_filterMap
    (h : lookup key (ids.filterMap f) = some value) :
    ∃ before id after, ids = before ++ id :: after ∧ f id = some (key, value) ∧
      ∀ other ∈ before, ∀ w, f other ≠ some (key, w) := by
  induction ids with
  | nil => cases h
  | cons id ids ih =>
    have hskip : lookup key (ids.filterMap f) = some value → (∀ w, f id ≠ some (key, w)) →
        ∃ before x after, id :: ids = before ++ x :: after ∧ f x = some (key, value) ∧
          ∀ other ∈ before, ∀ w, f other ≠ some (key, w) := by
      intro hrest hid
      obtain ⟨before, x, after, rfl, hx, hbefore⟩ := ih hrest
      refine ⟨id :: before, x, after, rfl, hx, ?_⟩
      intro other hother
      rcases List.mem_cons.1 hother with rfl | hother
      · exact hid
      · exact hbefore other hother
    cases hf : f id with
    | none =>
      rw [List.filterMap_cons_none hf] at h
      apply hskip h
      intro w heq
      rw [hf] at heq
      cases heq
    | some pair =>
      obtain ⟨k, v⟩ := pair
      rw [List.filterMap_cons_some hf, lookup] at h
      by_cases hk : k = key
      · rw [if_pos hk] at h
        obtain rfl := Option.some.inj h
        refine ⟨[], id, ids, rfl, by rw [hf, hk], ?_⟩
        intro other hother
        exact absurd hother List.not_mem_nil
      · rw [if_neg hk] at h
        apply hskip h
        intro w heq
        rw [hf] at heq
        exact hk (Prod.mk.inj (Option.some.inj heq)).1

end Assoc

namespace Registry

section Collect

variable {α : Type} {registry : Registry} {ids : List String} {id : String} {entry : Table}
  {make : String → Table → Except Fault (Option α)} {made : String → Option α} {x : α}

/-- Whether something is made of each entry of some ids, or nothing. -/
structure Makes (registry : Registry) (ids : List String)
    (make : String → Table → Except Fault (Option α)) (made : String → Option α) : Prop where
  missing : ∀ id ∈ ids, registry.entry? id = none → made id = none
  found : ∀ id ∈ ids, ∀ entry, registry.entry? id = some entry → make id entry = .ok (made id)

theorem Makes.eq_some_iff (h : registry.Makes ids make made) (hid : id ∈ ids) :
    made id = some x ↔ ∃ entry, registry.entry? id = some entry ∧ make id entry = .ok (some x) := by
  cases hentry : registry.entry? id with
  | none =>
    rw [h.missing id hid hentry]
    simp
  | some entry =>
    rw [← Except.ok.injEq (made id), ← h.found id hid entry hentry]
    simp

theorem exists_of_collect {found : List α} (h : registry.collect ids make = .ok found) :
    ∃ made, registry.Makes ids make made ∧ found = ids.filterMap made := by
  obtain ⟨values, hvalues, h⟩ := exists_of_bind h
  obtain rfl := Except.ok.inj h
  obtain ⟨made, rfl, hmade⟩ := exists_map_of_mapM hvalues
  refine ⟨made, ⟨?_, ?_⟩, ?_⟩
  · intro id hid hentry
    have hnone := hmade id hid
    rw [hentry] at hnone
    exact (Except.ok.inj hnone).symm
  · intro id hid entry hentry
    have hsome := hmade id hid
    rwa [hentry] at hsome
  · rw [List.filterMap_map]
    rfl

end Collect

variable {registry : Registry} {ids : List String} {id code symbol : String} {entry : Table}
  {m : MessageEntry} {messages : List (String × MessageEntry)} {symbols : List (String × String)}

/-! ## The two tables -/

theorem mem_messages_iff (h : registry.messages ids = .ok messages) : (id, m) ∈ messages ↔
    id ∈ ids ∧ ∃ entry, registry.entry? id = some entry ∧ declared? id entry = .ok (some m) := by
  obtain ⟨found, hfound, h⟩ := exists_of_bind h
  obtain rfl := Except.ok.inj h
  obtain ⟨made, hmade, rfl⟩ := exists_of_collect hfound
  -- The pair of an id has the id for its key.
  have hpair : ∀ key ∈ ids, ∀ pair, made key = some pair ↔ ∃ entry,
      registry.entry? key = some entry ∧ pair.1 = key ∧
        declared? key entry = .ok (some pair.2) := by
    intro key hkey pair
    rw [hmade.eq_some_iff hkey]
    refine exists_congr fun entry => and_congr_right fun _ => ?_
    cases declared? key entry with
    | error fault => simp [bind, Except.bind]
    | ok found =>
      cases found <;> simp [bind, Except.bind, pure, Except.pure, Prod.ext_iff, eq_comm]
  rw [Assoc.mem_ofPairs_iff, ← List.filterMap_reverse, Assoc.lookup_filterMap_ids_iff,
    List.mem_reverse]
  · refine and_congr_right fun hid => ?_
    simp [hpair id hid]
  · intro key hkey pair hmade
    obtain ⟨-, -, heq, -⟩ := (hpair key (List.mem_reverse.1 hkey) pair).1 hmade
    exact heq

theorem exists_declared_of_messages (h : registry.messages ids = .ok messages) (hid : id ∈ ids)
    (hentry : registry.entry? id = some entry) :
    ∃ declared, declared? id entry = .ok declared := by
  obtain ⟨found, hfound, -⟩ := exists_of_bind h
  obtain ⟨made, hmade, -⟩ := exists_of_collect hfound
  obtain ⟨declared, hdeclared, -⟩ := exists_of_bind (hmade.found id hid entry hentry)
  exact ⟨declared, hdeclared⟩

/-- An entry declares its symbol, if it has a template. -/
theorem declared?_cases {declared : Option MessageEntry} (h : declared? id entry = .ok declared) :
    (∃ m, declared = some m ∧ symbolOf id entry = .ok m.symbol) ∨
      (field? entry "message_template" = none ∧ declared = none) := by
  unfold declared? at h
  cases htemplate : field? entry "message_template" with
  | none =>
    rw [htemplate] at h
    exact .inr ⟨rfl, (Except.ok.inj h).symm⟩
  | some template =>
    rw [htemplate] at h
    obtain ⟨shown, -, h⟩ := exists_of_bind h
    obtain ⟨symbol, hsymbol, h⟩ := exists_of_bind h
    obtain ⟨description, -, h⟩ := exists_of_bind h
    obtain rfl := Except.ok.inj h
    exact .inl ⟨_, rfl, hsymbol⟩

/-- An entry gives its symbol to the text of its code, if it has one. -/
theorem coded?_cases {coded : Option (String × String)} (h : coded? id entry = .ok coded) :
    (∃ code symbol, coded = some (code, symbol) ∧
      (field? entry "violation_code").map Value.asText = some (.ok code) ∧
      symbolOf id entry = .ok symbol) ∨
      (field? entry "violation_code" = none ∧ coded = none) := by
  unfold coded? at h
  cases hfield : field? entry "violation_code" with
  | none =>
    rw [hfield] at h
    exact .inr ⟨rfl, (Except.ok.inj h).symm⟩
  | some value =>
    rw [hfield] at h
    obtain ⟨code, hcode, h⟩ := exists_of_bind h
    obtain ⟨symbol, hsymbol, h⟩ := exists_of_bind h
    obtain rfl := Except.ok.inj h
    exact .inl ⟨code, symbol, rfl, congrArg some hcode, hsymbol⟩

/-- Whether a code has its symbol from the entry of `id`. That is the last one of
the ids whose entry has the code. -/
structure Source (registry : Registry) (ids : List String) (code symbol id : String)
    (entry : Table) : Prop where
  mem : id ∈ ids
  entry_eq : registry.entry? id = some entry
  code_eq : (field? entry "violation_code").map Value.asText = some (.ok code)
  symbol_eq : symbolOf id entry = .ok symbol
  last : ∃ before after, ids = before ++ id :: after ∧ ∀ other ∈ after, ∀ e,
    registry.entry? other = some e →
      (field? e "violation_code").map Value.asText ≠ some (.ok code)

theorem exists_source_of_mem_symbols (h : registry.symbols ids = .ok symbols)
    (hmem : (code, symbol) ∈ symbols) :
    ∃ id entry, registry.Source ids code symbol id entry := by
  obtain ⟨found, hfound, h⟩ := exists_of_bind h
  obtain rfl := Except.ok.inj h
  obtain ⟨made, hmade, rfl⟩ := exists_of_collect hfound
  rw [Assoc.mem_ofPairs_iff, ← List.filterMap_reverse] at hmem
  obtain ⟨before, id, after, hids, hid, hlast⟩ := Assoc.exists_of_lookup_filterMap hmem
  have hsplit : ids = after.reverse ++ id :: before.reverse := by
    rw [← List.reverse_reverse ids, hids]
    simp
  have hmem : id ∈ ids := by simp [hsplit]
  obtain ⟨entry, hentry, hcoded⟩ := (hmade.eq_some_iff hmem).1 hid
  rcases coded?_cases hcoded with ⟨c, s, heq, hcode, hsymbol⟩ | ⟨-, heq⟩
  · obtain ⟨rfl, rfl⟩ := Prod.mk.inj (Option.some.inj heq)
    refine ⟨id, entry, hmem, hentry, hcode, hsymbol, _, _, hsplit, ?_⟩
    intro other hother e he hcode'
    -- A later id with the code would be found first in the reversed list.
    have hother' : other ∈ ids := by simp [hsplit, List.mem_reverse.1 hother]
    rcases coded?_cases (hmade.found other hother' e he) with ⟨c', s', heq', hc', -⟩ | ⟨hnone, -⟩
    · obtain rfl := Except.ok.inj (Option.some.inj (hc'.symm.trans hcode'))
      exact hlast other (List.mem_reverse.1 hother) s' heq'
    · rw [hnone] at hcode'
      cases hcode'
  · cases heq

/-- What an id has declared, given that its entry is the source of a symbol. -/
theorem Source.declared (h : registry.Source ids code symbol id entry)
    (hmessages : registry.messages ids = .ok messages) :
    (∃ m, (id, m) ∈ messages ∧ m.symbol = symbol) ∨
      (field? entry "message_template" = none ∧ ∀ m, (id, m) ∉ messages) := by
  obtain ⟨declared, hdeclared⟩ := exists_declared_of_messages hmessages h.mem h.entry_eq
  rcases declared?_cases hdeclared with ⟨m, rfl, hsymbol⟩ | ⟨htemplate, rfl⟩
  · refine .inl ⟨m, (mem_messages_iff hmessages).2 ⟨h.mem, entry, h.entry_eq, hdeclared⟩, ?_⟩
    exact Except.ok.inj (hsymbol.symm.trans h.symbol_eq)
  · refine .inr ⟨htemplate, ?_⟩
    intro m hm
    obtain ⟨-, other, hother, hm⟩ := (mem_messages_iff hmessages).1 hm
    obtain rfl : entry = other := Option.some.inj (h.entry_eq.symm.trans hother)
    rw [hdeclared] at hm
    cases hm

/-- Where both tables can be made, a symbol that is given to a code is declared under
the id that it comes from, unless the entry there has no template. So a checker that
is built from the two tables reports a symbol without declaring it only for such an
entry. -/
theorem symbols_declared (registry : Registry) (ids : List String)
    (messages : List (String × MessageEntry)) (symbols : List (String × String))
    (hmessages : registry.messages ids = .ok messages)
    (hsymbols : registry.symbols ids = .ok symbols) :
    (∀ code symbol, (code, symbol) ∈ symbols →
      ∃ id entry, registry.Source ids code symbol id entry ∧
        ((∃ m, (id, m) ∈ messages ∧ m.symbol = symbol) ∨
          (field? entry "message_template" = none ∧ ∀ m, (id, m) ∉ messages))) ∧
    ∀ checker : Checker, checker.messages = messages → checker.symbols = symbols →
      ∀ (v : Violation) (symbol : String), Assoc.lookup v.code checker.symbols = some symbol →
        (checker.message v).symbol = symbol ∧
        ((∃ p ∈ checker.messages, p.2.symbol = symbol) ∨
          ∃ id entry, registry.Source ids v.code symbol id entry ∧
            field? entry "message_template" = none) := by
  have hsource : ∀ code symbol, (code, symbol) ∈ symbols →
      ∃ id entry, registry.Source ids code symbol id entry ∧
        ((∃ m, (id, m) ∈ messages ∧ m.symbol = symbol) ∨
          (field? entry "message_template" = none ∧ ∀ m, (id, m) ∉ messages)) := by
    intro code symbol hmem
    obtain ⟨id, entry, h⟩ := exists_source_of_mem_symbols hsymbols hmem
    exact ⟨id, entry, h, h.declared hmessages⟩
  refine ⟨hsource, ?_⟩
  rintro checker rfl rfl v symbol hlookup
  obtain ⟨id, entry, h, hdeclared⟩ := hsource v.code symbol (Assoc.mem_of_lookup hlookup)
  refine ⟨?_, ?_⟩
  · rw [Checker.message, Checker.symbolFor, hlookup, Option.getD_some]
  · rcases hdeclared with ⟨m, hm, hsymbol⟩ | ⟨htemplate, -⟩
    · exact .inl ⟨(id, m), hm, hsymbol⟩
    · exact .inr ⟨id, entry, h, htemplate⟩

/-- A registry with two entries, of which only the first has a template. -/
def halfDeclared : Registry where
  entries := [("conventions.C9101", .table [("violation_code", .text "NotFound"),
      ("symbol", .text "not-found"), ("message_template", .text "No blank line")]),
    ("conventions.C9102", .table [("violation_code", .text "TooMany"),
      ("symbol", .text "too-many")])]

theorem symbols_halfDeclared : halfDeclared.symbols Checker.endOfFileIds =
    .ok [("NotFound", "not-found"), ("TooMany", "too-many")] := by
  decide +kernel

theorem messages_halfDeclared : halfDeclared.messages Checker.endOfFileIds =
    .ok [("C9101", ⟨"No blank line", "not-found", "C9101"⟩)] := by
  decide +kernel

/-- The second entry has a symbol in one table, and none in the other. -/
theorem halfDeclared_not_declared :
    ¬ ∀ messages symbols, halfDeclared.messages Checker.endOfFileIds = .ok messages →
      halfDeclared.symbols Checker.endOfFileIds = .ok symbols →
      ∀ code symbol, (code, symbol) ∈ symbols → ∃ p ∈ messages, p.2.symbol = symbol := by
  intro h
  obtain ⟨p, hp, hsymbol⟩ := h _ _ messages_halfDeclared symbols_halfDeclared
    "TooMany" "too-many" (by simp)
  obtain rfl := List.mem_singleton.1 hp
  simp at hsymbol

/-- With two blank lines too many, the checker of this registry reports the symbol
of an entry without a template. -/
theorem halfDeclared_reported : ∃ listing,
    halfDeclared.listing Checker.endOfFileIds = .ok listing ∧
    ((Checker.endOfFile listing).message ⟨"TooMany", "", 0, 1, ["3"]⟩).symbol = "too-many" ∧
      ∃ id entry, halfDeclared.Source Checker.endOfFileIds "TooMany" "too-many" id entry ∧
        field? entry "message_template" = none := by
  obtain ⟨hsymbol, hdeclared⟩ := (symbols_declared halfDeclared Checker.endOfFileIds _ _
      messages_halfDeclared symbols_halfDeclared).2
    (Checker.endOfFile ⟨_, _⟩) rfl rfl ⟨"TooMany", "", 0, 1, ["3"]⟩ "too-many" (by decide)
  refine ⟨⟨_, _⟩, ?_, hsymbol, hdeclared.resolve_left ?_⟩
  · rw [listing, messages_halfDeclared, symbols_halfDeclared]
    rfl
  · intro h
    obtain ⟨p, hp, hp'⟩ := h
    obtain rfl := List.mem_singleton.1 hp
    simp at hp'

end Registry

end DocLint
