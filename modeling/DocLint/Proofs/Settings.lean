import DocLint.Proofs.Text.Trim
import DocLint.Settings
import Mathlib.Data.String.Basic

/-!
# Which settings are used

The warnings are given when the table is read, and each setting is looked up when it
is used. Both decide for themselves whether a value will do. They agree: a list of
strings is used as it stands or there is a warning and the default is used, and so is
the path of the comment parser, but for a blank path, which gives the default without
a warning.

Results:
* `Value.texts?_eq_some_iff`: what counts as a list of strings.
* `Settings.unknownKeys_sorted`, `Settings.mem_unknownKeys`: the keys that are reported.
* `Settings.stringsLine_mem_warnings`: the warning about a list of strings.
* `Settings.warned_or_read`: all warnings, and what the settings are.
-/
namespace DocLint

/-! ## Lists of strings -/

namespace Value

theorem text?_eq_some_iff {value : Value} {text : String} :
    value.text? = some text ↔ value = .text text := by
  cases value <;> simp [text?]

theorem mapM_text?_eq_some_iff {items : List Value} {texts : List String} :
    items.mapM text? = some texts ↔ items = texts.map .text := by
  induction items generalizing texts with
  | nil => cases texts <;> simp
  | cons item items ih =>
    simp only [List.mapM_cons, Option.bind_eq_bind, Option.bind_eq_some_iff, Option.pure_def,
      Option.some.injEq, text?_eq_some_iff, ih]
    constructor
    · rintro ⟨text, rfl, rest, rfl, rfl⟩
      rfl
    · intro h
      cases texts with
      | nil => cases h
      | cons text texts =>
        obtain ⟨rfl, rfl⟩ := List.cons.inj h
        exact ⟨text, rfl, texts, rfl, rfl⟩

theorem texts?_eq_some_iff {value : Value} {texts : List String} :
    value.texts? = some texts ↔ value = .list (texts.map .text) := by
  cases value with
  | list items => rw [texts?, mapM_text?_eq_some_iff, list.injEq]
  | _ => simp [texts?]

theorem isNull_iff {value : Value} : value.isNull = true ↔ value = .null := by
  cases value <;> simp [isNull]

end Value

/-! ## Keys -/

theorem nodup_eraseDups {α : Type} [BEq α] [LawfulBEq α] (xs : List α) : xs.eraseDups.Nodup := by
  induction h : xs.length using Nat.strong_induction_on generalizing xs with
  | _ n ih =>
    cases xs with
    | nil => exact List.nodup_nil
    | cons x xs =>
      rw [List.eraseDups_cons, List.nodup_cons]
      have hlength := List.length_filter_le (fun y => !y == x) xs
      refine ⟨fun hx => ?_, ih _ (by simp at h; omega) _ rfl⟩
      simpa using List.mem_eraseDups.1 hx

namespace Settings

variable {settings : Settings} {key : String}

theorem mem_unknownKeys :
    key ∈ settings.unknownKeys ↔ key ∈ settings.table.map Prod.fst ∧ key ∉ knownKeys := by
  simp [unknownKeys, List.mem_mergeSort, List.mem_filter, List.mem_eraseDups]

/-- Each unknown key comes once, and the keys are in order. -/
theorem unknownKeys_sorted (settings : Settings) :
    settings.unknownKeys.Pairwise (· < ·) := by
  have hle : settings.unknownKeys.Pairwise fun a b => decide (a ≤ b) = true :=
    List.pairwise_mergeSort (fun a b c hab hbc => by
      simp only [decide_eq_true_eq] at hab hbc ⊢
      exact String.le_trans hab hbc) (fun a b => by simpa using String.le_total a b) _
  have hne : settings.unknownKeys.Nodup :=
    (List.mergeSort_perm _ _).nodup_iff.2 ((nodup_eraseDups _).filter _)
  refine (hle.and hne).imp fun {a b} h => ?_
  exact lt_of_le_of_ne (by simpa using h.1) h.2

/-! ## Warnings -/

def unknownLine (key : String) : LogLine :=
  ⟨.warning, "Configuration Warning: " ++ "unknown key '" ++ key ++
    "' in [tool.conventions-linter]."⟩

def parserLine : LogLine :=
  ⟨.warning, "Configuration Warning: 'comment_parser' must be a string; using the default parser."⟩

def stringsLine (key : String) : LogLine :=
  ⟨.warning, "Configuration Warning: '" ++ key ++ "' must be a list of strings; using defaults."⟩

/-- One line if something holds, and none otherwise. -/
def LineIf (p : Prop) (line : LogLine) (lines : List LogLine) : Prop :=
  p ∧ lines = [line] ∨ ¬p ∧ lines = []

theorem lineIf_ite {p : Prop} {b : Bool} (h : b = true ↔ p) (line : LogLine) :
    LineIf p line (if b then [line] else []) := by
  cases b with
  | true => exact .inl ⟨h.1 rfl, rfl⟩
  | false => exact .inr ⟨fun hp => by simpa using h.2 hp, rfl⟩

theorem lacksStrings_iff : settings.lacksStrings key = true ↔
    settings.value key ≠ .null ∧ ∀ texts : List String,
      settings.value key ≠ .list (texts.map .text) := by
  simp [lacksStrings, Value.isNull_iff, ← Bool.not_eq_true, Option.eq_none_iff_forall_ne_some,
    Value.texts?_eq_some_iff]

theorem lacksParserText_iff : settings.lacksParserText = true ↔
    settings.value parserKey ≠ .null ∧ ∀ path, settings.value parserKey ≠ .text path := by
  simp [lacksParserText, Value.isNull_iff, ← Bool.not_eq_true, Option.eq_none_iff_forall_ne_some,
    Value.text?_eq_some_iff]

/-- The warnings in order: unknown keys, the comment parser, and the lists. -/
theorem warnings_eq (settings : Settings) : settings.warnings =
    settings.unknownKeys.map unknownLine ++
      (if settings.lacksParserText then [parserLine] else []) ++
      (if settings.lacksStrings ignoredKey then [stringsLine ignoredKey] else []) ++
      (if settings.lacksStrings exemptKey then [stringsLine exemptKey] else []) := by
  have hunknown : (fun key => warning s!"unknown key '{key}' in [tool.conventions-linter].") =
      unknownLine := by
    funext key
    simp [warning, unknownLine, ← String.append_assoc, toString]
  have hparser : warning "'comment_parser' must be a string; using the default parser." =
      parserLine := rfl
  have hstrings : (fun key => warning s!"'{key}' must be a list of strings; using defaults.") =
      stringsLine := by
    funext key
    simp [warning, stringsLine, ← String.append_assoc, toString]
  rw [warnings, hunknown, hparser, hstrings, List.append_assoc _ (ite ..) (ite ..)]
  congr 1
  cases h : settings.lacksStrings ignoredKey <;> cases h' : settings.lacksStrings exemptKey <;>
    simp [List.filter, h, h']

theorem unknownLine_ne_stringsLine (key other : String) : unknownLine key ≠ stringsLine other := by
  intro h
  have htext := congrArg (fun line : LogLine => line.text.toList[23]?) h
  simp [unknownLine, stringsLine, String.toList_append] at htext

/-- There is a warning about a list of strings if the value is there and is none. -/
theorem stringsLine_mem_warnings (hkey : key ∈ [ignoredKey, exemptKey]) :
    stringsLine key ∈ settings.warnings ↔ settings.lacksStrings key = true := by
  have hunknown : stringsLine key ∉ settings.unknownKeys.map unknownLine := by
    intro h
    obtain ⟨other, -, heq⟩ := List.mem_map.1 h
    exact unknownLine_ne_stringsLine other key heq
  have hparser : stringsLine ignoredKey ≠ parserLine ∧ stringsLine exemptKey ≠ parserLine := by
    decide
  have hne : stringsLine ignoredKey ≠ stringsLine exemptKey := by decide
  rw [warnings_eq]
  rcases List.mem_pair.1 hkey with rfl | rfl <;>
    simp [hunknown, hparser, hne, hne.symm]

/-! ## Values -/

/-- What is read under a key for a list of strings. -/
inductive StringsRead (settings : Settings) (key : String) (default : List String) :
    List String → Prop
  /-- Without a value, the default. -/
  | absent (hvalue : settings.value key = .null) (hline : stringsLine key ∉ settings.warnings) :
    StringsRead settings key default default
  /-- With a warning, the default too. -/
  | refused (hvalue : settings.value key ≠ .null) (hline : stringsLine key ∈ settings.warnings) :
    StringsRead settings key default default
  /-- Without a warning, the strings that are there. -/
  | configured (texts : List String) (hvalue : settings.value key = .list (texts.map .text))
    (hline : stringsLine key ∉ settings.warnings) : StringsRead settings key default texts

/-- What is read as the path of the comment parser. -/
inductive ParserRead (settings : Settings) : String → Prop
  /-- The text that is there, less the blank characters around it. -/
  | configured (before path after : List Char)
    (hvalue : settings.value parserKey = .text (String.ofList (before ++ path ++ after)))
    (hbefore : ∀ c ∈ before, Text.isBlank c = true) (hafter : ∀ c ∈ after, Text.isBlank c = true)
    (hne : path ≠ []) (hfirst : Text.isBlank (path.head hne) = false)
    (hlast : Text.isBlank (path.getLast hne) = false) : ParserRead settings (String.ofList path)
  | default (hblank : ∀ text, settings.value parserKey = .text text →
      ∀ c ∈ text.toList, Text.isBlank c = true) : ParserRead settings defaultParser

theorem stringsRead_strings (settings : Settings) (hkey : key ∈ [ignoredKey, exemptKey])
    (default : List String) :
    StringsRead settings key default (settings.strings key default) := by
  have hline : stringsLine key ∈ settings.warnings ↔ settings.lacksStrings key = true :=
    stringsLine_mem_warnings hkey
  unfold strings
  cases htexts : (settings.value key).texts? with
  | some texts =>
    exact .configured texts (Value.texts?_eq_some_iff.1 htexts)
      (by simp [hline, lacksStrings, htexts])
  | none =>
    by_cases hnull : settings.value key = .null
    · exact .absent hnull (by simp [hline, lacksStrings, Value.isNull_iff.2 hnull])
    · have hvalue : (settings.value key).isNull = false :=
        Bool.eq_false_iff.2 fun h => hnull (Value.isNull_iff.1 h)
      exact .refused hnull (by simp [hline, lacksStrings, htexts, hvalue])

theorem parserRead_commentParser (settings : Settings) :
    ParserRead settings settings.commentParser := by
  unfold commentParser
  split
  · next text hvalue =>
    by_cases hnil : Text.trim text.toList = []
    · have hempty : Text.trimString text = "" := by rw [Text.trimString, hnil]
      rw [if_pos hempty]
      refine .default fun text' hvalue' => ?_
      obtain rfl : text = text' := by simpa [hvalue] using hvalue'
      exact Text.trim_eq_nil_iff.1 hnil
    · have hempty : Text.trimString text ≠ "" := fun h => hnil (String.ofList_eq_empty_iff.1 h)
      obtain ⟨before, after, hcut, hbefore, hafter⟩ := Text.exists_append_trim text.toList
      rw [if_neg hempty]
      refine .configured before _ after ?_ hbefore hafter hnil (Text.isBlank_head_trim hnil)
        (Text.isBlank_getLast_trim hnil)
      rw [hvalue, ← hcut, String.ofList_toList]
  · next hother =>
    exact .default fun text hvalue => absurd hvalue (hother text)

/-- The warnings of any table, in order, and what its settings are. Only the known keys
make a difference to the settings. -/
theorem warned_or_read (settings : Settings) :
    (∃ (unknown : List String) (parser ignored exempt : List LogLine),
      settings.warnings = unknown.map unknownLine ++ parser ++ ignored ++ exempt ∧
      unknown.Pairwise (· < ·) ∧
      (∀ key, key ∈ unknown ↔ key ∈ settings.table.map Prod.fst ∧ key ∉ knownKeys) ∧
      LineIf (settings.value parserKey ≠ .null ∧ ∀ path, settings.value parserKey ≠ .text path)
        parserLine parser ∧
      LineIf (settings.value ignoredKey ≠ .null ∧ ∀ texts : List String,
        settings.value ignoredKey ≠ .list (texts.map .text)) (stringsLine ignoredKey) ignored ∧
      LineIf (settings.value exemptKey ≠ .null ∧ ∀ texts : List String,
        settings.value exemptKey ≠ .list (texts.map .text)) (stringsLine exemptKey) exempt) ∧
    StringsRead settings ignoredKey defaultIgnored settings.ignoredParams ∧
    StringsRead settings exemptKey defaultExempt settings.exemptFunctions ∧
    ParserRead settings settings.commentParser ∧
    ∀ other : Settings,
      (∀ key ∈ knownKeys, Assoc.lookup key other.table = Assoc.lookup key settings.table) →
      other.ignoredParams = settings.ignoredParams ∧
        other.exemptFunctions = settings.exemptFunctions ∧
        other.commentParser = settings.commentParser := by
  refine ⟨⟨settings.unknownKeys, _, _, _, warnings_eq settings, unknownKeys_sorted settings,
    fun key => mem_unknownKeys, lineIf_ite lacksParserText_iff _, lineIf_ite lacksStrings_iff _,
    lineIf_ite lacksStrings_iff _⟩, stringsRead_strings settings (by simp) _,
    stringsRead_strings settings (by simp) _, parserRead_commentParser settings, ?_⟩
  intro other h
  have hvalue : ∀ key ∈ knownKeys, other.value key = settings.value key := by
    intro key hkey
    rw [value, value, h key hkey]
  refine ⟨?_, ?_, ?_⟩
  · simp only [ignoredParams, strings, hvalue ignoredKey (by simp [knownKeys])]
  · simp only [exemptFunctions, strings, hvalue exemptKey (by simp [knownKeys])]
  · simp only [commentParser, hvalue parserKey (by simp [knownKeys])]

/-- A table with two unknown keys, a list with an item that is no string, a list of
strings, and a path with blank characters around it. -/
def mixedSettings : Settings := ⟨[("zone", .int 1), (ignoredKey, .list [.text "ctx", .int 3]),
  (parserKey, .text " own:Parser\t"), ("area", .null), (exemptKey, .list [.text "run"])]⟩

/-- The same without the unknown keys. -/
def knownSettings : Settings := ⟨[(ignoredKey, .list [.text "ctx", .int 3]),
  (parserKey, .text " own:Parser\t"), (exemptKey, .list [.text "run"])]⟩

/-- The list with the number in it is passed over with a warning, the other settings
are used, and the unknown keys make no difference. -/
theorem mixedSettings_read :
    mixedSettings.ignoredParams = ["self", "cls"] ∧
    stringsLine ignoredKey ∈ mixedSettings.warnings ∧
    mixedSettings.exemptFunctions = ["run"] ∧ stringsLine exemptKey ∉ mixedSettings.warnings ∧
    knownSettings.ignoredParams = ["self", "cls"] ∧ knownSettings.exemptFunctions = ["run"] ∧
    knownSettings.commentParser = mixedSettings.commentParser := by
  obtain ⟨-, hignored, hexempt, -, hother⟩ := warned_or_read mixedSettings
  have hlookup : ∀ key ∈ knownKeys,
      Assoc.lookup key knownSettings.table = Assoc.lookup key mixedSettings.table := by
    intro key hkey
    simp only [knownKeys, List.mem_cons, List.not_mem_nil, or_false] at hkey
    rcases hkey with rfl | rfl | rfl <;> rfl
  obtain ⟨hignored', hexempt', hparser'⟩ := hother knownSettings hlookup
  have hdefault : mixedSettings.ignoredParams = ["self", "cls"] := rfl
  have hrun : mixedSettings.exemptFunctions = ["run"] := rfl
  refine ⟨hdefault, ?_, hrun, ?_, hignored'.trans hdefault, hexempt'.trans hrun, hparser'⟩
  · generalize mixedSettings.ignoredParams = names at hignored
    cases hignored with
    | absent hvalue => cases hvalue
    | refused _ hline => exact hline
    | configured _ hvalue =>
      have hlacks : mixedSettings.lacksStrings ignoredKey = true := rfl
      exact absurd hvalue ((lacksStrings_iff.1 hlacks).2 names)
  · generalize hnames : mixedSettings.exemptFunctions = names at hexempt
    cases hexempt with
    | refused _ hline => exact absurd (hrun.symm.trans hnames) (by decide)
    | absent _ hline => exact hline
    | configured _ _ hline => exact hline

end Settings

end DocLint
