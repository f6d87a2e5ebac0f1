import DocLint.Value

/-!
# Which values have a text

Writing a value fails in two cases only: somewhere in it there is a whole number with
too many digits, or a value of another type that has no text of its own.

Results:
* `Value.exists_quoted_iff`: which values have a text inside a list or a table.
* `Value.exists_asText_iff`: which values have a text.
-/
namespace DocLint.Value

/-- Whether a whole number has few enough digits to be written. -/
def IsShort (number : Int) : Prop :=
  (Nat.toDigits 10 number.natAbs).length ≤ Decimal.mostDigits

mutual

/-- Whether a value holds nothing that cannot be written. -/
def IsQuotable : Value → Prop
  | int value => IsShort value
  | list items => AreQuotable items
  | table fields => FieldsAreQuotable fields
  | foreign value => value.quoted?.isSome
  | null | bool _ | decimal _ | text _ => True

def AreQuotable : List Value → Prop
  | [] => True
  | item :: rest => item.IsQuotable ∧ AreQuotable rest

def FieldsAreQuotable : List (String × Value) → Prop
  | [] => True
  | (_, value) :: rest => value.IsQuotable ∧ FieldsAreQuotable rest

end

/-- Whether a value can be written on its own. -/
def HasText : Value → Prop
  | foreign value => value.text?.isSome
  | other => other.IsQuotable

theorem exists_wholeText_iff {number : Int} :
    (∃ text, wholeText number = .ok text) ↔ IsShort number := by
  unfold wholeText IsShort
  split <;> simp_all

theorem exists_elim_iff {text? : Option String} {fault : Fault} :
    (∃ text, text?.elim (.error fault) Except.ok = .ok text) ↔ text?.isSome := by
  cases text? <;> simp

theorem exists_map_iff {α β : Type} {step : Except Fault α} {f : α → β} :
    (∃ b, (do return f (← step)) = Except.ok b) ↔ ∃ a, step = .ok a := by
  cases step <;> simp [bind, Except.bind, pure, Except.pure]

theorem exists_map₂_iff {α β γ : Type} {step : Except Fault α} {next : Except Fault β}
    {f : α → β → γ} :
    (∃ c, (do let a ← step; return f a (← next)) = Except.ok c) ↔
      (∃ a, step = .ok a) ∧ ∃ b, next = .ok b := by
  cases step <;> cases next <;> simp [bind, Except.bind, pure, Except.pure]

mutual

theorem exists_quoted_iff : ∀ value : Value, (∃ text, value.quoted = .ok text) ↔ value.IsQuotable
  | null | bool true | bool false | decimal _ | text _ => by simp [quoted, IsQuotable]
  | int number => by
    rw [quoted, IsQuotable]
    exact exists_wholeText_iff
  | foreign value => by
    rw [quoted, IsQuotable]
    exact exists_elim_iff
  | list items => by
    rw [quoted, IsQuotable, ← exists_quotedItems_iff items]
    exact exists_map_iff
  | table fields => by
    rw [quoted, IsQuotable, ← exists_quotedFields_iff fields]
    exact exists_map_iff

theorem exists_quotedItems_iff : ∀ items : List Value,
    (∃ texts, quotedItems items = .ok texts) ↔ AreQuotable items
  | [] => by simp [quotedItems, AreQuotable]
  | item :: rest => by
    rw [AreQuotable, ← exists_quoted_iff item, ← exists_quotedItems_iff rest, quotedItems]
    exact exists_map₂_iff

theorem exists_quotedFields_iff : ∀ fields : List (String × Value),
    (∃ texts, quotedFields fields = .ok texts) ↔ FieldsAreQuotable fields
  | [] => by simp [quotedFields, FieldsAreQuotable]
  | (key, value) :: rest => by
    rw [FieldsAreQuotable, ← exists_quoted_iff value, ← exists_quotedFields_iff rest, quotedFields]
    exact exists_map₂_iff

end

theorem exists_asText_iff (value : Value) :
    (∃ text, value.asText = .ok text) ↔ value.HasText := by
  cases value with
  | text value => simp [asText, HasText, IsQuotable]
  | foreign value => exact exists_elim_iff
  | _ => exact exists_quoted_iff _

end DocLint.Value
