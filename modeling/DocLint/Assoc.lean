/-!
# Association lists

A table with string keys is a list of pairs in the order in which the keys
first came. Writing a key that is there keeps its place.

Main statements: `lookup_upsert` (after a write the key has the written value,
and no other key is touched), `keys_upsert`, `lookup_of_mem` and
`ofPairs_eq_self` (about pairs with keys of their own), and `mem_ofPairs_iff` (of
two pairs with one key the later one wins).
-/
namespace DocLint.Assoc

variable {α : Type}

def lookup (key : String) : List (String × α) → Option α
  | [] => none
  | (k, v) :: rest => if k = key then some v else lookup key rest

/-- Writes a key: in its place if it is there, at the end otherwise. -/
def upsert (key : String) (value : α) : List (String × α) → List (String × α)
  | [] => [(key, value)]
  | (k, v) :: rest =>
    if k = key then (key, value) :: rest else (k, v) :: upsert key value rest

/-- The table of a list of pairs, of which a later one wins. -/
def ofPairs (pairs : List (String × α)) : List (String × α) :=
  pairs.foldl (fun table pair => upsert pair.1 pair.2 table) []

/-! ## Small facts -/

theorem lookup_upsert (key other : String) (value : α) (table : List (String × α)) :
    lookup other (upsert key value table) =
      if key = other then some value else lookup other table := by
  induction table with
  | nil => rfl
  | cons pair rest ih =>
    obtain ⟨k, v⟩ := pair
    by_cases h : k = key
    · subst h
      by_cases ho : k = other <;> simp [upsert, lookup, ho]
    · by_cases ho : k = other
      · subst ho
        simp [upsert, lookup, h, Ne.symm h]
      · simp [upsert, lookup, h, ho, ih]

theorem keys_upsert (key : String) (value : α) (table : List (String × α)) :
    (upsert key value table).map Prod.fst =
      if key ∈ table.map Prod.fst then table.map Prod.fst else table.map Prod.fst ++ [key] := by
  induction table with
  | nil => rfl
  | cons pair rest ih =>
    obtain ⟨k, v⟩ := pair
    by_cases h : k = key
    · subst h
      simp [upsert]
    · by_cases hk : key ∈ rest.map Prod.fst
      · simp [upsert, h, Ne.symm h, ih, hk]
      · simp [upsert, h, Ne.symm h, ih, hk]

theorem upsert_of_not_mem {key : String} {table : List (String × α)} (value : α)
    (h : key ∉ table.map Prod.fst) : upsert key value table = table ++ [(key, value)] := by
  induction table with
  | nil => rfl
  | cons pair rest ih =>
    obtain ⟨k, v⟩ := pair
    rw [List.map_cons, List.mem_cons, not_or] at h
    rw [upsert, if_neg (Ne.symm h.1), ih h.2, List.cons_append]

theorem lookup_of_mem {key : String} {value : α} {table : List (String × α)}
    (hkeys : (table.map Prod.fst).Nodup) (h : (key, value) ∈ table) :
    lookup key table = some value := by
  induction table with
  | nil => cases h
  | cons pair rest ih =>
    obtain ⟨k, v⟩ := pair
    rw [List.map_cons, List.nodup_cons] at hkeys
    rcases List.mem_cons.1 h with h | h
    · obtain ⟨rfl, rfl⟩ := Prod.mk.inj h
      exact if_pos rfl
    · have hne : k ≠ key := fun hk => hkeys.1 (hk ▸ List.mem_map.2 ⟨(key, value), h, rfl⟩)
      rw [lookup, if_neg hne, ih hkeys.2 h]

theorem foldl_upsert {table pairs : List (String × α)}
    (h : ((table ++ pairs).map Prod.fst).Nodup) :
    pairs.foldl (fun table pair => upsert pair.1 pair.2 table) table = table ++ pairs := by
  induction pairs generalizing table with
  | nil => simp
  | cons pair rest ih =>
    have hnew : pair.1 ∉ table.map Prod.fst := by
      rw [List.map_append, List.nodup_append] at h
      exact fun hmem => h.2.2 _ hmem _ (List.mem_cons_self ..) rfl
    rw [List.foldl_cons, upsert_of_not_mem pair.2 hnew, ih, List.append_assoc, List.singleton_append]
    rwa [List.append_assoc, List.singleton_append]

theorem ofPairs_eq_self {pairs : List (String × α)} (h : (pairs.map Prod.fst).Nodup) :
    ofPairs pairs = pairs :=
  foldl_upsert (by rwa [List.nil_append])

theorem mem_of_lookup {key : String} {value : α} {table : List (String × α)}
    (h : lookup key table = some value) : (key, value) ∈ table := by
  induction table with
  | nil => cases h
  | cons pair rest ih =>
    obtain ⟨k, v⟩ := pair
    unfold lookup at h
    split at h
    · next hk =>
      obtain rfl := Option.some.inj h
      rw [hk]
      exact List.mem_cons_self ..
    · exact List.mem_cons_of_mem (k, v) (ih h)

theorem lookup_append (key : String) (first second : List (String × α)) :
    lookup key (first ++ second) = (lookup key first).or (lookup key second) := by
  induction first with
  | nil => rfl
  | cons pair rest ih =>
    obtain ⟨k, v⟩ := pair
    rw [List.cons_append, lookup, lookup]
    split
    · rfl
    · exact ih

/-- What was written last is found. -/
theorem lookup_foldl_upsert (key : String) (pairs table : List (String × α)) :
    lookup key (pairs.foldl (fun table pair => upsert pair.1 pair.2 table) table) =
      (lookup key pairs.reverse).or (lookup key table) := by
  induction pairs generalizing table with
  | nil => rfl
  | cons pair rest ih =>
    obtain ⟨k, v⟩ := pair
    rw [List.foldl_cons, ih, lookup_upsert, List.reverse_cons, lookup_append, Option.or_assoc]
    congr 1
    rw [lookup]
    split <;> rfl

theorem nodup_keys_foldl_upsert {table : List (String × α)} (pairs : List (String × α))
    (h : (table.map Prod.fst).Nodup) :
    ((pairs.foldl (fun table pair => upsert pair.1 pair.2 table) table).map Prod.fst).Nodup := by
  induction pairs generalizing table with
  | nil => exact h
  | cons pair rest ih =>
    apply ih
    rw [keys_upsert]
    split
    · exact h
    · next hnew =>
      rw [List.nodup_append]
      refine ⟨h, by simp, ?_⟩
      intro key hkey other hother
      obtain rfl := List.mem_singleton.1 hother
      exact fun heq => hnew (heq ▸ hkey)

/-- In the table of some pairs each key has its last value. -/
theorem mem_ofPairs_iff {key : String} {value : α} {pairs : List (String × α)} :
    (key, value) ∈ ofPairs pairs ↔ lookup key pairs.reverse = some value := by
  have hlookup : lookup key (ofPairs pairs) = lookup key pairs.reverse := by
    rw [ofPairs, lookup_foldl_upsert, lookup, Option.or_none]
  rw [← hlookup]
  constructor
  · intro h
    exact lookup_of_mem (nodup_keys_foldl_upsert pairs List.nodup_nil) h
  · intro h
    exact mem_of_lookup h

end DocLint.Assoc
