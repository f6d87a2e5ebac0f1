import Mathlib.Data.List.Basic

/-!
# Steps that may fail

A step gives a value or a fault. Steps are made one after the other, by a bind, or
for each item of a list, and the first fault ends them. What is here is independent
of what the steps do.

Results:
* `exists_of_bind`: what a bind that gives a value has been through.
* `mapM_eq_ok_map`, `exists_mapM_iff`, `flatten_mapM_of_first`: when steps along a list
  give values.
* `exists_map_of_mapM`, `exists_mem_of_mapM`, `mem_of_mapM`: what these values are.
* `mapM_congr`, `mapM_map_eq`: two runs along a list.
-/
namespace DocLint

variable {α β γ ε : Type} {f : α → Except ε β} {xs : List α} {ys : List β} {x : α} {y : β}

theorem exists_of_bind {step : Except ε α} {next : α → Except ε β} (h : step >>= next = .ok y) :
    ∃ a, step = .ok a ∧ next a = .ok y := by
  cases step with
  | error e => cases h
  | ok a => exact ⟨a, rfl, h⟩

/-! ## Steps that give values -/

theorem mapM_eq_ok_map {g : α → β} (h : ∀ x ∈ xs, f x = .ok (g x)) :
    xs.mapM f = .ok (xs.map g) := by
  induction xs with
  | nil => rfl
  | cons x xs ih =>
    rw [List.mapM_cons, h x (by simp), ih fun y hy => h y (by simp [hy])]
    rfl

theorem exists_mapM_iff : (∃ ys, xs.mapM f = .ok ys) ↔ ∀ x ∈ xs, ∃ y, f x = .ok y := by
  induction xs with
  | nil => exact ⟨fun _ => nofun, fun _ => ⟨[], rfl⟩⟩
  | cons x xs ih =>
    rw [List.forall_mem_cons, ← ih]
    constructor
    · rintro ⟨ys, h⟩
      rw [List.mapM_cons] at h
      obtain ⟨y, hy, h⟩ := exists_of_bind h
      obtain ⟨rest, hrest, -⟩ := exists_of_bind h
      exact ⟨⟨y, hy⟩, rest, hrest⟩
    · rintro ⟨⟨y, hy⟩, rest, hrest⟩
      exact ⟨y :: rest, by rw [List.mapM_cons, hy, hrest]; rfl⟩

theorem flatten_mapM_of_first {f : α → Except ε (List β)} {first : α} {later : List α}
    (hfirst : f first = .ok ys) (hlater : ∀ x ∈ later, f x = .ok []) :
    ∃ found, (first :: later).mapM f = .ok found ∧ found.flatten = ys := by
  refine ⟨ys :: later.map fun _ => [], ?_, ?_⟩
  · rw [List.mapM_cons, hfirst, mapM_eq_ok_map hlater]
    rfl
  · simp

/-! ## What they give -/

/-- The values are those of a function on the items. -/
theorem exists_map_of_mapM [Nonempty β] (h : xs.mapM f = .ok ys) :
    ∃ g : α → β, ys = xs.map g ∧ ∀ x ∈ xs, f x = .ok (g x) := by
  choose! g hg using exists_mapM_iff.1 ⟨ys, h⟩
  exact ⟨g, Except.ok.inj (h.symm.trans (mapM_eq_ok_map hg)), hg⟩

theorem exists_mem_of_mapM (h : xs.mapM f = .ok ys) (hy : y ∈ ys) : ∃ x ∈ xs, f x = .ok y := by
  induction xs generalizing ys with
  | nil =>
    obtain rfl := Except.ok.inj h
    cases hy
  | cons x xs ih =>
    rw [List.mapM_cons] at h
    obtain ⟨z, hz, h⟩ := exists_of_bind h
    obtain ⟨zs, hzs, h⟩ := exists_of_bind h
    obtain rfl := Except.ok.inj h
    rcases List.mem_cons.1 hy with rfl | hy
    · exact ⟨x, List.mem_cons_self .., hz⟩
    · obtain ⟨x', hx', hy⟩ := ih hzs hy
      exact ⟨x', List.mem_cons_of_mem x hx', hy⟩

theorem mem_of_mapM (h : xs.mapM f = .ok ys) (hx : x ∈ xs) (hy : f x = .ok y) : y ∈ ys := by
  induction xs generalizing ys with
  | nil => cases hx
  | cons z zs ih =>
    rw [List.mapM_cons] at h
    obtain ⟨w, hw, h⟩ := exists_of_bind h
    obtain ⟨ws, hws, h⟩ := exists_of_bind h
    obtain rfl := Except.ok.inj h
    rcases List.mem_cons.1 hx with rfl | hx
    · rw [hy] at hw
      exact List.mem_cons.2 (.inl (Except.ok.inj hw))
    · exact List.mem_cons_of_mem w (ih hws hx)

/-! ## Two runs -/

theorem mapM_congr {f' : α → Except ε β} (h : ∀ x ∈ xs, f x = f' x) : xs.mapM f = xs.mapM f' := by
  induction xs with
  | nil => rfl
  | cons x xs ih =>
    have hxs := ih fun y hy => h y (List.mem_cons_of_mem _ hy)
    rw [List.mapM_cons, List.mapM_cons, h x (List.mem_cons_self ..), hxs]

theorem mapM_map_eq {f' : α → Except ε γ} {g : β → γ} (xs : List α)
    (h : ∀ x ∈ xs, f' x = (f x).map g) : xs.mapM f' = (xs.mapM f).map (List.map g) := by
  induction xs with
  | nil => rfl
  | cons x xs ih =>
    rw [List.mapM_cons, List.mapM_cons, h x (by simp), ih fun y hy => h y (by simp [hy])]
    cases f x with
    | error e => rfl
    | ok b => cases xs.mapM f <;> rfl

end DocLint
