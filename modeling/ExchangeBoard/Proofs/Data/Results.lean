import Mathlib.Tactic

/-!
# Readings that may fail

A reading comes to a result or to a fault.  Its result may be handed on or turned into something else, and the same
reading may be done for each item of a list.  What the whole comes to is told from the single readings: it has a result
exactly when each of them has one (`bind_eq_ok_iff`, `map_eq_ok_iff`, `mapM_eq_ok_iff`), and a fault that none of them
has is not its fault (`bind_eq_error_iff`, `map_ne_error`, `exists_error_of_mapM`).

The results for a list stand side by side with its items, which is said by an equation between lists: marked as
results, they are what the items are read as.
-/

namespace ExchangeBoard

/-! ### One reading after another -/

section Readings

variable {ε α β : Type} {x : Except ε α} {b : β} {e : ε}

/-- A success has a value. -/
lemma exists_of_isOk (h : x.isOk = true) : ∃ a, x = .ok a := by
  cases x with
  | ok a => exact ⟨a, rfl⟩
  | error e => cases h

/-- What is told of a result is told of a success. -/
lemma exists_of_toOption_map {f : α → β} (h : x.toOption.map f = some b) : ∃ a, x = .ok a ∧ f a = b := by
  cases x with
  | ok a => exact ⟨a, rfl, Option.some.inj h⟩
  | error e => cases h

/-- A reading and what follows on it succeed when both do. -/
lemma bind_eq_ok_iff {f : α → Except ε β} : x.bind f = .ok b ↔ ∃ a, x = .ok a ∧ f a = .ok b := by
  cases x <;> simp [Except.bind]

/-- What is made of a result is there when the result is. -/
lemma map_eq_ok_iff {f : α → β} : x.map f = .ok b ↔ ∃ a, x = .ok a ∧ f a = b := by
  cases x <;> simp [Except.map]

/-- A reading and what follows on it fail with the fault of the first that fails. -/
lemma bind_eq_error_iff {f : α → Except ε β} :
    x.bind f = .error e ↔ x = .error e ∨ ∃ a, x = .ok a ∧ f a = .error e := by
  cases x <;> simp [Except.bind]

/-- Another fault for each fault leaves the results. -/
lemma mapError_eq_ok_iff {ε' : Type} {a : α} {f : ε → ε'} : x.mapError f = .ok a ↔ x = .ok a := by
  cases x <;> simp [Except.mapError]

/-- Two steps do not fail in a way in which neither of them does. -/
lemma bind_ne_error (h : x ≠ .error e) {f : α → Except ε β} (hf : ∀ a, f a ≠ .error e) : (x >>= f) ≠ .error e := by
  intro hbind
  obtain hx | ⟨a, -, ha⟩ := bind_eq_error_iff.1 hbind
  · exact h hx
  · exact hf a ha

/-- Changing the value of a success adds no failure. -/
lemma map_ne_error (h : x ≠ .error e) (f : α → β) : x.map f ≠ .error e := by
  cases x with
  | error e' =>
    rintro ⟨⟩
    exact h rfl
  | ok a => rintro ⟨⟩

end Readings

/-! ### A reading for each item -/

section Items

variable {ε α β γ ρ : Type} {items : List α} {results : List β}

/-- The results for a list are those for its items, one by one. -/
lemma mapM_eq_ok_iff {f : α → Except ε β} : items.mapM f = .ok results ↔ results.map .ok = items.map f := by
  induction items generalizing results with
  | nil =>
    rw [List.map_nil, List.map_eq_nil_iff]
    exact ⟨fun h => (Except.ok.inj h).symm, fun h => congrArg Except.ok h.symm⟩
  | cons a rest ih =>
    rw [List.mapM_cons, List.map_cons, List.map_eq_cons_iff]
    constructor
    · intro h
      obtain ⟨b, hb, h⟩ := bind_eq_ok_iff.1 h
      obtain ⟨tail, htail, h⟩ := bind_eq_ok_iff.1 h
      cases h
      exact ⟨b, tail, rfl, hb.symm, ih.1 htail⟩
    · rintro ⟨b, tail, rfl, hb, htail⟩
      exact bind_eq_ok_iff.2 ⟨b, hb.symm, bind_eq_ok_iff.2 ⟨tail, ih.2 htail, rfl⟩⟩

/-- The same of computations that have no result instead of a fault. -/
lemma mapM_eq_some_iff {f : α → Option β} : items.mapM f = some results ↔ results.map some = items.map f := by
  induction items generalizing results with
  | nil =>
    rw [List.map_nil, List.map_eq_nil_iff]
    exact ⟨fun h => (Option.some.inj h).symm, fun h => congrArg some h.symm⟩
  | cons a rest ih =>
    rw [List.mapM_cons, List.map_cons, List.map_eq_cons_iff]
    constructor
    · intro h
      obtain ⟨b, hb, h⟩ := Option.bind_eq_some_iff.1 h
      obtain ⟨tail, htail, h⟩ := Option.bind_eq_some_iff.1 h
      cases h
      exact ⟨b, tail, rfl, hb.symm, ih.1 htail⟩
    · rintro ⟨b, tail, rfl, hb, htail⟩
      exact Option.bind_eq_some_iff.2 ⟨b, hb.symm, Option.bind_eq_some_iff.2 ⟨tail, ih.2 htail, rfl⟩⟩

/-- There are results side by side with the items when each item has one. -/
lemma exists_results_iff {f : α → ρ} {found : β → ρ} :
    (∃ results : List β, results.map found = items.map f) ↔ ∀ a ∈ items, ∃ b, f a = found b := by
  constructor
  · rintro ⟨results, h⟩ a ha
    have hmem : f a ∈ results.map found := h ▸ List.mem_map_of_mem ha
    obtain ⟨b, -, hb⟩ := List.mem_map.1 hmem
    exact ⟨b, hb.symm⟩
  · intro h
    induction items with
    | nil => exact ⟨[], rfl⟩
    | cons a rest ih =>
      obtain ⟨⟨b, hb⟩, hrest⟩ := List.forall_mem_cons.1 h
      obtain ⟨tail, htail⟩ := ih hrest
      exact ⟨b :: tail, by rw [List.map_cons, List.map_cons, hb, htail]⟩

/-- A computation for each item succeeds when each of them does. -/
lemma exists_mapM_ok_iff (f : α → Except ε β) (items : List α) :
    (∃ results, items.mapM f = .ok results) ↔ ∀ a ∈ items, ∃ b, f a = .ok b := by
  rw [← exists_results_iff]
  exact exists_congr fun results => mapM_eq_ok_iff

/-- There are results for all items just where there is one for each. -/
lemma exists_mapM_some_iff (f : α → Option β) (items : List α) :
    (∃ results, items.mapM f = some results) ↔ ∀ a ∈ items, ∃ b, f a = some b := by
  rw [← exists_results_iff]
  exact exists_congr fun results => mapM_eq_some_iff

/-- What fails for a list fails for one of its items. -/
lemma exists_error_of_mapM {f : α → Except ε β} {fault : ε} (h : items.mapM f = .error fault) :
    ∃ a ∈ items, f a = .error fault := by
  induction items with
  | nil => cases h
  | cons a rest ih =>
    rw [List.mapM_cons] at h
    obtain ha | ⟨b, -, h⟩ := bind_eq_error_iff.1 h
    · exact ⟨a, List.mem_cons_self .., ha⟩
    · obtain hrest | ⟨tail, -, h⟩ := bind_eq_error_iff.1 h
      · obtain ⟨c, hc, hfault⟩ := ih hrest
        exact ⟨c, List.mem_cons_of_mem _ hc, hfault⟩
      · cases h

/-- What each result has from its item, the results have from the items. -/
lemma map_eq_of_results {f : α → ρ} {found : β → ρ} {g : α → γ} {g' : β → γ}
    (hstep : ∀ a b, f a = found b → g' b = g a) (h : results.map found = items.map f) :
    results.map g' = items.map g := by
  induction items generalizing results with
  | nil =>
    rw [List.map_eq_nil_iff.1 h, List.map_nil, List.map_nil]
  | cons a rest ih =>
    obtain ⟨b, tail, rfl, ha, hrest⟩ := List.map_eq_cons_iff.1 h
    rw [List.map_cons, List.map_cons, hstep a b ha.symm, ih hrest]

/-- When each result is known, so are all. -/
lemma mapM_option_eq_map {f : α → Option β} {g : α → β} (h : ∀ a ∈ items, f a = some (g a)) :
    items.mapM f = some (items.map g) := by
  apply mapM_eq_some_iff.2
  rw [List.map_map]
  exact List.map_congr_left fun a ha => (h a ha).symm

end Items

end ExchangeBoard
