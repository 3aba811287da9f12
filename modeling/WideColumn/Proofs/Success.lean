/-!
# Chains that succeed

A chain of steps that may fail has a result exactly if every step has one.
Each lemma takes one step off a chain, so that what a request gives is read
off its definition from the first step to the last.
-/

namespace WideColumn

variable {ε ε' α β : Type}

theorem bind_eq_ok_iff {step : Except ε α} {next : α → Except ε β} {b : β} :
    (step >>= next) = .ok b ↔ ∃ a, step = .ok a ∧ next a = .ok b := by
  cases step with
  | error e => simp [bind, Except.bind]
  | ok a => simp [bind, Except.bind]

theorem map_eq_ok_iff {step : Except ε α} {f : α → β} {b : β} :
    step.map f = .ok b ↔ ∃ a, step = .ok a ∧ f a = b := by
  cases step with
  | error e => simp [Except.map]
  | ok a => simp [Except.map]

theorem exists_map_iff {step : Except ε α} {f : α → β} : (∃ b, step.map f = .ok b) ↔ ∃ a, step = .ok a := by
  cases step with
  | error e => simp [Except.map]
  | ok a => simp [Except.map]

theorem map_eq_error_iff {step : Except ε α} {f : α → β} {e : ε} :
    step.map f = .error e ↔ step = .error e := by
  cases step with
  | error cause => simp [Except.map]
  | ok a => simp [Except.map]

theorem except_map_map {γ : Type} {step : Except ε α} {f : α → β} {g : β → γ} :
    (step.map f).map g = step.map fun a => g (f a) := by
  cases step with
  | error e => rfl
  | ok a => rfl

theorem mapError_eq_ok_iff {step : Except ε α} {f : ε → ε'} {a : α} :
    step.mapError f = .ok a ↔ step = .ok a := by
  cases step with
  | error e => constructor <;> rintro ⟨⟩
  | ok b =>
    constructor
    · rintro ⟨⟩
      rfl
    · rintro ⟨⟩
      rfl

theorem mapM_cons_eq_ok_iff {f : α → Except ε β} {item : α} {items : List α} {results : List β} :
    (item :: items).mapM f = .ok results ↔
      ∃ first rest, f item = .ok first ∧ items.mapM f = .ok rest ∧ results = first :: rest := by
  rw [List.mapM_cons, bind_eq_ok_iff]
  constructor
  · rintro ⟨first, hfirst, h⟩
    obtain ⟨rest, hrest, h⟩ := bind_eq_ok_iff.1 h
    cases h
    exact ⟨first, rest, hfirst, hrest, rfl⟩
  · rintro ⟨first, rest, hfirst, hrest, rfl⟩
    exact ⟨first, hfirst, bind_eq_ok_iff.2 ⟨rest, hrest, rfl⟩⟩

/-! ## Items and their results -/

variable {f : α → Except ε β} {items : List α} {results : List β}

/-- Every item has its result among the results. -/
theorem exists_result_of_mapM (h : items.mapM f = .ok results) {item : α} (hm : item ∈ items) :
    ∃ result ∈ results, f item = .ok result := by
  induction items generalizing results with
  | nil => cases hm
  | cons first items ih =>
    obtain ⟨result, rest, hresult, hrest, rfl⟩ := mapM_cons_eq_ok_iff.1 h
    rcases List.mem_cons.1 hm with rfl | hm
    · exact ⟨result, List.mem_cons_self, hresult⟩
    · obtain ⟨other, ho, hother⟩ := ih hrest hm
      exact ⟨other, List.mem_cons_of_mem _ ho, hother⟩

/-- Every result is that of an item. -/
theorem exists_item_of_mapM (h : items.mapM f = .ok results) {result : β} (hm : result ∈ results) :
    ∃ item ∈ items, f item = .ok result := by
  induction items generalizing results with
  | nil =>
    cases h
    cases hm
  | cons first items ih =>
    obtain ⟨other, rest, hother, hrest, rfl⟩ := mapM_cons_eq_ok_iff.1 h
    rcases List.mem_cons.1 hm with rfl | hm
    · exact ⟨first, List.mem_cons_self, hother⟩
    · obtain ⟨item, hi, hitem⟩ := ih hrest hm
      exact ⟨item, List.mem_cons_of_mem _ hi, hitem⟩

/-- There are results exactly if the items give them one by one. -/
theorem mapM_eq_ok_iff_map : items.mapM f = .ok results ↔ items.map f = results.map .ok := by
  induction items generalizing results with
  | nil =>
    constructor
    · rintro ⟨⟩
      rfl
    · intro h
      rw [List.map_eq_nil_iff.1 h.symm]
      rfl
  | cons first items ih =>
    rw [mapM_cons_eq_ok_iff, List.map_cons]
    constructor
    · rintro ⟨result, rest, hresult, hrest, rfl⟩
      rw [List.map_cons, hresult, ih.1 hrest]
    · intro h
      obtain ⟨result, rest, rfl, hresult, hrest⟩ := List.map_eq_cons_iff.1 h.symm
      exact ⟨result, rest, hresult.symm, ih.2 hrest.symm, rfl⟩

/-- If not all items have a result, the failure is that of an item. -/
theorem exists_error_of_mapM {e : ε} (h : items.mapM f = .error e) : ∃ item ∈ items, f item = .error e := by
  induction items with
  | nil => cases h
  | cons first items ih =>
    rw [List.mapM_cons] at h
    cases hfirst : f first with
    | error cause =>
      rw [hfirst] at h
      cases h
      exact ⟨first, List.mem_cons_self, hfirst⟩
    | ok result =>
      rw [hfirst] at h
      cases hrest : items.mapM f with
      | error cause =>
        simp only [hrest] at h
        cases h
        obtain ⟨item, hm, hitem⟩ := ih hrest
        exact ⟨item, List.mem_cons_of_mem _ hm, hitem⟩
      | ok results =>
        simp only [hrest] at h
        cases h

/-- All items have a result if each of them has one. -/
theorem exists_mapM_iff : (∃ results, items.mapM f = .ok results) ↔ ∀ item ∈ items, ∃ result, f item = .ok result := by
  constructor
  · rintro ⟨results, h⟩ item hm
    obtain ⟨result, -, hresult⟩ := exists_result_of_mapM h hm
    exact ⟨result, hresult⟩
  · intro h
    cases hmap : items.mapM f with
    | ok results => exact ⟨results, rfl⟩
    | error e =>
      obtain ⟨item, hm, herror⟩ := exists_error_of_mapM hmap
      obtain ⟨result, hresult⟩ := h item hm
      cases herror.symm.trans hresult

/-- The failure is that of the first item without a result. -/
theorem mapM_eq_error_iff {e : ε} :
    items.mapM f = .error e ↔ ∃ front item back, items = front ++ item :: back ∧
      (∀ other ∈ front, ∃ result, f other = .ok result) ∧ f item = .error e := by
  induction items with
  | nil =>
    constructor
    · rintro ⟨⟩
    · rintro ⟨front, item, back, h, -⟩
      cases front <;> cases h
  | cons first items ih =>
    rw [List.mapM_cons]
    cases hfirst : f first with
    | error cause =>
      constructor
      · rintro ⟨⟩
        exact ⟨[], first, items, rfl, by simp, hfirst⟩
      · rintro ⟨front, item, back, h, hfront, hitem⟩
        cases front with
        | nil =>
          cases h
          cases hfirst.symm.trans hitem
          rfl
        | cons other front =>
          cases h
          obtain ⟨result, hresult⟩ := hfront first List.mem_cons_self
          cases hfirst.symm.trans hresult
    | ok result =>
      have hrest : (do
          let rest ← items.mapM f
          return result :: rest : Except ε (List β)) = .error e ↔ items.mapM f = .error e := by
        cases items.mapM f <;> simp [bind, Except.bind, pure, Except.pure]
      constructor
      · intro h
        obtain ⟨front, item, back, rfl, hfront, hitem⟩ := ih.1 (hrest.1 h)
        refine ⟨first :: front, item, back, rfl, fun other hm => ?_, hitem⟩
        rcases List.mem_cons.1 hm with rfl | hm
        · exact ⟨result, hfirst⟩
        · exact hfront other hm
      · rintro ⟨front, item, back, h, hfront, hitem⟩
        cases front with
        | nil =>
          cases h
          cases hfirst.symm.trans hitem
        | cons other front =>
          cases h
          exact hrest.2 (ih.2 ⟨front, item, back, rfl, fun other hm => hfront other (List.mem_cons_of_mem _ hm), hitem⟩)

end WideColumn
