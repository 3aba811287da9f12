import WideColumn.Fields
/-!
# Fields without repetition

Fields that are built up by insertion never name anything twice. Conversely,
entries that name nothing twice are the fields that they describe.
-/

namespace WideColumn.Fields

variable {α : Type}

theorem names_cons (field : String × α) (fields : Fields α) :
    names (field :: fields) = field.1 :: fields.names := rfl

theorem names_singleton (field : String × α) : names [field] = [field.1] := rfl

theorem names_append (fields others : Fields α) : names (fields ++ others) = fields.names ++ others.names :=
  List.map_append

theorem nodup_names_insert {fields : Fields α} (h : fields.names.Nodup) (key : String) (value : α) :
    (fields.insert key value).names.Nodup := by
  rw [names_insert]
  split
  · exact h
  · next hk =>
    refine List.nodup_append.2 ⟨h, by simp, ?_⟩
    rintro name hn other ho rfl
    exact hk (List.mem_singleton.1 ho ▸ hn)

theorem insert_of_not_mem {fields : Fields α} {key : String} (value : α) (h : key ∉ fields.names) :
    fields.insert key value = fields ++ [(key, value)] := by
  induction fields with
  | nil => rfl
  | cons entry rest ih =>
    obtain ⟨name, old⟩ := entry
    simp only [names, List.map_cons, List.mem_cons, not_or] at h
    rw [insert, if_neg (Ne.symm h.1), ih h.2]
    rfl

theorem insertAll_eq_append (fields : Fields α) (entries : List (String × α))
    (h : (names (fields ++ entries)).Nodup) : fields.insertAll entries = fields ++ entries := by
  induction entries generalizing fields with
  | nil => exact (List.append_nil fields).symm
  | cons entry entries ih =>
    have hn : entry.1 ∉ fields.names := by
      simp only [names, List.map_append, List.map_cons] at h
      intro hm
      exact (List.nodup_append.1 h).2.2 _ hm _ List.mem_cons_self rfl
    have hins : fields.insert entry.1 entry.2 = fields ++ [entry] := insert_of_not_mem entry.2 hn
    have hrest := ih (fields ++ [entry]) (by simpa using h)
    simp only [insertAll, List.foldl_cons, hins] at hrest ⊢
    rw [hrest, List.append_assoc, List.singleton_append]

/-- Entries that name nothing twice are fields as they stand. -/
theorem ofEntries_eq_self {entries : List (String × α)} (h : (names entries).Nodup) :
    ofEntries entries = entries :=
  insertAll_eq_append [] entries h

theorem nodup_names_ofEntries (entries : List (String × α)) : (ofEntries entries).names.Nodup := by
  suffices h : ∀ fields : Fields α, fields.names.Nodup → (fields.insertAll entries).names.Nodup from
    h [] List.nodup_nil
  induction entries with
  | nil => exact fun fields h => h
  | cons entry entries ih => exact fun fields h => ih _ (nodup_names_insert h entry.1 entry.2)

theorem mem_names_insert_iff {fields : Fields α} {key name : String} {value : α} :
    name ∈ (fields.insert key value).names ↔ name ∈ fields.names ∨ name = key := by
  rw [names_insert]
  split
  · next hk =>
    constructor
    · exact Or.inl
    · rintro (hm | rfl)
      · exact hm
      · exact hk
  · rw [List.mem_append, List.mem_singleton]

/-- Only names of the entries come into fields. -/
theorem names_ofEntries_subset (entries : List (String × α)) : (ofEntries entries).names ⊆ names entries := by
  suffices h : ∀ fields : Fields α, (fields.insertAll entries).names ⊆ fields.names ++ names entries by
    exact h []
  induction entries with
  | nil => exact fun fields => List.subset_append_left _ _
  | cons entry entries ih =>
    intro fields name hm
    rcases List.mem_append.1 (ih (fields.insert entry.1 entry.2) hm) with hm | hm
    · rcases mem_names_insert_iff.1 hm with hm | rfl
      · exact List.mem_append_left _ hm
      · exact List.mem_append_right _ List.mem_cons_self
    · exact List.mem_append_right _ (List.mem_cons_of_mem _ hm)

theorem get?_of_mem {fields : Fields α} (h : fields.names.Nodup) {name : String} {value : α}
    (hm : (name, value) ∈ fields) : fields.get? name = some value := by
  induction fields with
  | nil => cases hm
  | cons entry rest ih =>
    obtain ⟨first, old⟩ := entry
    simp only [names, List.map_cons, List.nodup_cons] at h
    rcases List.mem_cons.1 hm with he | hr
    · cases he
      simp [get?]
    · have hne : first ≠ name := by
        rintro rfl
        exact h.1 (List.mem_map_of_mem (f := Prod.fst) hr)
      rw [get?, if_neg hne, ih h.2 hr]

theorem mem_of_get? {fields : Fields α} {name : String} {value : α} (h : fields.get? name = some value) :
    (name, value) ∈ fields := by
  induction fields with
  | nil => cases h
  | cons entry rest ih =>
    obtain ⟨first, old⟩ := entry
    rw [get?] at h
    split at h
    · next he =>
      cases h
      exact he ▸ List.mem_cons_self
    · exact List.mem_cons_of_mem _ (ih h)

theorem has_iff (fields : Fields α) (name : String) : fields.has name = true ↔ name ∈ fields.names := by
  rw [has, Option.isSome_iff_ne_none, ne_eq, get?_eq_none_iff, Classical.not_not]

/-! ## Erasing -/

theorem erase_eq_filter (fields : Fields α) (key : String) :
    fields.erase key = fields.filter fun field => field.1 ≠ key := by
  induction fields with
  | nil => rfl
  | cons entry rest ih =>
    obtain ⟨name, value⟩ := entry
    by_cases h : name = key <;> simp [erase, h, ih]

theorem erase_of_not_mem {fields : Fields α} {key : String} (h : key ∉ fields.names) :
    fields.erase key = fields := by
  rw [erase_eq_filter, List.filter_eq_self]
  rintro ⟨name, value⟩ hm
  rw [decide_eq_true_eq]
  rintro rfl
  exact h (List.mem_map_of_mem (f := Prod.fst) hm)

/-- The field of a name and the others are all fields. -/
theorem perm_cons_erase {fields : Fields α} (hn : fields.names.Nodup) {key : String} {value : α}
    (h : fields.get? key = some value) : List.Perm ((key, value) :: fields.erase key) fields := by
  induction fields with
  | nil => cases h
  | cons entry rest ih =>
    obtain ⟨name, old⟩ := entry
    simp only [names, List.map_cons, List.nodup_cons] at hn
    rw [get?] at h
    split at h
    · next hname =>
      subst hname
      cases h
      rw [erase, if_pos rfl, erase_of_not_mem hn.1]
    · next hname =>
      rw [erase, if_neg hname]
      exact (List.Perm.swap ..).trans ((ih hn.2 h).cons _)

end WideColumn.Fields
