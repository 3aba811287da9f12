import Mathlib.Data.List.Induction
import Mathlib.Data.List.Nodup
import Mathlib.Data.List.Perm.Subperm
import WideColumn.Proofs.Fields
/-!
# Names given more than once

Entries may give a value to one name several times. `lastGiven` says what is
left of them: every name stands where it was given first and has the value
that it was given last. That is what inserting the entries one after the
other comes to.
-/

namespace WideColumn.Fields

variable {α : Type}

/-- Every name once, in the order in which the names are first given, with the
value that it is given last. -/
def lastGiven (entries : List (String × α)) : Fields α :=
  (names entries).eraseDups.filterMap fun name => (get? entries.reverse name).map (name, ·)

/-! ## Inserting one after the other -/

theorem ofEntries_append_singleton (entries : List (String × α)) (entry : String × α) :
    ofEntries (entries ++ [entry]) = (ofEntries entries).insert entry.1 entry.2 := by
  rw [ofEntries, insertAll, List.foldl_append]
  rfl

theorem names_ofEntries (entries : List (String × α)) : (ofEntries entries).names = (names entries).eraseDups := by
  induction entries using List.reverseRecOn with
  | nil => rfl
  | append_singleton entries entry ih =>
    rw [ofEntries_append_singleton, names_insert, ih, names_append, names_singleton, List.eraseDups_append,
      List.cons_removeAll]
    simp only [List.mem_eraseDups, List.nil_removeAll, List.contains_eq_mem]
    by_cases h : entry.1 ∈ names entries
    · simp [h]
    · simp [h, List.eraseDups_cons]

theorem get?_ofEntries (entries : List (String × α)) (name : String) :
    (ofEntries entries).get? name = get? entries.reverse name := by
  induction entries using List.reverseRecOn with
  | nil => rfl
  | append_singleton entries entry ih =>
    rw [ofEntries_append_singleton, List.reverse_append, List.reverse_singleton, List.singleton_append, get?]
    split
    · next h => rw [h, get?_insert_self]
    · next h => rw [get?_insert_of_ne _ _ (Ne.symm h), ih]

/-- Where nothing is named twice, an entry's name is given neither before it nor
behind it. -/
theorem not_mem_of_nodup {before after : List (String × α)} {name : String} {value : α}
    (h : (names (before ++ (name, value) :: after)).Nodup) : name ∉ names before ∧ name ∉ names after := by
  rw [names_append, names_cons, List.nodup_middle, List.nodup_cons, List.mem_append, not_or] at h
  exact h.1

theorem get?_append_of_not_mem {fields : Fields α} {name : String} (h : name ∉ fields.names) (others : Fields α) :
    get? (fields ++ others) name = others.get? name := by
  induction fields with
  | nil => rfl
  | cons field fields ih =>
    rw [names_cons, List.mem_cons, not_or] at h
    rw [List.cons_append, get?, if_neg (Ne.symm h.1), ih h.2]

/-- Of a name that is given several times the last entry counts. -/
theorem get?_ofEntries_of_last {before after : List (String × α)} {name : String} (value : α)
    (h : name ∉ names after) : (ofEntries (before ++ (name, value) :: after)).get? name = some value := by
  have hreverse : name ∉ names after.reverse := by
    rwa [names, List.map_reverse, List.mem_reverse]
  rw [get?_ofEntries, List.reverse_append, List.reverse_cons, List.append_assoc, get?_append_of_not_mem hreverse]
  simp [get?]

/-- Fields are told by their names and what is found under them. -/
theorem eq_filterMap_get? {fields : Fields α} (h : fields.names.Nodup) :
    fields = fields.names.filterMap fun name => (fields.get? name).map (name, ·) := by
  conv_lhs => rw [← List.filterMap_some (l := fields)]
  rw [names, List.filterMap_map]
  refine List.filterMap_congr fun field hm => ?_
  rw [Function.comp_apply, get?_of_mem h hm]
  rfl

theorem ofEntries_eq_lastGiven (entries : List (String × α)) : ofEntries entries = lastGiven entries := by
  rw [eq_filterMap_get? (nodup_names_ofEntries entries), names_ofEntries, lastGiven]
  simp only [get?_ofEntries]

theorem names_lastGiven (entries : List (String × α)) : (lastGiven entries).names = (names entries).eraseDups := by
  rw [← ofEntries_eq_lastGiven, names_ofEntries]

theorem lastGiven_eq_self {entries : List (String × α)} (h : (names entries).Nodup) : lastGiven entries = entries :=
  (ofEntries_eq_lastGiven entries).symm.trans (ofEntries_eq_self h)

/-- If nothing is lost, no name was given twice. -/
theorem nodup_names_of_length_lastGiven {entries : List (String × α)}
    (h : entries.length ≤ (lastGiven entries).length) : (names entries).Nodup := by
  rw [← ofEntries_eq_lastGiven] at h
  have hnodup := nodup_names_ofEntries entries
  have hsub := List.subperm_of_subset hnodup (names_ofEntries_subset entries)
  have hperm := hsub.perm_of_length_le (by simpa only [names, List.length_map] using h)
  exact hperm.nodup_iff.1 hnodup

/-! ## Behind other fields -/

theorem insert_append_of_not_mem {fields : Fields α} {name : String} (h : name ∉ fields.names) (others : Fields α)
    (value : α) : Fields.insert (fields ++ others) name value = fields ++ others.insert name value := by
  induction fields with
  | nil => rfl
  | cons field fields ih =>
    rw [names_cons, List.mem_cons, not_or] at h
    rw [List.cons_append, insert, if_neg (Ne.symm h.1), ih h.2, List.cons_append]

/-- Entries under new names come behind the fields that are there. -/
theorem insertAll_eq_append_lastGiven {fields : Fields α} {entries : List (String × α)}
    (h : ∀ name ∈ names entries, name ∉ fields.names) : fields.insertAll entries = fields ++ lastGiven entries := by
  rw [← ofEntries_eq_lastGiven]
  induction entries using List.reverseRecOn with
  | nil => exact (List.append_nil fields).symm
  | append_singleton entries entry ih =>
    rw [names_append] at h
    have hentries := ih fun name hm => h name (List.mem_append_left _ hm)
    have hentry : entry.1 ∉ fields.names := h _ (List.mem_append_right _ List.mem_cons_self)
    rw [ofEntries_append_singleton, ← insert_append_of_not_mem hentry, ← hentries, insertAll, List.foldl_append]
    rfl

end WideColumn.Fields
