import WideColumn.Criteria.Reader
import WideColumn.Proofs.Success
/-!
# What criteria take from a document

Every predicate of an object of conditions, at any depth of `and`, becomes a
condition of the filter. An object with one of the four names of an envelope
has its conditions under `where`, and its other names are not looked at.
-/

namespace WideColumn

/-! ## Filters -/

namespace Filter

mutual

/-- A filter is empty if it has no condition. -/
theorem isEmpty_eq_true_iff : ∀ filter : Filter, filter.isEmpty = true ↔ filter.fields = []
  | .field name condition => by simp [isEmpty, fields]
  | .all children => by rw [isEmpty, fields, areEmpty_eq_true_iff children]

theorem areEmpty_eq_true_iff :
    ∀ filters : List Filter, areEmpty filters = true ↔ fieldsOfAll filters = []
  | [] => by simp [areEmpty, fieldsOfAll]
  | child :: children => by
    rw [areEmpty, fieldsOfAll, Bool.and_eq_true, List.append_eq_nil_iff, isEmpty_eq_true_iff child,
      areEmpty_eq_true_iff children]

end

theorem mem_fieldsOfAll {filters : List Filter} {child : Filter} (hc : child ∈ filters)
    {field : String × Condition} (h : field ∈ child.fields) : field ∈ fieldsOfAll filters := by
  induction filters with
  | nil => cases hc
  | cons first rest ih =>
    rw [fieldsOfAll, List.mem_append]
    rcases List.mem_cons.1 hc with rfl | hr
    · exact .inl h
    · exact .inr (ih hr)

/-- The filter of one field of an object. -/
def readField (name : String) (value : Json) : Except CriteriaError Filter :=
  if name = "and" then
    match value with
    | .array items => (readAll items).map .all
    | _ => .error .andNotAnArray
  else if name = "or" then .error .disjunction
  else (Condition.read name value).map (.field name)

theorem readFields_eq_mapM (entries : List (String × Json)) :
    readFields entries = entries.mapM fun entry => readField entry.1 entry.2 := by
  induction entries with
  | nil => rfl
  | cons entry rest ih =>
    obtain ⟨name, value⟩ := entry
    rw [List.mapM_cons, ← ih]
    unfold readField
    by_cases ha : name = "and"
    · cases value <;> simp only [readFields, if_pos ha]
    · by_cases ho : name = "or"
      · cases value <;> simp only [readFields, if_neg ha, if_pos ho]
      · cases value <;> simp only [readFields, if_neg ha, if_neg ho]

theorem readAll_eq_mapM (items : List Json) : readAll items = items.mapM read := by
  induction items with
  | nil => rfl
  | cons item rest ih => rw [readAll, List.mapM_cons, ih]

/-- The predicates of an object of conditions: its fields, and those of the
objects under `and`. -/
inductive Mentions : Json → String → Json → Prop where
  | field {entries : List (String × Json)} {name : String} {value : Json} (hm : (name, value) ∈ entries)
      (hn : name ≠ "and") : Mentions (.object entries) name value
  | nested {entries : List (String × Json)} {items : List Json} {item : Json} {name : String}
      {value : Json}
      (hm : ("and", .array items) ∈ entries) (hi : item ∈ items) (h : Mentions item name value) :
      Mentions (.object entries) name value

/-- No predicate is left out of a filter. -/
theorem mem_fields_of_mentions {document : Json} {name : String} {value : Json}
    (hm : Mentions document name value) {filter : Filter} (h : read document = .ok filter) :
    ∃ condition, Condition.read name value = .ok condition ∧ (name, condition) ∈ filter.fields := by
  -- the induction follows the path of `and` that leads to the predicate
  induction hm generalizing filter with
  | field hm hn =>
    rw [read, readFields_eq_mapM] at h
    obtain ⟨children, hchildren, rfl⟩ := map_eq_ok_iff.1 h
    obtain ⟨child, hc, hread⟩ := exists_result_of_mapM hchildren hm
    unfold readField at hread
    rw [if_neg hn] at hread
    split at hread
    · cases hread
    · obtain ⟨condition, hcondition, rfl⟩ := map_eq_ok_iff.1 hread
      exact ⟨condition, hcondition, mem_fieldsOfAll hc (by simp [fields])⟩
  | nested hm hi _ ih =>
    rw [read, readFields_eq_mapM] at h
    obtain ⟨children, hchildren, rfl⟩ := map_eq_ok_iff.1 h
    obtain ⟨child, hc, hread⟩ := exists_result_of_mapM hchildren hm
    rw [readField, if_pos rfl, readAll_eq_mapM] at hread
    obtain ⟨nested, hnested, rfl⟩ := map_eq_ok_iff.1 hread
    obtain ⟨inner, hinner, hread⟩ := exists_result_of_mapM hnested hi
    obtain ⟨condition, hcondition, hfield⟩ := ih hread
    refine ⟨condition, hcondition, mem_fieldsOfAll hc ?_⟩
    rw [fields]
    exact mem_fieldsOfAll hinner hfield

end Filter

/-! ## Envelopes -/

namespace Criteria

/-- Whether an object is an envelope. -/
def isEnvelope (fields : Record) : Bool := envelopeNames.any (Fields.has fields)

/-- The object of conditions: an object itself, or what an envelope holds
under `where`. -/
def conditions (fields : Record) : Json :=
  if isEnvelope fields then (fields.get? "where").getD .null else .object fields

/-- The filter of an object is that of its conditions. -/
theorem filter_of_read {key : String} {fields : Record} {criteria : Criteria}
    (h : read key (.object fields) = .ok criteria) :
    conditions fields = .null ∧ criteria.filter = none ∨
      ∃ filter, Filter.read (conditions fields) = .ok filter ∧
      criteria.filter = if filter.isEmpty then none else some filter := by
  rw [read] at h
  rw [conditions]
  change (if isEnvelope fields then _ else _) = _ at h
  split at h
  -- an envelope: limit, skip and sort leave the filter as it is
  · next he =>
    rw [if_pos he]
    obtain ⟨found, hfound, h⟩ := bind_eq_ok_iff.1 h
    obtain ⟨limit, -, h⟩ := bind_eq_ok_iff.1 h
    obtain ⟨skip, -, h⟩ := bind_eq_ok_iff.1 h
    obtain ⟨sort, -, h⟩ := bind_eq_ok_iff.1 h
    cases h
    rw [mapError_eq_ok_iff, readWhere] at hfound
    split at hfound
    · next hnone =>
      cases hfound
      exact .inl ⟨by rw [hnone]; rfl, rfl⟩
    · next hnull =>
      cases hfound
      exact .inl ⟨by rw [hnull]; rfl, rfl⟩
    · next value _ hvalue =>
      obtain ⟨filter, hfilter, rfl⟩ := map_eq_ok_iff.1 hfound
      exact .inr ⟨filter, by rw [hvalue]; exact hfilter, rfl⟩
  · next he =>
    rw [if_neg he]
    obtain ⟨filter, hfilter, rfl⟩ := map_eq_ok_iff.1 (mapError_eq_ok_iff.1 h)
    exact .inr ⟨filter, hfilter, rfl⟩

theorem mem_fields_of_read {key : String} {fields : Record} {criteria : Criteria}
    (h : read key (.object fields) = .ok criteria) {name : String} {value : Json}
    (hm : Filter.Mentions (conditions fields) name value) :
    ∃ filter condition, criteria.filter = some filter ∧ Condition.read name value = .ok condition ∧
      (name, condition) ∈ filter.fields := by
  rcases filter_of_read h with ⟨hnull, -⟩ | ⟨filter, hread, hfilter⟩
  · rw [hnull] at hm
    cases hm
  · obtain ⟨condition, hcondition, hfield⟩ := Filter.mem_fields_of_mentions hm hread
    have hne : ¬filter.isEmpty = true := by
      rw [Filter.isEmpty_eq_true_iff]
      exact List.ne_nil_of_mem hfield
    exact ⟨filter, condition, by rw [hfilter, if_neg hne], hcondition, hfield⟩

/-- The fields of an object under the names of an envelope. -/
def envelopeFields (fields : Record) : Record :=
  fields.filter fun field => envelopeNames.contains field.1

theorem get?_envelopeFields (fields : Record) (name : String) (h : name ∈ envelopeNames) :
    (envelopeFields fields).get? name = fields.get? name := by
  induction fields with
  | nil => rfl
  | cons field rest ih =>
    obtain ⟨first, value⟩ := field
    rw [envelopeFields] at ih ⊢
    by_cases hf : first ∈ envelopeNames
    · rw [List.filter_cons_of_pos (by simpa using hf), Fields.get?, Fields.get?, ih]
    · have hne : first ≠ name := fun he => hf (he ▸ h)
      rw [List.filter_cons_of_neg (by simpa using hf), ih, Fields.get?, if_neg hne]

/-- An envelope means the same without its other names. -/
theorem read_envelopeFields (key : String) {fields : Record} (h : isEnvelope fields = true) :
    read key (.object fields) = read key (.object (envelopeFields fields)) := by
  have hwhere := get?_envelopeFields fields "where" (by decide)
  have hlimit := get?_envelopeFields fields "limit" (by decide)
  have hskip := get?_envelopeFields fields "skip" (by decide)
  have hsort := get?_envelopeFields fields "sort" (by decide)
  have hhas : isEnvelope (envelopeFields fields) = isEnvelope fields := by
    simp only [isEnvelope, envelopeNames, List.any_cons, List.any_nil, Fields.has, hwhere, hlimit,
      hskip, hsort]
  have hbody : readEnvelope (envelopeFields fields) = readEnvelope fields := by
    simp only [readEnvelope, readWhere, readCount, readSort, hwhere, hlimit, hskip, hsort]
  rw [read, read]
  -- both objects are envelopes, with the same fields under the four names
  change (if isEnvelope fields then _ else _) = if isEnvelope (envelopeFields fields) then _ else _
  rw [hhas, if_pos h, if_pos h, hbody]

end Criteria
end WideColumn
