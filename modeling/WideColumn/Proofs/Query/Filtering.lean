import WideColumn.Proofs.Criteria.Reader
import WideColumn.Proofs.Query.Plan
/-!
# Filters reach the store

What a caller asks of the records to be destroyed is asked of the store: each
predicate of the criteria makes a comparison in the statement that reads the
keys, or in the statement about the one row that the criteria name.
-/

namespace WideColumn

/-- Bounds are read from an object that is not empty. -/
theorem Condition.ne_within_nil_of_read {field : String} {value : Json} {condition : Condition}
    (h : Condition.read field value = .ok condition) : condition ≠ .within [] := by
  rintro rfl
  unfold Condition.read at h
  split at h
  · cases h
  · split at h <;> cases h
  · cases h
  · next hne => exact hne (by cases h; rfl)
  · cases h

/-- A plan whose rows are asked for by a column, among others: the row of a
direct statement, or those whose keys are read. -/
inductive MutationPlan.Asks (column : String) : MutationPlan → Prop where
  | direct {kind : StatementKind} {head : String} {key : PinnedKey} {params : List Json}
      {record : Record} (h : ∃ comparison ∈ key.clause, comparison.column = column) :
      Asks column (.direct (Schema.keyedStatement kind head key params) record)
  | twoPhase {head : String} {clause : Clause} {order : List String} {limit : Option Nat}
      {template : MutationTemplate} (h : ∃ comparison ∈ clause, comparison.column = column) :
      Asks column (.twoPhase (Schema.scanStatement head clause order limit) template)

namespace Schema

variable {schema : Schema} {criteria : Criteria}

/-- What is destroyed is asked for by each predicate of the filter. -/
theorem asks_of_delete {filter : Filter} (hf : criteria.filter = some filter) {name : String}
    {condition : Condition} (hm : (name, condition) ∈ filter.fields) (hne : condition ≠ .within [])
    {plan : MutationPlan} (h : schema.delete criteria = .ok plan) :
    ∃ column, schema.find? name = some column ∧ plan.Asks column.name := by
  rcases mutation_eq_ok_iff.1 h with ⟨key, hkey, rfl⟩ | ⟨hnone, select, hselect, rfl⟩
  · obtain ⟨column, hcolumn, hcompared⟩ := comparison_of_pinnedKey hf hm hkey
    exact ⟨column, hcolumn, .direct hcompared⟩
  · rw [selectKeys_eq_query] at hselect
    rcases query_eq_ok_iff.1 hselect with ⟨key, hkey, -⟩ | ⟨-, clause, order, hclause, -, rfl⟩
    · cases hnone.symm.trans hkey
    · rw [whereClause, hf] at hclause
      obtain ⟨part, hpart, hsub⟩ := compare_subset_clause hclause hm
      obtain ⟨column, hcolumn, hall⟩ := column_of_compare hpart
      obtain ⟨comparison, hc⟩ := List.exists_mem_of_ne_nil part (compare_ne_nil hne hpart)
      exact ⟨column, hcolumn, .twoPhase ⟨comparison, hsub hc, hall comparison hc⟩⟩

/-- Every predicate of an object of conditions takes part in the criteria and
in what is destroyed with them. An envelope has its conditions under `where`,
and its other names are as if they were not there. -/
theorem predicates_take_part {key : String} {fields : Record}
    (h : Criteria.read key (.object fields) = .ok criteria) :
    (∀ name value, Filter.Mentions (Criteria.conditions fields) name value →
      (∃ condition, Condition.read name value = .ok condition ∧ (name, condition) ∈ criteria.fields) ∧
      criteria.isUnfiltered = false ∧
      ∀ (schema : Schema) (plan : MutationPlan), schema.delete criteria = .ok plan →
        ∃ column, schema.find? name = some column ∧ plan.Asks column.name) ∧
    (Criteria.isEnvelope fields = true →
      Criteria.read key (.object (Criteria.envelopeFields fields)) = .ok criteria) := by
  refine ⟨fun name value hm => ?_, fun he => (Criteria.read_envelopeFields key he).symm.trans h⟩
  obtain ⟨filter, condition, hfilter, hcondition, hfield⟩ := Criteria.mem_fields_of_read h hm
  refine ⟨⟨condition, hcondition, ?_⟩, ?_, fun schema plan hplan => ?_⟩
  · rw [Criteria.fields, hfilter]
    exact hfield
  · rw [Criteria.isUnfiltered, hfilter]
    rfl
  · exact asks_of_delete hfilter hfield (Condition.ne_within_nil_of_read hcondition) hplan

/-- A condition under `and` beside the condition of another field keeps its
part in what is destroyed. -/
theorem predicates_take_part_sample :
    ∃ criteria plan,
      Criteria.read "id"
        (.object [("years", .ofInt64 7), ("and", .array [.object [("tags", .string "x")]])]) =
        .ok criteria ∧
      "tags" ∈ criteria.fields.map Prod.fst ∧ criteria.isUnfiltered = false ∧
      Schema.sample.delete criteria = .ok plan ∧
      ∃ column, Schema.sample.find? "tags" = some column ∧ plan.Asks column.name := by
  have hread : Criteria.read "id"
      (.object [("years", .ofInt64 7), ("and", .array [.object [("tags", .string "x")]])]) =
      .ok { filter := some (.all [.field "years" (.equals (.ofInt64 7)),
        .all [.all [.field "tags" (.equals (.string "x"))]]]) } := rfl
  obtain ⟨plan, hplan⟩ : ∃ plan, Schema.sample.delete
      { filter := some (.all [.field "years" (.equals (.ofInt64 7)),
        .all [.all [.field "tags" (.equals (.string "x"))]]]) } = .ok plan := ⟨_, rfl⟩
  have hnested : Filter.Mentions (.object [("tags", .string "x")]) "tags" (.string "x") :=
    .field List.mem_cons_self (by decide)
  obtain ⟨hall, -⟩ := predicates_take_part hread
  obtain ⟨⟨condition, -, hfield⟩, hfiltered, hdelete⟩ := hall "tags" (.string "x")
    (.nested (List.mem_cons_of_mem _ List.mem_cons_self) List.mem_cons_self hnested)
  exact ⟨_, plan, hread, List.mem_map_of_mem (f := Prod.fst) hfield, hfiltered, hplan,
    hdelete _ plan hplan⟩

/-- Not every name of an object takes part: next to `limit` there are no
conditions. -/
theorem not_every_name_takes_part :
    ¬∀ (key : String) (fields : Record) (criteria : Criteria),
      Criteria.read key (.object fields) = .ok criteria →
      ∀ name ∈ fields.names, name ∉ Criteria.envelopeNames → name ≠ "and" →
        name ∈ criteria.fields.map Prod.fst := by
  intro h
  have hread : Criteria.read "id" (.object [("lastName", .string "Doe"), ("limit", .ofInt64 1)]) =
      .ok { limit := some 1 } := rfl
  exact absurd (h _ _ _ hread "lastName" (by decide) (by decide) (by decide)) (by decide)

end Schema
end WideColumn
