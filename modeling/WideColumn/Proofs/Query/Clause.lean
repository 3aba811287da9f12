import WideColumn.Proofs.Query.Bounds
import WideColumn.Proofs.Schema.Coherence
/-!
# Clauses of flattened filters

Nesting makes no difference to a clause: it is put together from the
conditions of the filter from left to right. So everything about clauses is
proved over the list of conditions.
-/

namespace WideColumn

theorem Comparison.text_equal (column : String) (value : Json) :
    Comparison.text ⟨column, .equal, value⟩ = quoteName column ++ " = ?" := by
  simp only [text, Operator.token, String.append_assoc]
  rfl

namespace Schema

variable {schema : Schema}

/-! ## Names -/

theorem resolve_eq_ok_iff {name : String} {column : Column} :
    schema.resolve name = .ok column ↔ schema.find? name = some column := by
  unfold resolve
  cases schema.find? name <;> simp

theorem mem_of_resolve {name : String} {column : Column} (h : schema.resolve name = .ok column) :
    column ∈ schema.columns :=
  (Column.mem_of_find? (resolve_eq_ok_iff.1 h)).1

/-! ## Conditions in a row -/

/-- The clause of conditions, one behind the other. -/
def clauseOfFields (schema : Schema) : List (String × Condition) → Except CompileError Clause
  | [] => .ok []
  | (name, condition) :: rest => do
    let first ← schema.compare name condition
    let more ← clauseOfFields schema rest
    return first ++ more

theorem clauseOfFields_append (front back : List (String × Condition)) :
    schema.clauseOfFields (front ++ back) = do
      let first ← schema.clauseOfFields front
      let rest ← schema.clauseOfFields back
      return first ++ rest := by
  induction front with
  | nil =>
    cases hback : schema.clauseOfFields back with
    | error e => simp [clauseOfFields, hback, bind, Except.bind]
    | ok clause => simp [clauseOfFields, hback, bind, Except.bind, pure, Except.pure]
  | cons entry front ih =>
    obtain ⟨name, condition⟩ := entry
    simp only [List.cons_append, clauseOfFields, ih, bind_assoc, pure_bind, List.append_assoc]

mutual

/-- The clause of a filter is that of its conditions. -/
theorem clause_eq_clauseOfFields :
    ∀ filter : Filter, schema.clause filter = schema.clauseOfFields filter.fields
  | .field name condition => by
    rw [clause, Filter.fields, clauseOfFields, clauseOfFields]
    cases schema.compare name condition with
    | error e => rfl
    | ok first => exact congrArg Except.ok (List.append_nil first).symm
  | .all children => by
    rw [clause, Filter.fields, clauseOfAll_eq_clauseOfFields children]

theorem clauseOfAll_eq_clauseOfFields :
    ∀ filters : List Filter,
      schema.clauseOfAll filters = schema.clauseOfFields (Filter.fieldsOfAll filters)
  | [] => rfl
  | child :: children => by
    rw [clauseOfAll, Filter.fieldsOfAll, clauseOfFields_append, clause_eq_clauseOfFields child,
      clauseOfAll_eq_clauseOfFields children]

end

/-- A clause is made of one part for each condition. -/
theorem clause_eq_mapM (filter : Filter) : schema.clause filter =
    (filter.fields.mapM fun field => schema.compare field.1 field.2).map List.flatten := by
  rw [clause_eq_clauseOfFields]
  induction filter.fields with
  | nil => rfl
  | cons field rest ih =>
    rw [clauseOfFields, ih, List.mapM_cons]
    cases schema.compare field.1 field.2 with
    | error e => rfl
    | ok first => cases rest.mapM fun field => schema.compare field.1 field.2 <;> rfl

theorem clause_eq_ok_iff {filter : Filter} {clause : Clause} :
    schema.clause filter = .ok clause ↔
      ∃ parts, filter.fields.mapM (fun field => schema.compare field.1 field.2) = .ok parts ∧
        clause = parts.flatten := by
  rw [clause_eq_mapM, map_eq_ok_iff]
  simp only [eq_comm]

/-! ## Columns of a clause -/

theorem column_of_compare {name : String} {condition : Condition} {clause : Clause}
    (h : schema.compare name condition = .ok clause) :
    ∃ column, schema.find? name = some column ∧
      ∀ comparison ∈ clause, comparison.column = column.name := by
  obtain ⟨column, hcolumn, h⟩ := bind_eq_ok_iff.1 h
  refine ⟨column, resolve_eq_ok_iff.1 hcolumn, ?_⟩
  cases condition with
  | equals value | among values =>
    cases h
    simp
  | within bounds =>
    obtain ⟨bounds, -, h⟩ := bind_eq_ok_iff.1 h
    cases h
    rintro comparison hm
    obtain ⟨bound, -, rfl⟩ := List.mem_map.1 hm
    rfl

/-- A clause compares columns of the table only. -/
theorem column_of_clause {filter : Filter} {clause : Clause} (h : schema.clause filter = .ok clause) :
    ∀ comparison ∈ clause, ∃ column ∈ schema.columns, comparison.column = column.name := by
  obtain ⟨parts, hparts, rfl⟩ := clause_eq_ok_iff.1 h
  intro comparison hm
  obtain ⟨part, hpart, hc⟩ := List.mem_flatten.1 hm
  obtain ⟨field, -, hcompare⟩ := exists_item_of_mapM hparts hpart
  obtain ⟨column, hcolumn, hall⟩ := column_of_compare hcompare
  exact ⟨column, (Column.mem_of_find? hcolumn).1, hall comparison hc⟩

/-! ## Comparisons of a field -/

/-- Only bounds that are an empty list make no comparison. -/
theorem compare_ne_nil {name : String} {condition : Condition} (hne : condition ≠ .within [])
    {clause : Clause} (h : schema.compare name condition = .ok clause) : clause ≠ [] := by
  obtain ⟨column, -, h⟩ := bind_eq_ok_iff.1 h
  cases condition with
  | equals value | among values =>
    cases h
    simp
  | within bounds =>
    obtain ⟨found, hfound, h⟩ := bind_eq_ok_iff.1 h
    cases h
    -- every bound makes a comparison
    cases readBounds_eq_iff.1 hfound with
    | sound hs =>
      intro hnil
      have hlength := hs.length_operatorsOf
      rw [List.map_eq_nil_iff.1 hnil] at hlength
      exact hne (congrArg Condition.within (List.length_eq_zero_iff.1 hlength.symm))

/-- The comparisons of each condition are in the clause. -/
theorem compare_subset_clause {filter : Filter} {clause : Clause}
    (h : schema.clause filter = .ok clause)
    {name : String} {condition : Condition} (hm : (name, condition) ∈ filter.fields) :
    ∃ part, schema.compare name condition = .ok part ∧ part ⊆ clause := by
  obtain ⟨parts, hparts, rfl⟩ := clause_eq_ok_iff.1 h
  obtain ⟨part, hpart, hcompare⟩ := exists_result_of_mapM hparts hm
  exact ⟨part, hcompare, fun _ hc => List.mem_flatten_of_mem hpart hc⟩

end Schema
end WideColumn
