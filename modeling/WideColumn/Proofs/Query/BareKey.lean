import WideColumn.Proofs.Criteria.Reader
import WideColumn.Proofs.Query.Plan
/-!
# A bare value as the key

A string, a number or a boolean in the place of criteria is meant to be the
value of the partition key. It is read as a condition on the key's attribute,
and the attribute's name is then looked up among the columns first. So the
value is about the key exactly if no other column has the name of the key's
attribute.
-/

namespace WideColumn

/-- A bare value is one condition. -/
theorem Criteria.read_scalar {key : String} {value : Json} (h : value.isScalar = true) :
    read key value = .ok { filter := some (.field key (.equals value)) } := by
  cases value with
  | string | number | bool => rfl
  | null | array | object => cases h

namespace Schema

variable {schema : Schema} {value : Json}

/-- No other column has the name of the key's attribute. -/
def KeyNameFree (schema : Schema) : Prop :=
  ∀ column ∈ schema.columns, column.name = schema.partition.attr → column.name = schema.partition.name

/-! ## The name of the key's attribute -/

theorem find?_partition (hs : schema.Coherent) (hfree : schema.KeyNameFree) :
    schema.find? schema.partition.attr = some schema.partition := by
  rw [find?, Column.find?]
  -- columns are looked for by name before they are by attribute
  cases hname : schema.columns.find? (·.name = schema.partition.attr) with
  | none => exact hs.columnOf?_iff.2 ⟨hs.partition_mem, rfl⟩
  | some column =>
    obtain ⟨hmem, he⟩ := hs.column?_iff.1 hname
    exact congrArg some (hs.eq_of_name hmem hs.partition_mem (hfree column hmem he))

theorem find?_partition_of_not_free (hs : schema.Coherent) (h : ¬schema.KeyNameFree) :
    ∃ column, schema.find? schema.partition.attr = some column ∧ column.name = schema.partition.attr ∧
      column.name ≠ schema.partition.name := by
  simp only [KeyNameFree, Classical.not_forall] at h
  obtain ⟨column, hmem, he, hne⟩ := h
  have hname : schema.columns.find? (·.name = schema.partition.attr) = some column :=
    hs.column?_iff.2 ⟨hmem, he⟩
  exact ⟨column, by rw [find?, Column.find?, hname, Option.some_or], he, hne⟩

/-! ## Criteria of one condition -/

section

variable (value : Json) (hk : schema.clustering = []) {name : String} {column : Column}
include hk

theorem pinnedKey_partition (hf : schema.find? name = some schema.partition) :
    schema.pinnedKey { filter := some (.field name (.equals value)) } =
      .ok (some [(schema.partition, value)]) := by
  refine pinnedKey_eq_ok_some_iff.2 ⟨_, [(schema.partition, value)], rfl, ⟨?_, ?_, ?_, by simp⟩, ?_⟩
  · simp [Filter.fields, keyColumns, hk]
  · simp [Filter.fields, hf]
  · simp [isKey, keyColumns]
  · simp [keyColumns, hk]

theorem pinnedKey_other (hf : schema.find? name = some column)
    (hne : column.name ≠ schema.partition.name) :
    schema.pinnedKey { filter := some (.field name (.equals value)) } = .ok none := by
  have hlength : (Filter.field name (.equals value)).fields.length = schema.keyColumns.length := by
    simp [Filter.fields, keyColumns, hk]
  have hkey : schema.isKey column = false := by
    simpa [isKey, keyColumns, hk] using Ne.symm hne
  have hcollect : schema.collectKey [] (Filter.field name (.equals value)).fields = .ok none := by
    rw [Filter.fields, collectKey, bind_eq_ok_iff]
    refine ⟨column, resolve_eq_ok_iff.2 hf, ?_⟩
    simp [hkey, pure, Except.pure]
  simp only [pinnedKey, hlength, ne_eq, not_true_eq_false, if_false, hcollect]
  rfl

end

/-- The statement about the row whose key column has a value. -/
def rowStatement (schema : Schema) (kind : StatementKind) (head : String) (value : Json)
    (params : List Json) : Statement :=
  { kind
    text := head ++ " WHERE " ++ quoteName schema.partition.name ++ " = ?;"
    params := params ++ [value] }

theorem keyedStatement_partition (kind : StatementKind) (head : String) (params : List Json) :
    keyedStatement kind head [(schema.partition, value)] params =
      schema.rowStatement kind head value params := by
  simp [keyedStatement, rowStatement, PinnedKey.clause, Clause.text, Clause.params, Comparison.text_equal,
    String.append_assoc]

theorem query_partition {criteria : Criteria}
    (h : schema.pinnedKey criteria = .ok (some [(schema.partition, value)])) (head : String)
    (sort : List Ordering) (limit : Option Nat) :
    schema.query head criteria sort limit = .ok (schema.rowStatement .select head value []) :=
  query_eq_ok_iff.2 (.inl ⟨_, h, (keyedStatement_partition .select head []).symm⟩)

theorem mutation_partition {criteria : Criteria}
    (h : schema.pinnedKey criteria = .ok (some [(schema.partition, value)])) (kind : StatementKind)
    (head : String) (params : List Json) :
    schema.mutation kind head params criteria =
      .ok (.direct (schema.rowStatement kind head value params) [(schema.partition.attr, value)]) := by
  rw [← keyedStatement_partition]
  exact mutation_eq_ok_iff.2 (.inl ⟨_, h, rfl⟩)

/-! ## Requests about a bare value -/

/-- If no other column has the name of the key's attribute, a bare value pins
the key, and every request about it is the statement about that row. If
another one does, the condition is on that column. -/
theorem bare_value_addresses_key {model : Model} (hc : compile model = .ok schema)
    (hk : schema.clustering = []) (hv : value.isScalar = true) :
    ∃ criteria, Criteria.read schema.partition.attr value = .ok criteria ∧
      (schema.KeyNameFree →
        schema.pinnedKey criteria = .ok (some [(schema.partition, value)]) ∧
        schema.select criteria =
          .ok (schema.rowStatement .select
            ("SELECT " ++ schema.projection ++ " FROM " ++ schema.table) value []) ∧
        schema.count criteria =
          .ok (schema.rowStatement .select ("SELECT COUNT(*) FROM " ++ schema.table) value []) ∧
        schema.delete criteria =
          .ok (.direct (schema.rowStatement .delete ("DELETE FROM " ++ schema.table) value [])
            [(schema.partition.attr, value)]) ∧
        ∀ values assigned, values ≠ [] → schema.assignments values = .ok assigned →
          schema.update criteria values = .ok
            { plan := .direct
                (schema.rowStatement .update (schema.updateHead assigned) value (assigned.map (·.2)))
                [(schema.partition.attr, value)]
              values := schema.valuesByAttribute values }) ∧
      (¬schema.KeyNameFree →
        schema.pinnedKey criteria = .ok none ∧
          ∃ column ∈ schema.columns, column.name = schema.partition.attr ∧
            column.name ≠ schema.partition.name ∧
            schema.whereClause criteria = .ok [⟨column.name, .equal, value⟩]) := by
  have hs := coherent_of_compile hc
  refine ⟨_, Criteria.read_scalar hv, fun hfree => ?_, fun hfree => ?_⟩
  · have hpinned := pinnedKey_partition value hk (find?_partition hs hfree)
    refine ⟨hpinned, ?_, query_partition hpinned _ _ _, mutation_partition hpinned _ _ _, ?_⟩
    · unfold select
      exact query_partition hpinned _ _ _
    · intro values assigned hne hassigned
      exact update_eq_ok_iff.2 ⟨hne, assigned, _, hassigned, mutation_partition hpinned _ _ _, rfl⟩
  · obtain ⟨column, hf, he, hne⟩ := find?_partition_of_not_free hs hfree
    refine ⟨pinnedKey_other value hk hf hne, column, (Column.mem_of_find? hf).1, he, hne, ?_⟩
    exact bind_eq_ok_iff.2 ⟨column, resolve_eq_ok_iff.2 hf, rfl⟩

/-- The key of a user, who has no other column called `id`. -/
theorem bare_value_addresses_key_sample :
    ∃ criteria, Criteria.read "id" (.string "k") = .ok criteria ∧ Schema.sample.KeyNameFree ∧
      Schema.sample.pinnedKey criteria = .ok (some [(Schema.sample.partition, .string "k")]) := by
  have hscalar : (Json.string "k").isScalar = true := rfl
  obtain ⟨criteria, hread, hpinned, -⟩ := bare_value_addresses_key compile_sample rfl hscalar
  have hfree : Schema.sample.KeyNameFree := by
    unfold KeyNameFree
    decide
  exact ⟨criteria, hread, hfree, (hpinned hfree).1⟩

/-- The key attribute `id` in a column `key`, beside an attribute that is
kept in a column `id`. -/
def shadowedKey : Attribute :=
  { name := "id", typeName := "string", columnName := some "key", primaryKey := true }

/-- Users whose column `id` is not the key. -/
def shadowedModel : Model :=
  { identity := "user"
    attributes := [shadowedKey, { name := "legacy", typeName := "string", columnName := some "id" }] }

/-- Not every bare value addresses the key: another column may have the name
of the key's attribute. -/
theorem not_every_bare_value_addresses_key :
    ¬∀ (model : Model) (schema : Schema) (value : Json), compile model = .ok schema →
      schema.clustering = [] →
      value.isScalar = true → ∃ criteria, Criteria.read schema.partition.attr value = .ok criteria ∧
        schema.pinnedKey criteria = .ok (some [(schema.partition, value)]) := by
  intro h
  have hcompile : compile shadowedModel = .ok (ofKey shadowedModel shadowedKey []) := rfl
  obtain ⟨criteria, hread, hpinned⟩ := h _ _ (.string "v") hcompile rfl rfl
  cases hread
  cases hpinned

end Schema
end WideColumn
