import WideColumn.Proofs.Query.KeyOrder
import WideColumn.Proofs.Query.Template
/-!
# Changes of one row

A row is changed directly by criteria that pin its key, or in the second phase
of a change that found it. Both ways put the key columns behind the same
beginning, in key order, with the values of the key behind those that are
written. So it is the same statement, if the values that are pinned are the
ones that the row has.
-/

namespace WideColumn

/-- A row whose key cells hold the values of a key. -/
def Row.HasKey (row : Row) (key : PinnedKey) : Prop :=
  ∀ entry ∈ key, (row.get? entry.1.name).map NativeValue.toJson = some entry.2

theorem PinnedKey.text_clause (key : PinnedKey) :
    key.clause.text = " AND ".intercalate ((key.map (·.1)).map fun column => quoteName column.name ++ " = ?") := by
  rw [Clause.text, clause, List.map_map, List.map_map]
  exact congrArg _ (List.map_congr_left fun entry _ => Comparison.text_equal entry.1.name entry.2)

theorem PinnedKey.params_clause (key : PinnedKey) : key.clause.params = key.map (·.2) := by
  rw [Clause.params, clause, List.map_map]
  rfl

namespace Schema

variable {schema : Schema} {key : PinnedKey} {row : Row} {p q : Criteria}

/-- A template that is bound to a row is the statement about the row's key. -/
theorem bind_eq_keyedStatement (hrow : row.HasKey key) (hkey : key.map (·.1) = schema.keyColumns)
    (kind : StatementKind) (head : String) (params : List Json) :
    MutationTemplate.bind { kind, head, params, keys := schema.keyColumns } row =
      .ok (keyedStatement kind head key params) := by
  rw [← hkey]
  have hcell (entry : Column × Json) (hm : entry ∈ key) :
      row.get? entry.1.name ≠ none ∧ (row.cell entry.1).toJson = entry.2 := by
    obtain ⟨cell, hcell, hvalue⟩ := Option.map_eq_some_iff.1 (hrow entry hm)
    rw [Row.cell, hcell]
    exact ⟨Option.some_ne_none cell, hvalue⟩
  have hvalues : (key.map (·.1)).map (fun column => (row.cell column).toJson) = key.clause.params := by
    rw [List.map_map, PinnedKey.params_clause]
    exact List.map_congr_left fun entry hm => (hcell entry hm).2
  rw [MutationTemplate.bind_eq_ok, MutationTemplate.bound, MutationTemplate.text, hvalues, keyedStatement,
    PinnedKey.text_clause]
  intro column hm
  obtain ⟨entry, hentry, rfl⟩ := List.mem_map.1 hm
  exact (hcell entry hentry).1

/-- The template of a plan in two phases, bound to the row whose key is pinned,
is the direct statement. -/
theorem mutation_bind_eq_direct (hs : schema.Coherent) (hp : schema.pinnedKey p = .ok (some key))
    (hq : schema.pinnedKey q = .ok none) (hrow : row.HasKey key) {kind : StatementKind} {head : String}
    {params : List Json} {plan : MutationPlan} (h : schema.mutation kind head params q = .ok plan) :
    ∃ select template statement, plan = .twoPhase select template ∧ template.bind row = .ok statement ∧
      schema.mutation kind head params p = .ok (.direct statement key.record) := by
  obtain ⟨clause, -, rfl⟩ := (mutation_eq_ok_iff_of_unpinned hq).1 h
  exact ⟨_, _, _, rfl, bind_eq_keyedStatement hrow ((pinnedKey_iff_equates hs).1 hp).1 kind head params,
    mutation_of_pinnedKey hp kind head params⟩

/-- A change of the rows that a filter holds for changes each of them as a
change of that row alone does: statement and values are the same. -/
theorem row_changes_are_direct {model : Model} (hc : compile model = .ok schema)
    (hp : schema.pinnedKey p = .ok (some key)) (hq : schema.pinnedKey q = .ok none) (hrow : row.HasKey key) :
    (∀ values plan, schema.update q values = .ok plan →
      ∃ select template statement, plan.plan = .twoPhase select template ∧ template.bind row = .ok statement ∧
        schema.update p values = .ok { plan := .direct statement key.record, values := plan.values }) ∧
    ∀ plan, schema.delete q = .ok plan →
      ∃ select template statement, plan = .twoPhase select template ∧ template.bind row = .ok statement ∧
        schema.delete p = .ok (.direct statement key.record) := by
  have hs := coherent_of_compile hc
  refine ⟨fun values plan h => ?_, fun plan h => mutation_bind_eq_direct hs hp hq hrow h⟩
  obtain ⟨hne, assigned, mutation, hassigned, hmutation, rfl⟩ := update_eq_ok_iff.1 h
  obtain ⟨select, template, statement, hplan, hbind, hdirect⟩ := mutation_bind_eq_direct hs hp hq hrow hmutation
  exact ⟨select, template, statement, hplan, hbind,
    update_eq_ok_iff.2 ⟨hne, assigned, _, hassigned, hdirect, rfl⟩⟩

/-- A note is removed from a reading that was found by its level as it is from
the reading of a device, a day and a slot. -/
theorem row_changes_are_direct_sample :
    let row : Row := [("day", .bigint 3), ("level", .null), ("slot", .bigint 7), ("deviceid", .text "d")]
    let pinning : Criteria := { filter := some (.all [.field "Slot" (.equals (.ofInt64 7)),
      .field "deviceid" (.equals (.string "d")), .field "date" (.equals (.ofInt64 3))]) }
    ∃ select template statement values key,
      sampleReadings.update { filter := some (.field "level" (.within [(">", .ofInt64 5)])) } [("note", .null)] =
        .ok { plan := .twoPhase select template, values } ∧
      template.bind row = .ok statement ∧
      sampleReadings.update pinning [("note", .null)] = .ok { plan := .direct statement key, values } := by
  intro row pinning
  let key : PinnedKey := sampleReadings.keyColumns.zip [.string "d", .ofInt64 3, .ofInt64 7]
  have hp : sampleReadings.pinnedKey pinning = .ok (some key) := rfl
  have hq : sampleReadings.pinnedKey { filter := some (.field "level" (.within [(">", .ofInt64 5)])) } =
      .ok none := rfl
  have hrow : row.HasKey key := by
    intro entry hm
    simp only [key, keyColumns, sampleReadings, ofKey, List.zip_cons_cons, List.zip_nil_left, List.mem_cons,
      List.not_mem_nil, or_false] at hm
    rcases hm with rfl | rfl | rfl <;> rfl
  obtain ⟨hupdate, -⟩ := row_changes_are_direct compile_sampleReadings hp hq hrow
  obtain ⟨plan, hplan⟩ : ∃ plan,
      sampleReadings.update { filter := some (.field "level" (.within [(">", .ofInt64 5)])) } [("note", .null)] =
        .ok plan := ⟨_, rfl⟩
  obtain ⟨select, template, statement, htwo, hbind, hdirect⟩ := hupdate _ _ hplan
  exact ⟨select, template, statement, plan.values, key.record, htwo ▸ hplan, hbind, hdirect⟩

end Schema
end WideColumn
