import WideColumn.Proofs.Mention
import WideColumn.Proofs.Query.Insertion
import WideColumn.Proofs.Query.KeyOrder
/-!
# What an update assigns

An update sets one column for each name that it is given, and gives back the
values by attribute, in which every attribute is named once. So what is given
back is what was set if no column is meant by two names, one of its own and
one of its attribute.
-/

namespace WideColumn

/-- The plan of an update whose statements set columns to the encoded values
of entries, one after the other, for the row of a key. -/
def MutationPlan.Sets (schema : Schema) (entries : List (Column × Json)) : MutationPlan → Prop
  | .direct statement record => ∃ key : PinnedKey, key.map (·.1) = schema.keyColumns ∧ record = key.record ∧
      statement = Schema.keyedStatement .update (schema.updateHead entries) key
        (entries.map fun (column, value) => column.encode value)
  | .twoPhase _ template => template =
      { kind := .update, head := schema.updateHead entries, keys := schema.keyColumns,
        params := entries.map fun (column, value) => column.encode value }

/-- The values of entries by the attributes of their columns. -/
def attrValues (entries : List (Column × Json)) : Record := entries.map fun (column, value) => (column.attr, value)

theorem mem_names_attrValues_iff {entries : List (Column × Json)} {name : String} :
    name ∈ Fields.names (attrValues entries) ↔ ∃ entry ∈ entries, entry.1.attr = name := by
  rw [Fields.names, attrValues, List.map_map, List.mem_map]
  rfl

namespace Schema

variable {schema : Schema} {criteria : Criteria} {values : Record} {plan : UpdatePlan}
  {entries : List (Column × Json)}

/-- The values of a record with the columns that their names mean. -/
def targets (schema : Schema) (values : Record) : List (Column × Json) :=
  values.filterMap fun (name, value) => (schema.find? name).map (·, value)

/-- An update that sets every column once, none of the key, to the values that
it gives back, in their order. -/
def AssignsOnce (schema : Schema) (plan : UpdatePlan) : Prop :=
  ∃ entries, plan.plan.Sets schema entries ∧ plan.values = attrValues entries ∧
    (entries.map (·.1.name)).Nodup ∧ ∀ entry ∈ entries, schema.isKey entry.1 = false

/-! ## Columns of names -/

theorem targets_cons {name : String} {column : Column} (h : schema.find? name = some column) (value : Json)
    (rest : List (String × Json)) : schema.targets ((name, value) :: rest) = (column, value) :: schema.targets rest :=
  List.filterMap_cons_some (by simp only [h, Option.map_some])

theorem mem_columns_of_targets {entry : Column × Json} (h : entry ∈ schema.targets values) :
    entry.1 ∈ schema.columns := by
  obtain ⟨field, -, hfield⟩ := List.mem_filterMap.1 h
  obtain ⟨column, hcolumn, rfl⟩ := Option.map_eq_some_iff.1 hfield
  exact (Column.mem_of_find? hcolumn).1

/-- Entries of different columns are of different attributes. -/
theorem nodup_names_attrValues_iff (hs : schema.Coherent) (h : ∀ entry ∈ entries, entry.1 ∈ schema.columns) :
    (Fields.names (attrValues entries)).Nodup ↔ (entries.map (·.1.name)).Nodup := by
  have hcolumns : ∀ column ∈ entries.map (·.1), column ∈ schema.columns := by
    intro column hm
    obtain ⟨entry, hentry, rfl⟩ := List.mem_map.1 hm
    exact h entry hentry
  have hiff := hs.nodup_attrs_iff hcolumns
  rw [List.map_map, List.map_map] at hiff
  rw [Fields.names, attrValues, List.map_map]
  exact hiff

theorem valuesByAttribute_eq_lastGiven (values : Record) :
    schema.valuesByAttribute values = Fields.lastGiven (attrValues (schema.targets values)) := by
  rw [← Fields.ofEntries_eq_lastGiven, valuesByAttribute, attrValues, targets, List.map_filterMap]
  simp only [Option.map_map]
  rfl

/-- Values are assigned if each name means a column that is not in the key and
takes the value, and then encoded and in their order. -/
theorem assigned_eq_map_targets {assigned : List (Column × Json)} (h : schema.assignments values = .ok assigned) :
    values.map (fun (name, value) => (schema.find? name, value)) =
        (schema.targets values).map (fun (column, value) => (some column, value)) ∧
      (∀ entry ∈ schema.targets values, schema.isKey entry.1 = false) ∧
      assigned = (schema.targets values).map fun (column, value) => (column, column.encode value) := by
  induction values generalizing assigned with
  | nil =>
    cases h
    exact ⟨rfl, by simp [targets], rfl⟩
  | cons field rest ih =>
    obtain ⟨name, value⟩ := field
    obtain ⟨column, bound, more, hcolumn, hkey, hbound, hmore, rfl⟩ := assignments_cons_eq_ok_iff.1 h
    obtain ⟨hnames, hkeys, rfl⟩ := ih hmore
    have hfind := resolve_eq_ok_iff.1 hcolumn
    obtain ⟨rfl, -⟩ := Column.bind_eq_ok_iff.1 hbound
    rw [targets_cons hfind, List.map_cons, List.map_cons, List.map_cons, hnames]
    exact ⟨by simp only [hfind], List.forall_mem_cons.2 ⟨hkey, hkeys⟩, rfl⟩

/-! ## Plans of updates -/

/-- The text of an update does not depend on what is bound there. -/
theorem updateHead_map_encode (entries : List (Column × Json)) :
    schema.updateHead (entries.map fun (column, value) => (column, column.encode value)) =
      schema.updateHead entries := by
  rw [updateHead, List.map_map]
  rfl

theorem sets_of_update (hs : schema.Coherent) (h : schema.update criteria values = .ok plan) :
    plan.plan.Sets schema (schema.targets values) ∧
      plan.values = Fields.lastGiven (attrValues (schema.targets values)) := by
  obtain ⟨-, assigned, mutation, hassigned, hmutation, rfl⟩ := update_eq_ok_iff.1 h
  refine ⟨?_, valuesByAttribute_eq_lastGiven values⟩
  obtain ⟨-, -, rfl⟩ := assigned_eq_map_targets hassigned
  rw [updateHead_map_encode, List.map_map] at hmutation
  rcases mutation_eq_ok_iff.1 hmutation with ⟨key, hkey, rfl⟩ | ⟨-, select, -, rfl⟩
  · exact ⟨key, ((pinnedKey_iff_equates hs).1 hkey).1, rfl, rfl⟩
  · rfl

/-- A plan tells how many values it sets. -/
theorem length_eq_of_sets {plan : MutationPlan} {others : List (Column × Json)} (h : plan.Sets schema entries)
    (h' : plan.Sets schema others) : entries.length = others.length := by
  cases plan with
  | direct statement record =>
    obtain ⟨key, hkey, -, rfl⟩ := h
    obtain ⟨key', hkey', -, he⟩ := h'
    -- the values of the key come behind, one for each key column
    have hparams := congrArg (fun statement => statement.params.length) he
    have hlength := congrArg List.length (hkey.trans hkey'.symm)
    simp only [keyedStatement, PinnedKey.clause, Clause.params, List.length_append, List.length_map] at hparams hlength
    omega
  | twoPhase select template =>
    rw [MutationPlan.Sets] at h h'
    simpa using congrArg (fun template => template.params.length) (h.symm.trans h')

/-- Every name sets its column to its value, and no key column is set. What is
given back has each attribute once, in order of first mention, with its last
value; that is what was set, column by column, exactly if no two names mean one
column. -/
theorem update_returns_what_it_sets {model : Model} (hc : compile model = .ok schema)
    (h : schema.update criteria values = .ok plan) :
    values.map (fun (name, value) => (schema.find? name, value)) =
        (schema.targets values).map (fun (column, value) => (some column, value)) ∧
      (∀ entry ∈ schema.targets values, schema.isKey entry.1 = false) ∧
      plan.plan.Sets schema (schema.targets values) ∧
      plan.values = Fields.lastGiven (attrValues (schema.targets values)) ∧
      (schema.AssignsOnce plan ↔ ((schema.targets values).map (·.1.name)).Nodup) := by
  have hs := coherent_of_compile hc
  obtain ⟨-, assigned, -, hassigned, -, -⟩ := update_eq_ok_iff.1 h
  obtain ⟨hnames, hkeys, -⟩ := assigned_eq_map_targets hassigned
  obtain ⟨hsets, hvalues⟩ := sets_of_update hs h
  have hcolumns : ∀ entry ∈ schema.targets values, entry.1 ∈ schema.columns := fun _ => mem_columns_of_targets
  have hnodup := nodup_names_attrValues_iff hs hcolumns
  refine ⟨hnames, hkeys, hsets, hvalues, ?_, fun hdistinct => ?_⟩
  · rintro ⟨entries, hentries, hreturned, hdistinct, -⟩
    refine hnodup.1 (Fields.nodup_names_of_length_lastGiven ?_)
    rw [← hvalues, hreturned, attrValues, attrValues, List.length_map, List.length_map]
    exact Nat.le_of_eq (length_eq_of_sets hsets hentries)
  · exact ⟨_, hsets, hvalues.trans (Fields.lastGiven_eq_self (hnodup.2 hdistinct)), hdistinct, hkeys⟩

/-- The years of a user are set by their column. With the age behind them, which
is the same column, the column is set twice and one value is given back. -/
theorem update_returns_what_it_sets_sample :
    let criteria : Criteria := { filter := some (.all [.field "id" (.equals (.string "u"))]) }
    (∃ plan, Schema.sample.update criteria [("years", .ofInt64 7), ("profile", .null)] = .ok plan ∧
      Schema.sample.AssignsOnce plan) ∧
    ∃ plan, Schema.sample.update criteria [("years", .ofInt64 7), ("profile", .null), ("age", .ofInt64 8)] =
        .ok plan ∧
      plan.values = [("age", .ofInt64 8), ("profile", .null)] ∧ ¬Schema.sample.AssignsOnce plan := by
  intro criteria
  constructor
  · obtain ⟨plan, hplan⟩ : ∃ plan,
        Schema.sample.update criteria [("years", .ofInt64 7), ("profile", .null)] = .ok plan := ⟨_, rfl⟩
    obtain ⟨-, -, -, -, honce⟩ := update_returns_what_it_sets compile_sample hplan
    exact ⟨plan, hplan, honce.2 (by decide)⟩
  · obtain ⟨plan, hplan⟩ : ∃ plan, Schema.sample.update criteria
        [("years", .ofInt64 7), ("profile", .null), ("age", .ofInt64 8)] = .ok plan := ⟨_, rfl⟩
    obtain ⟨-, -, -, hvalues, honce⟩ := update_returns_what_it_sets compile_sample hplan
    exact ⟨plan, hplan, hvalues, fun h => absurd (honce.1 h) (by decide)⟩

/-- Not every update sets each column once: a column that is given under its
name and under its attribute is set to both values. -/
theorem not_every_update_assigns_once :
    ¬∀ (model : Model) (schema : Schema) (criteria : Criteria) (values : Record) (plan : UpdatePlan),
      compile model = .ok schema → schema.update criteria values = .ok plan → schema.AssignsOnce plan := by
  intro h
  obtain ⟨plan, hplan, hvalues⟩ : ∃ plan,
      Schema.sample.update { filter := some (.all [.field "id" (.equals (.string "u"))]) }
        [("age", .ofInt64 1), ("years", .ofInt64 2)] = .ok plan ∧ plan.values = [("age", .ofInt64 2)] :=
    ⟨_, rfl, rfl⟩
  obtain ⟨entries, hsets, hreturned, -, -⟩ := h _ _ _ _ plan compile_sample hplan
  have hset := length_eq_of_sets (sets_of_update (coherent_of_compile compile_sample) hplan).1 hsets
  have hgiven := congrArg List.length (hvalues.symm.trans hreturned)
  rw [attrValues, List.length_map, ← hset] at hgiven
  exact absurd hgiven (by decide)

end Schema
end WideColumn
