import WideColumn.Proofs.Collection.Migrating
import WideColumn.Proofs.Schema.Coherence
import WideColumn.Store.Script
/-!
# Altering a table until nothing is missing

To alter a table that exists is to add the columns that none of its rows in
the store's description names. When the description names these as well,
however the rows for them look and wherever they stand, nothing is left to
add.
-/

namespace WideColumn

/-- The column that a row of a description names, if it names one. -/
def Row.namedColumn? (row : Row) : Option String := TableDescription.textOf? row "column_name"

/-- Whether the text of a statement begins with a word. -/
def Statement.Begins (word : String) (statement : Statement) : Prop := word.toList <+: statement.text.toList

/-! ## Descriptions -/

namespace TableDescription

variable {schema : Schema} {rows : List Row}

theorem ofRows?_of_ne_nil (schema : Schema) (h : rows ≠ []) :
    ∃ live, ofRows? schema rows = some live ∧ live.columns = rows.filterMap (describeColumn? schema) := by
  unfold ofRows?
  rw [if_neg (by simpa using h)]
  exact ⟨_, rfl, rfl⟩

/-- A row describes the column that it names. -/
theorem column_of_describeColumn? (schema : Schema) (row : Row) :
    (describeColumn? schema row).map (·.column) = row.namedColumn? := by
  unfold describeColumn?
  rw [Option.map_map]
  exact congrFun Option.map_id _

/-- A description has the columns that its rows name. -/
theorem hasColumn_iff {live : TableDescription} (h : live.columns = rows.filterMap (describeColumn? schema))
    {name : String} : live.hasColumn name = true ↔ ∃ row ∈ rows, row.namedColumn? = some name := by
  rw [hasColumn, h, List.any_eq_true]
  constructor
  · rintro ⟨described, hm, hname⟩
    obtain ⟨row, hrow, hdescribed⟩ := List.mem_filterMap.1 hm
    refine ⟨row, hrow, ?_⟩
    rw [← column_of_describeColumn? schema, hdescribed, ← of_decide_eq_true hname]
    rfl
  · rintro ⟨row, hrow, hname⟩
    rw [← column_of_describeColumn? schema] at hname
    obtain ⟨described, hdescribed, hcolumn⟩ := Option.map_eq_some_iff.1 hname
    exact ⟨described, List.mem_filterMap.2 ⟨row, hrow, hdescribed⟩, decide_eq_true hcolumn⟩

end TableDescription

namespace Schema

/-! ## Plans -/

/-- The columns that no row of a description names, in declaration order. -/
def missingColumns (schema : Schema) (rows : List Row) : List Column :=
  schema.columns.filter fun column => !rows.any fun row => row.namedColumn? = some column.name

variable {schema : Schema} {rows : List Row}

theorem mem_missingColumns {column : Column} :
    column ∈ schema.missingColumns rows ↔
      column ∈ schema.columns ∧ ∀ row ∈ rows, row.namedColumn? ≠ some column.name := by
  simp [missingColumns]

theorem addition_eq {live : TableDescription}
    (h : live.columns = rows.filterMap (TableDescription.describeColumn? schema)) :
    schema.addition live =
      (schema.missingColumns rows).map fun column => { statement := schema.addColumn column } := by
  have hfilter : (schema.columns.filter fun column => !live.hasColumn column.name) = schema.missingColumns rows := by
    refine List.filter_congr fun column _ => ?_
    congr 1
    rw [Bool.eq_iff_iff, TableDescription.hasColumn_iff h]
    simp
  rw [addition, hfilter]

/-- Adding a column neither creates nor drops. -/
theorem begins_addColumn (column : Column) :
    ¬(schema.addColumn column).Begins "CREATE" ∧ ¬(schema.addColumn column).Begins "DROP" := by
  have htext : (schema.addColumn column).text.toList =
      'A' :: ("LTER TABLE " ++ schema.table ++ " ADD " ++ column.definition ++ ";").toList := by
    simp [addColumn, Statement.ddl]
  unfold Statement.Begins
  rw [htext]
  constructor <;> simp [List.cons_prefix_cons]

/-! ## Extended descriptions -/

/-- Rows that name each of the columns that the given rows do not, once and in
any order. -/
def Supplies (schema : Schema) (rows added : List Row) : Prop :=
  (added.map Row.namedColumn?).Perm ((schema.missingColumns rows).map fun column => some column.name)

/-- Together with what is supplied, every column is named. -/
theorem Supplies.exists_row {added extended : List Row} (h : schema.Supplies rows added)
    (hp : extended.Perm (rows ++ added)) {column : Column} (hc : column ∈ schema.columns) :
    ∃ row ∈ extended, row.namedColumn? = some column.name := by
  by_cases hold : ∃ row ∈ rows, row.namedColumn? = some column.name
  · obtain ⟨row, hrow, hnamed⟩ := hold
    exact ⟨row, hp.mem_iff.2 (List.mem_append_left _ hrow), hnamed⟩
  · have hm : column ∈ schema.missingColumns rows :=
      mem_missingColumns.2 ⟨hc, fun row hrow hnamed => hold ⟨row, hrow, hnamed⟩⟩
    have hname : some column.name ∈ added.map Row.namedColumn? :=
      h.mem_iff.2 (List.mem_map.2 ⟨column, hm, rfl⟩)
    obtain ⟨row, hrow, hnamed⟩ := List.mem_map.1 hname
    exact ⟨row, hp.mem_iff.2 (List.mem_append_right _ hrow), hnamed⟩

theorem missingColumns_eq_nil {extended : List Row}
    (h : ∀ column ∈ schema.columns, ∃ row ∈ extended, row.namedColumn? = some column.name) :
    schema.missingColumns extended = [] := by
  refine List.eq_nil_iff_forall_not_mem.2 fun column hm => ?_
  obtain ⟨hc, hnone⟩ := mem_missingColumns.1 hm
  obtain ⟨row, hrow, hnamed⟩ := h column hc
  exact hnone row hrow hnamed

end Schema

namespace Collection

open Operation

variable {collection : Collection} {σ : Type} {store : Store σ} {state : σ}

/-- Without steps the description is all that is asked for. -/
theorem migrate_alter_of_nil {keyspace : String} (hk : collection.session.keyspace = some keyspace) {rows : List Row}
    (hrows : (store (.execute collection.session
      (TableDescription.query keyspace collection.schema.table)) state).1 = .ok rows)
    (hnil : collection.stepsFor rows = []) :
    calls (collection.migrate .alter) store state =
        [.execute collection.session (TableDescription.query keyspace collection.schema.table)] ∧
      result (collection.migrate .alter) store state = .ok 0 := by
  have hread : Except.mapError OperationError.store (store (.execute collection.session
      (TableDescription.query keyspace collection.schema.table)) state).1 = .ok rows := by
    rw [hrows]
    rfl
  rw [migrate_alter hk, calls_ask_bind_of_ok store state hread, result_ask_bind_of_ok store state hread, hnil]
  exact ⟨rfl, rfl⟩

end Collection

namespace Schema

/-- A table that does not exist is created with its indexes. One that does is
given the columns that it lacks and nothing else, and when the description has
come to name them, altering it again changes nothing. -/
theorem alter_converges {model : Model} {schema : Schema} (hc : compile model = .ok schema) (rows : List Row) :
    (rows = [] → schema.migration .alter (TableDescription.ofRows? schema rows) =
      { statement := .ddl schema.createTable } ::
        schema.indexed.map fun column => { statement := .ddl (schema.createIndex column) }) ∧
    (rows ≠ [] → schema.migration .alter (TableDescription.ofRows? schema rows) =
        ((schema.missingColumns rows).map fun column =>
          { statement := .ddl ("ALTER TABLE " ++ schema.table ++ " ADD " ++ quoteName column.name ++ " " ++
              column.native.name ++ ";") }) ∧
      ∀ step ∈ schema.migration .alter (TableDescription.ofRows? schema rows),
        ¬step.statement.Begins "CREATE" ∧ ¬step.statement.Begins "DROP") ∧
    ∀ added extended, schema.Supplies rows added → extended.Perm (rows ++ added) →
      ∃ live, TableDescription.ofRows? schema extended = some live ∧
        (∀ column ∈ schema.columns, live.hasColumn column.name = true) ∧
        schema.migration .alter (some live) = [] ∧
        ∀ (σ : Type) (store : Store σ) (state : σ) (session : Session) (keyspace : String),
          session.keyspace = some keyspace →
          (store (.execute session (TableDescription.query keyspace schema.table)) state).1 = .ok extended →
          let collection : Collection := { schema, session }
          Operation.calls (collection.migrate .alter) store state =
              [.execute session (TableDescription.query keyspace schema.table)] ∧
            Operation.result (collection.migrate .alter) store state = .ok 0 := by
  refine ⟨?_, fun hne => ?_, fun added extended hsupplies hperm => ?_⟩
  · rintro rfl
    have hnone : TableDescription.ofRows? schema [] = none := rfl
    rw [hnone, migration, creation, definition, indexes, List.map_cons, List.map_map, List.map_map]
    rfl
  · obtain ⟨live, hlive, hcolumns⟩ := TableDescription.ofRows?_of_ne_nil schema hne
    have hplan : schema.migration .alter (TableDescription.ofRows? schema rows) =
        (schema.missingColumns rows).map fun column => { statement := schema.addColumn column } := by
      rw [hlive]
      exact addition_eq hcolumns
    refine ⟨?_, fun step hm => ?_⟩
    · rw [hplan]
      refine List.map_congr_left fun column _ => ?_
      simp only [addColumn, Column.definition, String.append_assoc]
    · rw [hplan] at hm
      obtain ⟨column, -, rfl⟩ := List.mem_map.1 hm
      exact begins_addColumn column
  · have hnamed (column : Column) (hm : column ∈ schema.columns) := hsupplies.exists_row hperm hm
    -- the partition key is a column, so there is a row for it
    have hne : extended ≠ [] := by
      obtain ⟨row, hrow, -⟩ := hnamed _ (coherent_of_compile hc).partition_mem
      exact List.ne_nil_of_mem hrow
    obtain ⟨live, hlive, hcolumns⟩ := TableDescription.ofRows?_of_ne_nil schema hne
    have hnil : schema.migration .alter (some live) = [] := by
      have hadd := addition_eq hcolumns
      rwa [missingColumns_eq_nil hnamed] at hadd
    refine ⟨live, hlive, fun column hm => (TableDescription.hasColumn_iff hcolumns).2 (hnamed column hm), hnil, ?_⟩
    intro σ store state session keyspace hk hrows collection
    have hnone : collection.stepsFor extended = [] := by
      rw [Collection.stepsFor, hlive]
      exact hnil
    exact Collection.migrate_alter_of_nil hk hrows hnone

/-- A description of readings with a column of the store's own, a row that
names nothing and a column that is named twice. -/
def sampleRows : List Row :=
  [[("column_name", .text "slot"), ("kind", .text "clustering")], [("kind", .text "regular"), ("column_name", .null)],
    [("type", .text "int"), ("column_name", .ascii "legacy")], [("column_name", .text "slot")]]

/-- Readings get the columns that are missing, and no more when they are
described in another order and with other types. -/
theorem alter_converges_sample :
    let added : List Row :=
      [[("column_name", .text "note"), ("type", .text "blob")], [("column_name", .ascii "level")],
        [("column_name", .text "day"), ("kind", .text "static")], [("column_name", .text "deviceid")]]
    (sampleReadings.migration .alter (TableDescription.ofRows? sampleReadings sampleRows)).map (·.statement.text) =
      ["ALTER TABLE reading ADD \"day\" bigint;", "ALTER TABLE reading ADD \"deviceid\" text;",
        "ALTER TABLE reading ADD \"level\" bigint;", "ALTER TABLE reading ADD \"note\" text;"] ∧
    sampleReadings.migration .alter (TableDescription.ofRows? sampleReadings (added ++ sampleRows)) = [] := by
  intro added
  obtain ⟨-, hadds, hdone⟩ := alter_converges compile_sampleReadings sampleRows
  have hsupplies : sampleReadings.Supplies sampleRows added := by
    change List.Perm [some "note", some "level", some "day", some "deviceid"]
      [some "day", some "deviceid", some "level", some "note"]
    decide
  obtain ⟨live, hlive, -, hnil, -⟩ := hdone added _ hsupplies List.perm_append_comm
  constructor
  · rw [(hadds (by simp [sampleRows])).1]
    rfl
  · rw [hlive]
    exact hnil

end Schema
end WideColumn
