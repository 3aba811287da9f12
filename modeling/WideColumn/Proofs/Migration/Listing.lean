import Mathlib.Data.List.Forall2
import WideColumn.Proofs.Mention
import WideColumn.Proofs.Migration.Convergence
import WideColumn.Proofs.Schema.Label
/-!
# What callers are told of a table

A description is handed out with one entry under each name that callers use,
so columns that are seen under one name share an entry, and the last of them is
told of. Nothing is lost exactly if no column of the table is called as the
attribute of another one that the schema knows.
-/

namespace WideColumn

/-- The value of a field of an object. -/
def Json.field? (document : Json) (name : String) : Option Json :=
  match document with
  | .object fields => Fields.get? fields name
  | _ => none

namespace TableDescription

/-- The columns that rows name, in order. -/
def namedColumns (rows : List Row) : List String := rows.filterMap Row.namedColumn?

/-- A column is the only one in the partition key. -/
def IsSoleKey (rows : List Row) (name : String) : Prop :=
  namedColumns (rows.filter fun row => textOf? row "kind" = some "partition_key") = [name]

theorem IsSoleKey.mem {rows : List Row} {name : String} (h : IsSoleKey rows name) : name ∈ namedColumns rows := by
  have hm : name ∈ namedColumns (rows.filter fun row => textOf? row "kind" = some "partition_key") := by
    rw [h]
    exact List.mem_singleton_self name
  exact (List.filter_sublist.filterMap _).subset hm

/-- An entry tells of a column: it holds its name, and the mark of the key
exactly if the column is the only one in the partition key. -/
structure Tells (rows : List Row) (name : String) (entry : Json) : Prop where
  column : entry.field? "columnName" = some (.string name)
  key : entry.field? "primaryKey" = some (.bool true) ↔ IsSoleKey rows name

/-- There is an entry for each column that rows name, and there are no others. -/
def ListsEach (rows : List Row) (document : Record) : Prop :=
  ∃ names : List String, names.Perm (namedColumns rows) ∧
    List.Forall₂ (fun name field => Tells rows name field.2) names document

variable {schema : Schema} {rows : List Row} {live : TableDescription} {described : DescribedColumn}

/-! ## Described columns -/

theorem label_of_mem_describeColumn? (h : described ∈ rows.filterMap (describeColumn? schema)) :
    described.label = schema.labelOf described.column := by
  obtain ⟨row, -, hrow⟩ := List.mem_filterMap.1 h
  obtain ⟨column, -, rfl⟩ := Option.map_eq_some_iff.1 hrow
  rfl

theorem map_column_eq (schema : Schema) (rows : List Row) :
    (rows.filterMap (describeColumn? schema)).map (·.column) = namedColumns rows := by
  rw [List.map_filterMap]
  exact List.filterMap_congr fun row _ => column_of_describeColumn? schema row

theorem ofName_eq_partitionKey_iff {kind : String} :
    ColumnRole.ofName kind = .partitionKey ↔ kind = "partition_key" := by
  unfold ColumnRole.ofName
  split <;> simp_all

theorem role_eq_partitionKey_iff {row : Row} (h : describeColumn? schema row = some described) :
    described.role = .partitionKey ↔ textOf? row "kind" = some "partition_key" := by
  obtain ⟨column, -, rfl⟩ := Option.map_eq_some_iff.1 h
  cases textOf? row "kind" with
  | none => simp
  | some kind => simpa using ofName_eq_partitionKey_iff

/-- The described columns in the partition key are those of the rows that say
so. -/
theorem map_column_filter_eq (schema : Schema) (rows : List Row) :
    ((rows.filterMap (describeColumn? schema)).filter (·.role = .partitionKey)).map (·.column) =
      namedColumns (rows.filter fun row => textOf? row "kind" = some "partition_key") := by
  rw [← map_column_eq schema]
  congr 1
  rw [List.filter_filterMap, List.filterMap_filter]
  refine List.filterMap_congr fun row _ => ?_
  cases h : describeColumn? schema row with
  | none => simp
  | some described => simp [role_eq_partitionKey_iff h, Option.filter]

theorem solePartition?_eq_some_iff {label : String} :
    solePartition? (rows.filterMap (describeColumn? schema)) = some label ↔
      ∃ name, IsSoleKey rows name ∧ schema.labelOf name = label := by
  have hkey := map_column_filter_eq schema rows
  have hlabel : ∀ described ∈ (rows.filterMap (describeColumn? schema)).filter (·.role = .partitionKey),
      described.label = schema.labelOf described.column := by
    intro described hm
    exact label_of_mem_describeColumn? (List.mem_of_mem_filter hm)
  unfold IsSoleKey solePartition?
  rw [← hkey]
  split
  · next described heq =>
    rw [heq] at hlabel ⊢
    simp [hlabel described List.mem_cons_self]
  · next hne =>
    simp only [reduceCtorEq, List.map_eq_singleton_iff, false_iff]
    rintro ⟨name, ⟨described, heq, -⟩, -⟩
    exact hne described heq

/-! ## Entries -/

theorem columnName_columnDocument (live : TableDescription) (described : DescribedColumn) :
    (live.columnDocument described).field? "columnName" = some (.string described.column) := by
  simp [columnDocument, Json.field?, Fields.get?]

theorem primaryKey_columnDocument (live : TableDescription) (described : DescribedColumn) :
    (live.columnDocument described).field? "primaryKey" = some (.bool true) ↔
      live.partition = some described.label := by
  unfold columnDocument
  split <;> simp_all [Json.field?, Fields.get?]

/-- What is told of a column, under the name that callers use. -/
def entry (live : TableDescription) (described : DescribedColumn) : String × Json :=
  (described.label, live.columnDocument described)

theorem document_eq (live : TableDescription) : live.document = Fields.ofEntries (live.columns.map live.entry) := rfl

/-- A description is that of rows. -/
structure Describes (schema : Schema) (rows : List Row) (live : TableDescription) : Prop where
  columns : live.columns = rows.filterMap (describeColumn? schema)
  partition : live.partition = solePartition? live.columns

theorem describes_of_ofRows? (h : ofRows? schema rows = some live) : Describes schema rows live := by
  unfold ofRows? at h
  split at h
  · cases h
  · cases h
    exact ⟨rfl, rfl⟩

namespace Describes

theorem map_column (h : Describes schema rows live) : live.columns.map (·.column) = namedColumns rows := by
  rw [h.columns, map_column_eq]

theorem label_eq (h : Describes schema rows live) (hm : described ∈ live.columns) :
    described.label = schema.labelOf described.column := by
  rw [h.columns] at hm
  exact label_of_mem_describeColumn? hm

theorem names_entries (h : Describes schema rows live) {columns : List DescribedColumn}
    (hsub : columns ⊆ live.columns) :
    Fields.names (columns.map live.entry) = (columns.map (·.column)).map schema.labelOf := by
  rw [Fields.names, List.map_map, List.map_map]
  exact List.map_congr_left fun described hm => h.label_eq (hsub hm)

theorem names_allEntries (h : Describes schema rows live) :
    Fields.names (live.columns.map live.entry) = (namedColumns rows).map schema.labelOf := by
  rw [h.names_entries (List.Subset.refl _), h.map_column]

/-- A column is marked as the key if it is seen under the name of the only
column in the partition key. -/
theorem marks_iff (h : Describes schema rows live) (hm : described ∈ live.columns) :
    (live.columnDocument described).field? "primaryKey" = some (.bool true) ↔
      ∃ key, IsSoleKey rows key ∧ schema.labelOf key = schema.labelOf described.column := by
  rw [primaryKey_columnDocument, h.partition, h.columns, solePartition?_eq_some_iff, h.label_eq hm]

/-- Of the columns that are seen under one name the last is told of. -/
theorem get?_document (h : Describes schema rows live) {before after : List String} {name : String}
    (hsplit : namedColumns rows = before ++ name :: after)
    (hlast : schema.labelOf name ∉ after.map schema.labelOf) :
    ∃ described ∈ live.columns, described.column = name ∧
      live.document.get? (schema.labelOf name) = some (live.columnDocument described) := by
  rw [← h.map_column] at hsplit
  obtain ⟨front, rest, hcolumns, -, hrest⟩ := List.map_eq_append_iff.1 hsplit
  obtain ⟨described, back, rfl, rfl, rfl⟩ := List.map_eq_cons_iff.1 hrest
  have hm : described ∈ live.columns := by simp [hcolumns]
  refine ⟨described, hm, rfl, ?_⟩
  have hnames : described.label ∉ Fields.names (back.map live.entry) := by
    rwa [h.label_eq hm, h.names_entries (by simp [hcolumns])]
  rw [← h.label_eq hm, document_eq, hcolumns, List.map_append, List.map_cons]
  exact Fields.get?_ofEntries_of_last _ hnames

/-- If all columns are seen under distinct names, each has its entry. -/
theorem listsEach (h : Describes schema rows live) (hn : ((namedColumns rows).map schema.labelOf).Nodup) :
    ListsEach rows live.document := by
  have hdocument : live.document = live.columns.map live.entry := by
    rw [document_eq, Fields.ofEntries_eq_self]
    rwa [h.names_allEntries]
  refine ⟨namedColumns rows, .refl _, ?_⟩
  rw [hdocument, ← h.map_column, List.forall₂_map_left_iff, List.forall₂_map_right_iff, List.forall₂_same]
  intro described hm
  have hnamed : described.column ∈ namedColumns rows := by
    rw [← h.map_column]
    exact List.mem_map_of_mem hm
  refine ⟨columnName_columnDocument live described, (h.marks_iff hm).trans ?_⟩
  constructor
  · rintro ⟨key, hkey, he⟩
    rwa [← List.inj_on_of_nodup_map hn hkey.mem hnamed he]
  · intro hkey
    exact ⟨_, hkey, rfl⟩

/-- Entries for all columns are as many as the columns, so nothing was merged. -/
theorem nodup_labels_of_listsEach (h : Describes schema rows live) (hl : ListsEach rows live.document) :
    ((namedColumns rows).map schema.labelOf).Nodup := by
  obtain ⟨names, hperm, htells⟩ := hl
  have hlength : (live.columns.map live.entry).length = (Fields.lastGiven (live.columns.map live.entry)).length := by
    calc (live.columns.map live.entry).length
      _ = (namedColumns rows).length := by rw [← h.map_column, List.length_map, List.length_map]
      _ = live.document.length := by rw [← hperm.length_eq, htells.length_eq]
      _ = _ := by rw [document_eq, Fields.ofEntries_eq_lastGiven]
  rw [← h.names_allEntries]
  exact Fields.nodup_names_of_length_lastGiven (Nat.le_of_eq hlength)

end Describes

/-! ## All rows -/

/-- Every table that has columns is described, under each name that callers use
for a column of it once, in the order in which the columns first come. What is
told there is the name of the last column that is seen under the name, and the
mark of the key if the only column in the partition key is seen under it too. So
each column has its own entry, with the mark at the key only, exactly if no
column of the table shadows another. -/
theorem columns_are_listed_unless_shadowed {model : Model} (hc : Schema.compile model = .ok schema) (hne : rows ≠ [])
    (hn : (namedColumns rows).Nodup) :
    ∃ live, ofRows? schema rows = some live ∧
      live.document.names = ((namedColumns rows).map schema.labelOf).eraseDups ∧
      (∀ before name after, namedColumns rows = before ++ name :: after →
        schema.labelOf name ∉ after.map schema.labelOf →
        ∃ entry, live.document.get? (schema.labelOf name) = some entry ∧
          entry.field? "columnName" = some (.string name) ∧
          (entry.field? "primaryKey" = some (.bool true) ↔
            ∃ key, IsSoleKey rows key ∧ schema.labelOf key = schema.labelOf name)) ∧
      (ListsEach rows live.document ↔
        ∀ other ∈ namedColumns rows, ∀ name ∈ namedColumns rows, ¬schema.Shadows other name) := by
  have hs := Schema.coherent_of_compile hc
  obtain ⟨live, hlive, -⟩ := ofRows?_of_ne_nil schema hne
  have h := describes_of_ofRows? hlive
  refine ⟨live, hlive, ?_, fun before name after hsplit hlast => ?_, ?_⟩
  · rw [document_eq, Fields.names_ofEntries, h.names_allEntries]
  · obtain ⟨described, hm, rfl, hget⟩ := h.get?_document hsplit hlast
    exact ⟨_, hget, columnName_columnDocument live described, h.marks_iff hm⟩
  · rw [← Schema.nodup_labels_iff hs hn]
    exact ⟨h.nodup_labels_of_listsEach, h.listsEach⟩

/-- The rows of a table of readings, in which only the device is in the
partition key. -/
def sampleColumns : List Row :=
  [[("column_name", .text "deviceid"), ("kind", .text "partition_key"), ("type", .text "text")],
    [("column_name", .text "legacy"), ("kind", .text "regular"), ("type", .text "blob")]]

/-- Both columns of a table have entries of their own, until there is a column
`deviceId` besides: it takes the entry of the device and the mark of the key. -/
theorem columns_are_listed_unless_shadowed_sample :
    let more := sampleColumns ++ [[("column_name", .text "deviceId"), ("kind", .text "regular")]]
    (∃ live, ofRows? .sampleReadings sampleColumns = some live ∧ ListsEach sampleColumns live.document) ∧
      ∃ live entry, ofRows? .sampleReadings more = some live ∧ live.document.names = ["deviceId", "legacy"] ∧
        live.document.get? "deviceId" = some entry ∧ entry.field? "columnName" = some (.string "deviceId") ∧
        entry.field? "primaryKey" = some (.bool true) := by
  intro more
  constructor
  · obtain ⟨live, hlive, -, -, hlists⟩ := columns_are_listed_unless_shadowed
      Schema.compile_sampleReadings (by decide : sampleColumns ≠ []) (by decide)
    have hs := Schema.coherent_of_compile Schema.compile_sampleReadings
    exact ⟨live, hlive, hlists.2 ((Schema.nodup_labels_iff hs (by decide)).1 (by decide))⟩
  · obtain ⟨live, hlive, hnames, hlast, -⟩ := columns_are_listed_unless_shadowed
      Schema.compile_sampleReadings (by decide : more ≠ []) (by decide)
    obtain ⟨entry, hentry, hcolumn, hkey⟩ := hlast ["deviceid", "legacy"] "deviceId" [] rfl (by simp)
    exact ⟨live, entry, hlive, hnames.trans rfl, hentry, hcolumn, hkey.2 ⟨"deviceid", rfl, rfl⟩⟩

/-- Not every table has its columns listed: a column that is called as the
attribute of another one takes its entry. -/
theorem not_every_table_is_listed :
    ¬∀ (model : Model) (schema : Schema) (rows : List Row) (live : TableDescription),
      Schema.compile model = .ok schema → (namedColumns rows).Nodup → ofRows? schema rows = some live →
      ListsEach rows live.document := by
  intro h
  let rows := sampleColumns ++ [[("column_name", .text "deviceId")]]
  obtain ⟨live, hlive, -⟩ := ofRows?_of_ne_nil .sampleReadings (by decide : rows ≠ [])
  have hlists := h _ _ rows live Schema.compile_sampleReadings (by decide) hlive
  exact absurd ((describes_of_ofRows? hlive).nodup_labels_of_listsEach hlists) (by decide)

end TableDescription
end WideColumn
