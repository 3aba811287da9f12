import WideColumn.Collection.Basic
import WideColumn.Proofs.Schema.Coherence
import WideColumn.Schema.Definition
/-!
# Valid models

Which models have a schema, said of the declaration alone: attributes and
columns have distinct names, one attribute is the primary key, and the names
that it is clustered by are columns of their own. A model is compiled exactly
if it is valid, and then its schema, its table and its indexes are those of
the declaration.
-/

namespace WideColumn

namespace Model

/-- The column that a name stands for: the one called so, or else the one of
the attribute of that name. -/
def columnNamed? (model : Model) (name : String) : Option String :=
  if name ∈ model.attributes.map Attribute.column then some name
  else (model.attribute? name).map Attribute.column

/-- A model with one primary key, clustered by columns that are distinct from
each other and from the key's. -/
structure Keyed (model : Model) (key : Attribute) (clustering : List String) : Prop where
  single : model.attributes.filter (·.primaryKey) = [key]
  resolved : key.clusterBy.map model.columnNamed? = clustering.map some
  distinct : (key.column :: clustering).Nodup

structure Valid (model : Model) : Prop where
  names : (model.attributes.map (·.name)).Nodup
  columns : (model.attributes.map Attribute.column).Nodup
  /-- Only the primary key is generated or clustered. -/
  others : ∀ attr ∈ model.attributes, attr.primaryKey = false →
    attr.autoIncrement = false ∧ attr.clusterBy = []
  keyed : ∃ key clustering, model.Keyed key clustering

end Model

/-- A schema that is the one of a model with a given key: nothing is left
out, nothing is added, and everything is in the order of the declaration. -/
structure Schema.Describes (schema : Schema) (model : Model) (key : Attribute) (clustering : List String) :
    Prop where
  columns : schema.columns.map (fun column => (column.attr, column.name)) =
    model.attributes.map fun attr => (attr.name, attr.column)
  /-- Attributes and columns look each other up. -/
  inverse : ∀ attr name,
    (schema.columnOf? attr).map (·.name) = some name ↔ (schema.column? name).map (·.attr) = some attr
  columnOf : ∀ attr ∈ model.attributes, (schema.columnOf? attr.name).map (·.name) = some attr.column
  keyNames : schema.keyColumns.map (·.name) = key.column :: clustering
  keyNodup : (schema.keyColumns.map (·.name)).Nodup
  keyMem : ∀ column ∈ schema.keyColumns, column ∈ schema.columns
  createTable : schema.createTable =
    "CREATE TABLE " ++ schema.table ++ " (" ++
      String.join (model.attributes.map fun attr =>
        quoteName attr.column ++ " " ++ attr.toColumn.native.name ++ ", ") ++
      "PRIMARY KEY (" ++ quoteNames (key.column :: clustering) ++ "));"
  definition : schema.definition =
    Statement.ddl schema.createTable :: schema.indexes.map fun index => Statement.ddl index.2
  indexNames : (schema.indexes.map Prod.fst).Nodup
  /-- There is an index for each column that an attribute asks one for, unless
  it is in the key. -/
  indexes : ∀ name text, (name, text) ∈ schema.indexes ↔
    ∃ attr ∈ model.attributes, (attr.unique = true ∨ attr.index = true) ∧
      attr.column ∉ key.column :: clustering ∧
      name = indexName schema.table attr.column ∧ text = schema.createIndex attr.column

/-! ## The key of a valid model -/

theorem filter_eq_singleton_iff {α : Type} {p : α → Bool} {items : List α} {item : α} :
    items.filter p = [item] ↔ items.find? p = some item ∧ (items.filter p).length ≤ 1 := by
  rw [← List.head?_filter]
  rcases items.filter p with _ | ⟨first, _ | ⟨second, rest⟩⟩ <;> simp

namespace Attribute

/-- Attributes fit together if, their key apart, the model is valid. -/
theorem allFit_iff {attributes : List Attribute} :
    AllFit attributes ↔
      (attributes.map (·.name)).Nodup ∧ (attributes.map Attribute.column).Nodup ∧
        (attributes.filter (·.primaryKey)).length ≤ 1 ∧
        ∀ attr ∈ attributes, attr.primaryKey = false → attr.autoIncrement = false ∧ attr.clusterBy = [] := by
  constructor
  · rintro ⟨hnames, hcolumns, hkey, hauto, hcluster⟩
    refine ⟨hnames, hcolumns, hkey, fun attr hm hother => ⟨?_, ?_⟩⟩
    · cases ha : attr.autoIncrement with
      | false => rfl
      | true => exact absurd (hauto attr hm ha) (by simp [hother])
    · refine Decidable.byContradiction fun hc => ?_
      exact absurd (hcluster attr hm hc) (by simp [hother])
  · rintro ⟨hnames, hcolumns, hkey, hothers⟩
    refine ⟨hnames, hcolumns, hkey, fun attr hm ha => ?_, fun attr hm hc => ?_⟩
    · cases hp : attr.primaryKey with
      | true => rfl
      | false => exact absurd ha (by simp [(hothers attr hm hp).1])
    · cases hp : attr.primaryKey with
      | true => rfl
      | false => exact absurd (hothers attr hm hp).2 hc

end Attribute

/-! ## Names of columns -/

theorem Model.columnNamed?_eq (model : Model) (name : String) :
    model.columnNamed? name =
      (Column.find? (model.attributes.map Attribute.toColumn) name).map (·.name) := by
  have hname : (model.attributes.map Attribute.toColumn).find? (·.name = name) =
      (model.attributes.find? (·.column = name)).map Attribute.toColumn := List.find?_map
  have hattr : (model.attributes.map Attribute.toColumn).find? (·.attr = name) =
      (model.attribute? name).map Attribute.toColumn := List.find?_map
  unfold columnNamed? Column.find?
  rw [hname, hattr]
  cases hc : model.attributes.find? (·.column = name) with
  | some attr =>
    have he : attr.column = name := by simpa using List.find?_some hc
    have hm : name ∈ model.attributes.map Attribute.column :=
      he ▸ List.mem_map_of_mem (List.mem_of_find?_eq_some hc)
    rw [if_pos hm, ← he]
    rfl
  | none =>
    have hm : name ∉ model.attributes.map Attribute.column := by
      intro h
      obtain ⟨attr, hattr, he⟩ := List.mem_map.1 h
      exact absurd he (by simpa using List.find?_eq_none.1 hc attr hattr)
    rw [if_neg hm, Option.map_none, Option.none_or, Option.map_map]
    rfl

theorem Model.map_columnNamed? (model : Model) (names : List String) :
    names.map model.columnNamed? =
      (names.map (Column.find? (model.attributes.map Attribute.toColumn))).map (Option.map (·.name)) := by
  rw [List.map_map]
  exact List.map_congr_left fun name _ => model.columnNamed?_eq name

theorem map_map_eq_map_some_iff {α β : Type} {f : α → β} {found : List (Option α)} {results : List β} :
    found.map (Option.map f) = results.map some ↔
      ∃ items : List α, found = items.map some ∧ items.map f = results := by
  constructor
  · intro h
    induction found generalizing results with
    | nil =>
      obtain rfl := List.map_eq_nil_iff.1 h.symm
      exact ⟨[], rfl, rfl⟩
    | cons first rest ih =>
      cases results with
      | nil => cases h
      | cons result results =>
        obtain ⟨hfirst, hrest⟩ := List.cons.inj h
        obtain ⟨item, rfl, rfl⟩ := Option.map_eq_some_iff.1 hfirst
        obtain ⟨items, rfl, rfl⟩ := ih hrest
        exact ⟨item :: items, rfl, rfl⟩
  · rintro ⟨items, rfl, rfl⟩
    simp

namespace Schema

/-- The clustering of a key resolves if its names stand for columns that are
distinct from each other and from the key's. -/
theorem resolveClustering_key_eq_ok_iff {model : Model} {key : Attribute} {clustering : List Column} :
    resolveClustering model.identity (model.attributes.map Attribute.toColumn) [key.toColumn] key.clusterBy =
        .ok clustering ↔
      key.clusterBy.map (Column.find? (model.attributes.map Attribute.toColumn)) = clustering.map some ∧
        (key.column :: clustering.map (·.name)).Nodup :=
  resolveClustering_eq_ok_iff (by simp)

theorem exists_clustering_iff {model : Model} {key : Attribute} :
    (∃ clustering, resolveClustering model.identity (model.attributes.map Attribute.toColumn)
        [key.toColumn] key.clusterBy = .ok clustering) ↔
      ∃ clustering, key.clusterBy.map model.columnNamed? = clustering.map some ∧
        (key.column :: clustering).Nodup := by
  simp only [resolveClustering_key_eq_ok_iff, model.map_columnNamed?, map_map_eq_map_some_iff]
  constructor
  · rintro ⟨found, hfound, hnodup⟩
    exact ⟨found.map (·.name), ⟨found, hfound, rfl⟩, hnodup⟩
  · rintro ⟨_, ⟨found, hfound, rfl⟩, hnodup⟩
    exact ⟨found, hfound, hnodup⟩

theorem compile_eq_ok_iff_keyed {model : Model} {schema : Schema} :
    compile model = .ok schema ↔
      Attribute.AllFit model.attributes ∧
        ∃ key clustering, model.attributes.filter (·.primaryKey) = [key] ∧
          key.clusterBy.map (Column.find? (model.attributes.map Attribute.toColumn)) =
            clustering.map some ∧
          (key.column :: clustering.map (·.name)).Nodup ∧ schema = ofKey model key clustering := by
  rw [compile_eq_ok_iff]
  constructor
  · rintro ⟨hfit, key, clustering, hkey, hclustering, rfl⟩
    obtain ⟨hmap, hnodup⟩ := resolveClustering_key_eq_ok_iff.1 hclustering
    exact ⟨hfit, key, clustering, filter_eq_singleton_iff.2 ⟨hkey, hfit.primaryKey⟩, hmap, hnodup, rfl⟩
  · rintro ⟨hfit, key, clustering, hsingle, hmap, hnodup, rfl⟩
    exact ⟨hfit, key, clustering, (filter_eq_singleton_iff.1 hsingle).1,
      resolveClustering_key_eq_ok_iff.2 ⟨hmap, hnodup⟩, rfl⟩

theorem exists_compile_iff {model : Model} : (∃ schema, compile model = .ok schema) ↔ model.Valid := by
  constructor
  · rintro ⟨schema, h⟩
    obtain ⟨hfit, key, clustering, hsingle, hmap, hnodup, -⟩ := compile_eq_ok_iff_keyed.1 h
    obtain ⟨hnames, hcolumns, -, hothers⟩ := Attribute.allFit_iff.1 hfit
    obtain ⟨names, hresolved, hdistinct⟩ :=
      exists_clustering_iff.1 ⟨clustering, resolveClustering_key_eq_ok_iff.2 ⟨hmap, hnodup⟩⟩
    exact ⟨hnames, hcolumns, hothers, key, names, hsingle, hresolved, hdistinct⟩
  · rintro ⟨hnames, hcolumns, hothers, key, names, hsingle, hresolved, hdistinct⟩
    obtain ⟨clustering, hclustering⟩ := exists_clustering_iff.2 ⟨names, hresolved, hdistinct⟩
    obtain ⟨hfind, hlength⟩ := filter_eq_singleton_iff.1 hsingle
    exact ⟨ofKey model key clustering, compile_eq_ok_iff.2
      ⟨Attribute.allFit_iff.2 ⟨hnames, hcolumns, hlength, hothers⟩, key, clustering, hfind, hclustering, rfl⟩⟩

/-! ## Indexes -/

theorem mem_distinct {name : String} {names : List String} : name ∈ distinct names ↔ name ∈ names := by
  induction names with
  | nil => rfl
  | cons first rest ih =>
    rw [distinct, List.mem_cons, List.mem_cons, List.mem_filter, ih]
    by_cases h : name = first <;> simp [h]

theorem nodup_distinct (names : List String) : (distinct names).Nodup := by
  induction names with
  | nil => exact List.nodup_nil
  | cons first rest ih =>
    rw [distinct, List.nodup_cons]
    exact ⟨by simp, ih.filter _⟩

theorem mem_requestedIndexes {attributes : List Attribute} {name : String} :
    name ∈ requestedIndexes attributes ↔
      ∃ attr ∈ attributes, (attr.unique = true ∨ attr.index = true) ∧ attr.column = name := by
  simp only [requestedIndexes, List.mem_map, List.mem_append, List.mem_filter]
  constructor
  · rintro ⟨attr, ⟨hm, h⟩ | ⟨hm, h⟩, rfl⟩
    · exact ⟨attr, hm, .inl h, rfl⟩
    · exact ⟨attr, hm, .inr h, rfl⟩
  · rintro ⟨attr, hm, h | h, rfl⟩
    · exact ⟨attr, .inl ⟨hm, h⟩, rfl⟩
    · exact ⟨attr, .inr ⟨hm, h⟩, rfl⟩

theorem mem_indexed_ofKey {model : Model} {key : Attribute} {clustering : List Column} {name : String} :
    name ∈ (ofKey model key clustering).indexed ↔
      (∃ attr ∈ model.attributes, (attr.unique = true ∨ attr.index = true) ∧ attr.column = name) ∧
        name ∉ key.column :: clustering.map (·.name) := by
  have hkey : (!(key.toColumn :: clustering).any (·.name = name)) = true ↔
      name ∉ (key.toColumn :: clustering).map (·.name) := by
    simp only [Bool.not_eq_true', List.any_eq_false, decide_eq_true_eq, List.mem_map, not_exists, not_and]
  change name ∈ List.filter _ _ ↔ _
  rw [List.mem_filter, mem_distinct, mem_requestedIndexes, hkey]
  rfl

/-- Only columns of the table are indexed. -/
theorem exists_column_of_indexed {model : Model} {schema : Schema} (h : compile model = .ok schema) {name : String}
    (hm : name ∈ schema.indexed) : ∃ column ∈ schema.columns, column.name = name := by
  obtain ⟨-, key, clustering, -, -, -, rfl⟩ := compile_eq_ok_iff_keyed.1 h
  obtain ⟨⟨attr, hattr, -, rfl⟩, -⟩ := mem_indexed_ofKey.1 hm
  exact ⟨attr.toColumn, List.mem_map_of_mem hattr, rfl⟩

/-- Columns of a table have different indexes. -/
theorem indexName_inj {table left right : String} (h : indexName table left = indexName table right) :
    left = right := by
  unfold indexName at h
  exact (String.append_right_inj _).1 h

theorem mem_indexes {schema : Schema} {name text : String} :
    (name, text) ∈ schema.indexes ↔
      ∃ column ∈ schema.indexed, name = indexName schema.table column ∧ text = schema.createIndex column := by
  simp [indexes, eq_comm]

theorem nodup_names_indexes {schema : Schema} (h : schema.indexed.Nodup) :
    (schema.indexes.map Prod.fst).Nodup := by
  have hnames : schema.indexes.map Prod.fst = schema.indexed.map (indexName schema.table) := List.map_map
  rw [hnames]
  exact List.pairwise_map.2 (h.imp fun hne he => hne (indexName_inj he))

/-! ## Compiled schemas -/

theorem createTable_ofKey {model : Model} {key : Attribute} {clustering : List Column} :
    (ofKey model key clustering).createTable =
      "CREATE TABLE " ++ (ofKey model key clustering).table ++ " (" ++
        String.join (model.attributes.map fun attr =>
          quoteName attr.column ++ " " ++ attr.toColumn.native.name ++ ", ") ++
        "PRIMARY KEY (" ++ quoteNames (key.column :: clustering.map (·.name)) ++ "));" := by
  have hcolumns : (ofKey model key clustering).columns.map (·.definition ++ ", ") =
      model.attributes.map fun attr =>
        quoteName attr.column ++ " " ++ attr.toColumn.native.name ++ ", " := by
    simp only [ofKey, List.map_map, Function.comp_def, Column.definition, Attribute.toColumn]
  have hkey : (ofKey model key clustering).keyColumns.map (·.name) =
      key.column :: clustering.map (·.name) := rfl
  unfold createTable
  simp only [hcolumns, hkey]

theorem describes_of_compile {model : Model} {schema : Schema} (h : compile model = .ok schema) :
    ∃ key clustering, model.Keyed key clustering ∧ schema.Describes model key clustering := by
  have hs := coherent_of_compile h
  obtain ⟨hfit, key, clustering, hsingle, hmap, hnodup, rfl⟩ := compile_eq_ok_iff_keyed.1 h
  have hresolved : key.clusterBy.map model.columnNamed? = (clustering.map (·.name)).map some := by
    rw [model.map_columnNamed?]
    exact map_map_eq_map_some_iff.2 ⟨clustering, hmap, rfl⟩
  refine ⟨key, clustering.map (·.name), ⟨hsingle, hresolved, hnodup⟩, ?_⟩
  constructor
  · simp [ofKey, Attribute.toColumn]
  -- both look-ups find the one column with the attribute and the name
  · intro attr name
    simp only [Option.map_eq_some_iff, hs.columnOf?_iff, hs.column?_iff]
    constructor
    · rintro ⟨column, ⟨hm, rfl⟩, rfl⟩
      exact ⟨column, ⟨hm, rfl⟩, rfl⟩
    · rintro ⟨column, ⟨hm, rfl⟩, rfl⟩
      exact ⟨column, ⟨hm, rfl⟩, rfl⟩
  · intro attr hm
    exact Option.map_eq_some_iff.2 ⟨attr.toColumn, hs.columnOf?_iff.2 ⟨List.mem_map_of_mem hm, rfl⟩, rfl⟩
  · rfl
  · exact hs.keyNames
  · exact hs.key
  · exact createTable_ofKey
  · rfl
  · exact nodup_names_indexes ((nodup_distinct _).filter _)
  · intro name text
    rw [mem_indexes]
    constructor
    · rintro ⟨column, hm, rfl, rfl⟩
      obtain ⟨⟨attr, hattr, hasked, rfl⟩, hkey⟩ := mem_indexed_ofKey.1 hm
      exact ⟨attr, hattr, hasked, hkey, rfl, rfl⟩
    · rintro ⟨attr, hattr, hasked, hkey, rfl, rfl⟩
      exact ⟨attr.column, mem_indexed_ofKey.2 ⟨⟨attr, hattr, hasked, rfl⟩, hkey⟩, rfl, rfl⟩

/-- A model compiles exactly if it is valid, and is refused as a model
otherwise. A compiled schema is that of the declaration. -/
theorem compile_iff_valid (model : Model) :
    ((∃ schema, compile model = .ok schema) ↔ model.Valid) ∧
      (¬model.Valid → ∃ cause, compile model = .error cause ∧
        ∀ session, Collection.ofModel model session = .error (.compile (.schema cause))) ∧
      ∀ schema, compile model = .ok schema →
        ∃ key clustering, model.Keyed key clustering ∧ schema.Describes model key clustering := by
  refine ⟨exists_compile_iff, fun hinvalid => ?_, fun schema h => describes_of_compile h⟩
  cases hc : compile model with
  | ok schema => exact absurd (exists_compile_iff.1 ⟨schema, hc⟩) hinvalid
  | error cause =>
    refine ⟨cause, rfl, fun session => ?_⟩
    rw [Collection.ofModel, hc]
    rfl

/-- Readings are a valid model, and their key is that of a device with two
columns behind it. -/
theorem compile_iff_valid_sample :
    Model.sampleReadings.Valid ∧
      ∃ key clustering, Model.sampleReadings.Keyed key clustering ∧
        sampleReadings.Describes .sampleReadings key clustering ∧
        key.column :: clustering = ["deviceid", "day", "slot"] := by
  obtain ⟨hvalid, -, hdescribes⟩ := compile_iff_valid .sampleReadings
  obtain ⟨key, clustering, hkeyed, h⟩ := hdescribes _ compile_sampleReadings
  exact ⟨hvalid.1 ⟨_, compile_sampleReadings⟩, key, clustering, hkeyed, h, h.keyNames.symm⟩

end Schema
end WideColumn
