import WideColumn.Proofs.Success
import WideColumn.Schema.Compile
/-!
# What a compiled schema guarantees

A model compiles if its attributes fit together and its clustering resolves,
and only then. The columns of its schema have distinct names and store
distinct attributes, and distinct columns make up the key. Everything that is
proved about requests starts from `Schema.Coherent`.
-/

namespace WideColumn

/-! ## Look-ups by a key without repetition -/

theorem find?_eq_some_iff_of_nodup {α : Type} (key : α → String) {items : List α}
    (h : (items.map key).Nodup) {name : String} {item : α} :
    items.find? (fun x => key x = name) = some item ↔ item ∈ items ∧ key item = name := by
  constructor
  · intro hf
    exact ⟨List.mem_of_find?_eq_some hf, by simpa using List.find?_some hf⟩
  · rintro ⟨hm, rfl⟩
    induction items with
    | nil => cases hm
    | cons first rest ih =>
      simp only [List.map_cons, List.nodup_cons] at h
      rcases List.mem_cons.1 hm with rfl | hr
      · simp
      · have hne : key first ≠ key item := fun he => h.1 (he ▸ List.mem_map_of_mem hr)
        rw [List.find?_cons_of_neg (by simpa using hne), ih h.2 hr]

/-- Look-ups do not depend on the order. -/
theorem find?_eq_of_perm {α : Type} (key : α → String) {items others : List α} (hp : items.Perm others)
    (h : (items.map key).Nodup) (name : String) :
    items.find? (fun x => key x = name) = others.find? (fun x => key x = name) := by
  ext item
  rw [find?_eq_some_iff_of_nodup key h, find?_eq_some_iff_of_nodup key ((hp.map key).nodup_iff.1 h), hp.mem_iff]

theorem nodup_map_append_singleton_iff {α : Type} (key : α → String) {items : List α} {item : α} :
    ((items ++ [item]).map key).Nodup ↔ (items.map key).Nodup ∧ key item ∉ items.map key := by
  rw [List.map_append, List.map_singleton, List.nodup_append]
  constructor
  · rintro ⟨h, -, hne⟩
    exact ⟨h, fun hm => hne _ hm _ List.mem_cons_self rfl⟩
  · rintro ⟨h, hn⟩
    refine ⟨h, by simp, fun a ha b hb he => hn ?_⟩
    rwa [← List.mem_singleton.1 hb, ← he]

theorem Column.mem_of_find? {columns : List Column} {name : String} {column : Column}
    (h : Column.find? columns name = some column) :
    column ∈ columns ∧ (column.name = name ∨ column.attr = name) := by
  rw [Column.find?, Option.or_eq_some_iff] at h
  rcases h with hn | ⟨-, ha⟩
  · exact ⟨List.mem_of_find?_eq_some hn, .inl (by simpa using List.find?_some hn)⟩
  · exact ⟨List.mem_of_find?_eq_some ha, .inr (by simpa using List.find?_some ha)⟩

/-! ## Attributes that fit together -/

/-- What is checked of an attribute against the attributes before it. -/
structure Attribute.Fits (before : List Attribute) (attr : Attribute) : Prop where
  name : attr.name ∉ before.map (·.name)
  column : attr.column ∉ before.map Attribute.column
  primaryKey : attr.primaryKey = true → before.filter (·.primaryKey) = []
  autoIncrement : attr.autoIncrement = true → attr.primaryKey = true
  clusterBy : attr.clusterBy ≠ [] → attr.primaryKey = true

/-- Attributes that a model may have together. -/
structure Attribute.AllFit (attributes : List Attribute) : Prop where
  names : (attributes.map (·.name)).Nodup
  columns : (attributes.map Attribute.column).Nodup
  primaryKey : (attributes.filter (·.primaryKey)).length ≤ 1
  autoIncrement : ∀ attr ∈ attributes, attr.autoIncrement = true → attr.primaryKey = true
  clusterBy : ∀ attr ∈ attributes, attr.clusterBy ≠ [] → attr.primaryKey = true

namespace Attribute

theorem AllFit.nil : AllFit [] := ⟨by simp, by simp, by simp, by simp, by simp⟩

theorem AllFit.append_singleton_iff {before : List Attribute} {attr : Attribute} :
    AllFit (before ++ [attr]) ↔ AllFit before ∧ attr.Fits before := by
  constructor
  · rintro ⟨hnames, hcolumns, hkey, hauto, hcluster⟩
    obtain ⟨hnames, hname⟩ := (nodup_map_append_singleton_iff _).1 hnames
    obtain ⟨hcolumns, hcolumn⟩ := (nodup_map_append_singleton_iff _).1 hcolumns
    rw [List.filter_append, List.length_append] at hkey
    refine ⟨⟨hnames, hcolumns, by omega, fun a ha => hauto a (List.mem_append_left _ ha),
      fun a ha => hcluster a (List.mem_append_left _ ha)⟩, ⟨hname, hcolumn, fun hk => ?_, ?_, ?_⟩⟩
    -- with a second primary key there would be two
    · rw [List.filter_cons_of_pos hk, List.length_cons] at hkey
      exact List.length_eq_zero_iff.1 (by omega)
    · exact hauto attr (by simp)
    · exact hcluster attr (by simp)
  · rintro ⟨⟨hnames, hcolumns, hkey, hauto, hcluster⟩, hname, hcolumn, hkey', hauto', hcluster'⟩
    refine ⟨(nodup_map_append_singleton_iff _).2 ⟨hnames, hname⟩,
      (nodup_map_append_singleton_iff _).2 ⟨hcolumns, hcolumn⟩, ?_, ?_, ?_⟩
    · rw [List.filter_append, List.length_append]
      cases hk : attr.primaryKey with
      | true => simp [hkey' hk, hk]
      | false => simpa [hk] using hkey
    · intro a ha
      rcases List.mem_append.1 ha with hb | hs
      · exact hauto a hb
      · exact List.mem_singleton.1 hs ▸ hauto'
    · intro a ha
      rcases List.mem_append.1 ha with hb | hs
      · exact hcluster a hb
      · exact List.mem_singleton.1 hs ▸ hcluster'

theorem AllFit.of_append {front back : List Attribute} (h : AllFit (front ++ back)) : AllFit front := by
  obtain ⟨hnames, hcolumns, hkey, hauto, hcluster⟩ := h
  rw [List.map_append, List.nodup_append] at hnames hcolumns
  rw [List.filter_append, List.length_append] at hkey
  exact ⟨hnames.1, hcolumns.1, by omega, fun a ha => hauto a (List.mem_append_left _ ha),
    fun a ha => hcluster a (List.mem_append_left _ ha)⟩

end Attribute

namespace Schema

theorem checkAttribute_eq_ok_iff {model : String} {before : List Attribute} {attr : Attribute} :
    checkAttribute model before attr = .ok () ↔ attr.Fits before := by
  have hfind : before.find? (·.primaryKey) = none ↔ before.filter (·.primaryKey) = [] := by
    rw [List.find?_eq_none, List.filter_eq_nil_iff]
  unfold checkAttribute
  constructor
  · intro h
    split at h
    · cases h
    next hname =>
    split at h
    · cases h
    next hcolumn =>
    refine ⟨by simpa using hname, by simpa using hcolumn, fun hk => ?_, fun ha => ?_, fun hc => ?_⟩
    · rw [if_pos hk] at h
      split at h
      · cases h
      · next hnone => exact hfind.1 hnone
    · refine Decidable.byContradiction fun hk => ?_
      rw [if_neg hk, if_pos ha] at h
      cases h
    · refine Decidable.byContradiction fun hk => ?_
      rw [if_neg hk] at h
      split at h <;> cases h
  · rintro ⟨hname, hcolumn, hkey, hauto, hcluster⟩
    rw [if_neg (by simpa using hname), if_neg (by simpa using hcolumn)]
    by_cases hk : attr.primaryKey = true
    · rw [if_pos hk, hfind.2 (hkey hk)]
    · rw [if_neg hk, if_neg (fun ha => hk (hauto ha)), if_neg (fun hc => hk (hcluster hc))]

/-- The check of the attributes one by one passes exactly those that fit
together. -/
theorem checkAttributes_eq_ok_iff (model : String) {before : List Attribute}
    (attributes : List Attribute) (h : Attribute.AllFit before) :
    checkAttributes model before attributes = .ok () ↔ Attribute.AllFit (before ++ attributes) := by
  induction attributes generalizing before with
  | nil => simpa [checkAttributes] using h
  | cons attr rest ih =>
    have hsplit : before ++ attr :: rest = (before ++ [attr]) ++ rest := by simp
    rw [checkAttributes, bind_eq_ok_iff, hsplit]
    constructor
    · rintro ⟨_, hattr, hrest⟩
      exact (ih (Attribute.AllFit.append_singleton_iff.2 ⟨h, checkAttribute_eq_ok_iff.1 hattr⟩)).1 hrest
    · intro hall
      have hfit := hall.of_append
      exact ⟨(), checkAttribute_eq_ok_iff.2 (Attribute.AllFit.append_singleton_iff.1 hfit).2,
        (ih hfit).2 hall⟩

/-! ## Clustering columns -/

/-- A name is clustered by if it resolves to a column that is not in the key yet. -/
theorem resolveClustering_cons_eq_ok_iff {model : String} {columns key : List Column} {name : String}
    {rest : List String} {found : List Column} :
    resolveClustering model columns key (name :: rest) = .ok found ↔
      ∃ column more, Column.find? columns name = some column ∧ column.name ∉ key.map (·.name) ∧
        resolveClustering model columns (key ++ [column]) rest = .ok more ∧
        found = column :: more := by
  rw [resolveClustering]
  cases hfind : Column.find? columns name with
  | none => simp
  | some column =>
    have hin : key.any (·.name = column.name) = true ↔ column.name ∈ key.map (·.name) := by simp
    simp only [Option.some.injEq]
    constructor
    · intro h
      split at h
      · cases h
      next hnew =>
      obtain ⟨more, hmore, rfl⟩ := map_eq_ok_iff.1 h
      exact ⟨column, more, rfl, mt hin.2 hnew, hmore, rfl⟩
    · rintro ⟨_, more, rfl, hnew, hmore, rfl⟩
      rw [if_neg (mt hin.1 hnew)]
      exact map_eq_ok_iff.2 ⟨more, hmore, rfl⟩

/-- Clustering succeeds exactly if every name resolves and no column comes
into the key twice. -/
theorem resolveClustering_eq_ok_iff {model : String} {columns key : List Column} {names : List String}
    {found : List Column} (h : (key.map (·.name)).Nodup) :
    resolveClustering model columns key names = .ok found ↔
      names.map (Column.find? columns) = found.map some ∧ ((key ++ found).map (·.name)).Nodup := by
  induction names generalizing key found with
  | nil =>
    simp only [resolveClustering, Except.ok.injEq, List.map_nil]
    constructor
    · rintro rfl
      exact ⟨rfl, by simpa using h⟩
    · rintro ⟨hnil, -⟩
      exact (List.map_eq_nil_iff.1 hnil.symm).symm
  | cons name rest ih =>
    rw [resolveClustering_cons_eq_ok_iff, List.map_cons]
    constructor
    · rintro ⟨column, more, hfind, hnew, hmore, rfl⟩
      have hkey := (nodup_map_append_singleton_iff Column.name).2 ⟨h, hnew⟩
      obtain ⟨hmap, hnodup⟩ := (ih hkey).1 hmore
      exact ⟨by rw [hfind, hmap, List.map_cons], by simpa using hnodup⟩
    · rintro ⟨hmap, hnodup⟩
      cases found with
      | nil => cases hmap
      | cons column more =>
        obtain ⟨hfind, hmap⟩ := List.cons.inj hmap
        have happend : key ++ column :: more = (key ++ [column]) ++ more := by simp
        rw [happend] at hnodup
        -- the names stay distinct when the later columns are left out
        have hkey : ((key ++ [column]).map (·.name)).Nodup := by
          rw [List.map_append] at hnodup
          exact (List.nodup_append.1 hnodup).1
        have hnew := ((nodup_map_append_singleton_iff Column.name).1 hkey).2
        exact ⟨column, more, hfind, hnew, (ih hkey).2 ⟨hmap, hnodup⟩, rfl⟩

/-! ## Compiled schemas -/

/-- The schema of a model with a given key. -/
def ofKey (model : Model) (key : Attribute) (clustering : List Column) : Schema :=
  { identity := model.identity
    table := model.tableName.getD (Text.toLower model.identity)
    columns := model.attributes.map Attribute.toColumn
    partition := key.toColumn
    clustering
    generatesKey := key.autoIncrement
    defaults := declaredDefaults model.attributes
    indexed := (distinct (requestedIndexes model.attributes)).filter fun name =>
      !(key.toColumn :: clustering).any (·.name = name) }

theorem compile_eq_ok_iff {model : Model} {schema : Schema} :
    compile model = .ok schema ↔
      Attribute.AllFit model.attributes ∧
        ∃ key clustering, model.attributes.find? (·.primaryKey) = some key ∧
          resolveClustering model.identity (model.attributes.map Attribute.toColumn)
            [key.toColumn] key.clusterBy = .ok clustering ∧
          schema = ofKey model key clustering := by
  have hcheck := checkAttributes_eq_ok_iff model.identity model.attributes Attribute.AllFit.nil
  rw [List.nil_append] at hcheck
  rw [← hcheck, compile, bind_eq_ok_iff]
  constructor
  · rintro ⟨_, hok, h⟩
    split at h
    · cases h
    next key hkey =>
    obtain ⟨clustering, hclustering, h⟩ := bind_eq_ok_iff.1 h
    exact ⟨hok, key, clustering, hkey, hclustering, (Except.ok.inj h).symm⟩
  · rintro ⟨hok, key, clustering, hkey, hclustering, rfl⟩
    refine ⟨(), hok, ?_⟩
    simp only [hkey]
    exact bind_eq_ok_iff.2 ⟨clustering, hclustering, rfl⟩

/-- What holds of the columns and of the key of every compiled schema. -/
structure Coherent (schema : Schema) : Prop where
  names : (schema.columns.map (·.name)).Nodup
  attrs : (schema.columns.map (·.attr)).Nodup
  key : ∀ column ∈ schema.keyColumns, column ∈ schema.columns
  keyNames : (schema.keyColumns.map (·.name)).Nodup
  /-- The type of a column follows from the type of its attribute, but for a
  generated key. -/
  native : ∀ column ∈ schema.columns,
    column.native = (column.type.map AttributeType.native).getD .text ∨
    column = schema.partition ∧ schema.generatesKey = true
  generated : schema.generatesKey = true → schema.partition.native = .timeuuid ∧
    schema.partition.type = some .string

theorem coherent_of_compile {model : Model} {schema : Schema} (h : compile model = .ok schema) :
    schema.Coherent := by
  obtain ⟨hfit, key, clustering, hkey, hclustering, rfl⟩ := compile_eq_ok_iff.1 h
  obtain ⟨hmap, hnodup⟩ := (resolveClustering_eq_ok_iff (by simp)).1 hclustering
  have hmem : key ∈ model.attributes := List.mem_of_find?_eq_some hkey
  have hprimary : key.primaryKey = true := by simpa using List.find?_some hkey
  refine ⟨?_, ?_, ?_, hnodup, ?_, ?_⟩
  · exact (List.map_map (l := model.attributes) (f := Attribute.toColumn) (g := Column.name)) ▸
    hfit.columns
  · exact (List.map_map (l := model.attributes) (f := Attribute.toColumn) (g := Column.attr)) ▸
    hfit.names
  · intro column hc
    rcases List.mem_cons.1 hc with rfl | hc
    · exact List.mem_map_of_mem hmem
    · have hfound : some column ∈ key.clusterBy.map (Column.find? _) := hmap ▸ List.mem_map_of_mem hc
      obtain ⟨name, -, hfind⟩ := List.mem_map.1 hfound
      exact (Column.mem_of_find? hfind).1
  · intro column hc
    obtain ⟨attr, hattr, rfl⟩ := List.mem_map.1 hc
    cases hauto : attr.autoIncrement with
    | false =>
      left
      simp [Attribute.toColumn, hauto, AttributeType.nativeOf]
    | true =>
      -- only the primary key is generated, and there is one
      right
      have hsame : attr = key := by
        have hone := hfit.primaryKey
        have ha := List.mem_filter.2 ⟨hattr, hfit.autoIncrement attr hattr hauto⟩
        have hk := List.mem_filter.2 ⟨hmem, hprimary⟩
        rcases hfilter : model.attributes.filter (·.primaryKey) with _ | ⟨first, _ | ⟨second, more⟩⟩
        · simp [hfilter] at ha
        · rw [hfilter, List.mem_singleton] at ha hk
          exact ha.trans hk.symm
        · simp [hfilter] at hone
      subst hsame
      exact ⟨rfl, hauto⟩
  · intro hauto
    have hauto' : key.autoIncrement = true := hauto
    simp [ofKey, Attribute.toColumn, hauto']

namespace Coherent

variable {schema : Schema} (h : schema.Coherent)
include h

theorem column?_iff {name : String} {column : Column} :
    schema.column? name = some column ↔ column ∈ schema.columns ∧ column.name = name :=
  find?_eq_some_iff_of_nodup Column.name h.names

theorem columnOf?_iff {attr : String} {column : Column} :
    schema.columnOf? attr = some column ↔ column ∈ schema.columns ∧ column.attr = attr :=
  find?_eq_some_iff_of_nodup Column.attr h.attrs

/-- A column is found by its own name, whatever the attributes are called. -/
theorem find?_name {column : Column} (hm : column ∈ schema.columns) :
    schema.find? column.name = some column := by
  have hname : schema.columns.find? (·.name = column.name) = some column := h.column?_iff.2 ⟨hm, rfl⟩
  rw [find?, Column.find?, hname, Option.some_or]

theorem partition_mem : schema.partition ∈ schema.columns := h.key _ List.mem_cons_self

theorem eq_of_name {left right : Column} (hl : left ∈ schema.columns) (hr : right ∈ schema.columns)
    (he : left.name = right.name) : left = right :=
  Option.some.inj ((h.column?_iff.2 ⟨hl, rfl⟩).symm.trans (h.column?_iff.2 ⟨hr, he.symm⟩))

theorem eq_of_attr {left right : Column} (hl : left ∈ schema.columns) (hr : right ∈ schema.columns)
    (he : left.attr = right.attr) : left = right :=
  Option.some.inj ((h.columnOf?_iff.2 ⟨hl, rfl⟩).symm.trans (h.columnOf?_iff.2 ⟨hr, he.symm⟩))

/-- Columns differ in their attributes exactly if they do in their names. -/
theorem nodup_attrs_iff {columns : List Column} (hm : ∀ column ∈ columns, column ∈ schema.columns) :
    (columns.map (·.attr)).Nodup ↔ (columns.map (·.name)).Nodup := by
  unfold List.Nodup
  rw [List.pairwise_map, List.pairwise_map]
  constructor
  · intro hd
    refine hd.imp_of_mem fun hl hr hne he => hne ?_
    exact congrArg Column.attr (h.eq_of_name (hm _ hl) (hm _ hr) he)
  · intro hd
    refine hd.imp_of_mem fun hl hr hne he => hne ?_
    exact congrArg Column.name (h.eq_of_attr (hm _ hl) (hm _ hr) he)

end Coherent
end Schema

/-! ## Samples -/

/-- A generated key. -/
def Attribute.sampleKey : Attribute :=
  { name := "id", typeName := "string", primaryKey := true, autoIncrement := true }

/-- Users with a generated key, a default, a document, and columns of other
names than their attributes. -/
def Model.sample : Model :=
  { identity := "User"
    attributes := [
      .sampleKey,
      { name := "age", typeName := "integer", columnName := some "Years" },
      { name := "tags", typeName := "array", default := some (.array [.string "new", .null]) },
      { name := "profile", typeName := "json", columnName := some "What's new?" }] }

/-- The schema of users. -/
def Schema.sample : Schema := .ofKey .sample .sampleKey []

theorem Schema.compile_sample : compile .sample = .ok .sample := rfl

/-- A device, whose readings follow each other by day and slot. -/
def Attribute.sampleDevice : Attribute :=
  { name := "deviceId", typeName := "string", primaryKey := true, clusterBy := ["day", "Slot"] }

/-- Readings of devices, with a key of three columns and an index. -/
def Model.sampleReadings : Model :=
  { identity := "Reading"
    attributes := [
      { name := "date", typeName := "integer", columnName := some "Day", index := true },
      .sampleDevice,
      { name := "Slot", typeName := "integer" },
      { name := "level", typeName := "integer", unique := true, index := true },
      { name := "note", typeName := "json" }] }

/-- The schema of readings. -/
def Schema.sampleReadings : Schema :=
  .ofKey .sampleReadings .sampleDevice
    [{ name := "day", attr := "date", native := .bigint, type := some .integer },
      { name := "slot", attr := "Slot", native := .bigint, type := some .integer }]

theorem Schema.compile_sampleReadings : compile .sampleReadings = .ok .sampleReadings := rfl

end WideColumn
