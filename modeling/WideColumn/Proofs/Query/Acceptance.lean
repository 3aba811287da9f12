import WideColumn.Proofs.Query.Assignment
/-!
# Which records are inserted

A record is inserted unless it gives a value to a generated key, names what is
no column, leaves a key attribute without a value, or holds a value that its
column does not take; the first of these reasons is the one that is given.
What is stored is told beforehand: the generated key, the attributes that the
record mentions, and the defaults of those that it does not mention.
-/

namespace WideColumn

/-- An insertion that stores entries, each in the column of its attribute and
in the form in which it is bound. -/
structure Insertion.Lists (schema : Schema) (entries : List (Column × Json)) (insertion : Insertion) : Prop where
  record : insertion.record = attrValues entries
  columns : ∀ entry ∈ entries, entry.1 ∈ schema.columns
  distinct : (entries.map (·.1.name)).Nodup
  statement : insertion.statement =
    { kind := .insert
      text := "INSERT INTO " ++ schema.table ++ " (" ++ quoteNames (entries.map (·.1.name)) ++ ") VALUES (" ++
        ", ".intercalate (entries.map fun _ => "?") ++ ");"
      params := entries.map fun (column, value) => column.encode value }

theorem Json.isNull_iff {value : Json} : value.isNull = true ↔ value = .null := by
  cases value <;> simp [isNull]

theorem Column.bind_eq_error_iff {column : Column} {value : Json} {e : CompileError} :
    column.bind value = .error e ↔
      ∃ failure, NativeValue.ofJson column.native (column.encode value) = .error failure ∧
        e = .invalidValue (.unconvertible column.attr failure) := by
  unfold Column.bind
  cases NativeValue.ofJson column.native (column.encode value) with
  | error failure => simp [eq_comm]
  | ok cell => simp

namespace Schema

variable {schema : Schema} {fresh : Uuid} {record stored : Record}

/-! ## What is stored -/

/-- The generated key, if the schema has one. -/
def generatedFields (schema : Schema) (fresh : Uuid) : Record :=
  if schema.generatesKey then [(schema.partition.attr, .string (String.ofList fresh.text))] else []

/-- What a record gives to columns; a generated key takes nothing. -/
def givenTargets (schema : Schema) (record : Record) : List (Column × Json) :=
  (schema.targets record).filter fun (column, _) => !(schema.generatesKey && column.name = schema.partition.name)

/-- The record to store: the generated key, the given attributes in order of
first mention, each with its last value, and the defaults of the others. -/
def storedRecord (schema : Schema) (fresh : Uuid) (record : Record) : Record :=
  let given := schema.generatedFields fresh ++ Fields.lastGiven (attrValues (schema.givenTargets record))
  given ++ schema.defaults.filter fun (attr, _) => attr ∉ Fields.names given

/-! ## What stands against it -/

/-- A name under which a record gives a value to a key that is generated. -/
def SuppliesKey (schema : Schema) (record : Record) (name : String) : Prop :=
  schema.generatesKey = true ∧
    ∃ value, (name, value) ∈ record ∧ value ≠ .null ∧ schema.find? name = some schema.partition

/-- A name of a record that means no column. -/
def NamesNothing (schema : Schema) (record : Record) (name : String) : Prop :=
  name ∈ record.names ∧ schema.find? name = none

/-- A key attribute that has no value in a record. -/
def LacksKey (schema : Schema) (stored : Record) (attr : String) : Prop :=
  ∃ key ∈ schema.keyColumns, key.attr = attr ∧ (stored.get? attr = none ∨ stored.get? attr = some .null)

/-- A value of a record that does not convert to the type of its column. -/
def Misfits (schema : Schema) (stored : Record) (cause : ValueError) : Prop :=
  ∃ column ∈ schema.columns, ∃ value failure, (column.attr, value) ∈ stored ∧
    NativeValue.ofJson column.native (column.encode value) = .error failure ∧
    cause = .unconvertible column.attr failure

/-- The error names what stands against the record. -/
def Blames (schema : Schema) (fresh : Uuid) (record : Record) : CompileError → Prop
  | .immutableKey name => schema.SuppliesKey record name
  | .unknownField name => schema.NamesNothing record name
  | .missingKey attr => schema.LacksKey (schema.storedRecord fresh record) attr
  | .invalidValue cause => schema.Misfits (schema.storedRecord fresh record) cause
  | _ => False

/-- How an insert ends: with the first thing that stands against the record,
or with the record stored. -/
inductive InsertOutcome (schema : Schema) (fresh : Uuid) (record : Record) : Except CompileError Insertion → Prop
  | immutableKey {name : String} (supplied : schema.SuppliesKey record name) :
    schema.InsertOutcome fresh record (.error (.immutableKey name))
  | unknownField {name : String} (supplied : ¬∃ name, schema.SuppliesKey record name)
    (unknown : schema.NamesNothing record name) : schema.InsertOutcome fresh record (.error (.unknownField name))
  | missingKey {attr : String} (supplied : ¬∃ name, schema.SuppliesKey record name)
    (unknown : ¬∃ name, schema.NamesNothing record name)
    (lacking : schema.LacksKey (schema.storedRecord fresh record) attr) :
    schema.InsertOutcome fresh record (.error (.missingKey attr))
  | invalidValue {cause : ValueError} (supplied : ¬∃ name, schema.SuppliesKey record name)
    (unknown : ¬∃ name, schema.NamesNothing record name)
    (lacking : ¬∃ attr, schema.LacksKey (schema.storedRecord fresh record) attr)
    (misfit : schema.Misfits (schema.storedRecord fresh record) cause) :
    schema.InsertOutcome fresh record (.error (.invalidValue cause))
  | stored {insertion : Insertion} {entries : List (Column × Json)}
    (supplied : ¬∃ name, schema.SuppliesKey record name) (unknown : ¬∃ name, schema.NamesNothing record name)
    (lacking : ¬∃ attr, schema.LacksKey (schema.storedRecord fresh record) attr)
    (misfit : ¬∃ cause, schema.Misfits (schema.storedRecord fresh record) cause)
    (record_eq : insertion.record = schema.storedRecord fresh record) (lists : insertion.Lists schema entries) :
    schema.InsertOutcome fresh record (.ok insertion)

/-! ## The steps of an insert -/

/-- A name means the partition key if that is the column found under it. -/
theorem meansPartition_iff (hs : schema.Coherent) {name : String} :
    schema.meansPartition name = true ↔ schema.find? name = some schema.partition := by
  unfold meansPartition
  cases hfind : schema.find? name with
  | none => simp
  | some column =>
    rw [decide_eq_true_eq, Option.some.injEq]
    exact ⟨hs.eq_of_name (Column.mem_of_find? hfind).1 hs.partition_mem, congrArg Column.name⟩

/-- A generated key is refused by a record that supplies it, and by no other. -/
theorem generatedKey_cases (hs : schema.Coherent) (fresh : Uuid) (record : Record) :
    (∃ name, schema.SuppliesKey record name ∧ schema.generatedKey fresh record = .error (.immutableKey name)) ∨
      (¬∃ name, schema.SuppliesKey record name) ∧
        schema.generatedKey fresh record = .ok (schema.generatedFields fresh) := by
  unfold generatedKey generatedFields
  cases hg : schema.generatesKey with
  | false => exact .inr ⟨fun ⟨_, h, _⟩ => by simp [hg] at h, rfl⟩
  | true =>
    simp only [if_true]
    cases hsupplied : schema.suppliedKey? record with
    | some name =>
      obtain ⟨⟨_, value⟩, hfind, rfl⟩ := Option.map_eq_some_iff.1 hsupplied
      have hcond := List.find?_some hfind
      rw [Bool.and_eq_true, meansPartition_iff hs] at hcond
      refine .inl ⟨_, ⟨hg, value, List.mem_of_find?_eq_some hfind, ?_, hcond.2⟩, rfl⟩
      rintro rfl
      exact absurd hcond.1 (by decide)
    | none =>
      refine .inr ⟨?_, rfl⟩
      rintro ⟨name, -, value, hm, hne, hfind⟩
      refine List.find?_eq_none.1 (Option.map_eq_none_iff.1 hsupplied) _ hm ?_
      rw [Bool.and_eq_true, meansPartition_iff hs, Bool.not_eq_true', Bool.eq_false_iff]
      exact ⟨mt Json.isNull_iff.1 hne, hfind⟩

theorem namesNothing_cons_iff {field : String × Json} {rest : Record} {name : String} :
    schema.NamesNothing (field :: rest) name ↔
      name = field.1 ∧ schema.find? field.1 = none ∨ schema.NamesNothing rest name := by
  unfold NamesNothing
  rw [Fields.names_cons, List.mem_cons, or_and_right]
  exact or_congr_left (and_congr_right fun h => by rw [h])

/-- The first value is stored in its column, unless that is a generated key. -/
theorem storeAll_cons {name : String} {column : Column} (h : schema.find? name = some column) (value : Json)
    (stored rest : Record) :
    ∃ next, schema.storeAll stored ((name, value) :: rest) = schema.storeAll next rest ∧
      stored.insertAll (attrValues (schema.givenTargets ((name, value) :: rest))) =
        next.insertAll (attrValues (schema.givenTargets rest)) := by
  have hstore : schema.storeAll stored ((name, value) :: rest) =
      if schema.generatesKey ∧ column.name = schema.partition.name then schema.storeAll stored rest
      else schema.storeAll (stored.insert column.attr value) rest := by
    rw [storeAll, resolve_eq_ok_iff.2 h]
    rfl
  cases hkey : schema.generatesKey && decide (column.name = schema.partition.name) with
  | true =>
    refine ⟨stored, hstore.trans (if_pos (by simpa using hkey)), ?_⟩
    rw [givenTargets, targets_cons h, List.filter_cons_of_neg (by simp [hkey]), ← givenTargets]
  | false =>
    refine ⟨stored.insert column.attr value, hstore.trans (if_neg (by simpa using hkey)), ?_⟩
    rw [givenTargets, targets_cons h, List.filter_cons_of_pos (by simp [hkey]), ← givenTargets]
    rfl

/-- Values are stored one after the other, unless a name means no column. -/
theorem storeAll_cases (schema : Schema) (stored record : Record) :
    (∃ name, schema.NamesNothing record name ∧ schema.storeAll stored record = .error (.unknownField name)) ∨
      (¬∃ name, schema.NamesNothing record name) ∧
        schema.storeAll stored record = .ok (stored.insertAll (attrValues (schema.givenTargets record))) := by
  induction record generalizing stored with
  | nil => exact .inr ⟨fun ⟨_, hm, _⟩ => absurd hm List.not_mem_nil, rfl⟩
  | cons field rest ih =>
    obtain ⟨name, value⟩ := field
    cases hfind : schema.find? name with
    | none =>
      refine .inl ⟨name, namesNothing_cons_iff.2 (.inl ⟨rfl, hfind⟩), ?_⟩
      rw [storeAll, resolve, hfind]
      rfl
    | some column =>
      obtain ⟨next, hstore, hentries⟩ := storeAll_cons hfind value stored rest
      simp only [namesNothing_cons_iff, hfind, reduceCtorEq, and_false, false_or, hstore, hentries]
      exact ih next

/-- The first attribute of the key without a value is the one that is missing. -/
theorem missingKey?_cases (schema : Schema) (stored : Record) :
    (∃ attr, schema.LacksKey stored attr ∧ schema.missingKey? stored = some attr) ∨
      (¬∃ attr, schema.LacksKey stored attr) ∧ schema.missingKey? stored = none := by
  have hnull (attr : String) : ((stored.get? attr).getD .null).isNull = true ↔
      stored.get? attr = none ∨ stored.get? attr = some .null := by
    cases stored.get? attr <;> simp [Json.isNull_iff]
  cases hmissing : schema.missingKey? stored with
  | some attr =>
    obtain ⟨key, hfind, rfl⟩ := Option.map_eq_some_iff.1 hmissing
    have hvalue := List.find?_some hfind
    exact .inl ⟨_, ⟨key, List.mem_of_find?_eq_some hfind, rfl, (hnull _).1 hvalue⟩, rfl⟩
  | none =>
    refine .inr ⟨?_, rfl⟩
    rintro ⟨_, key, hm, rfl, hvalue⟩
    exact List.find?_eq_none.1 (Option.map_eq_none_iff.1 hmissing) key hm ((hnull _).2 hvalue)

/-- Values are bound in the columns of their attributes, encoded and in their
order. -/
theorem entries_of_bindStored (hs : schema.Coherent) {bound : List (Column × Json)}
    (h : schema.bindStored stored = .ok bound) :
    ∃ entries, stored = attrValues entries ∧ (∀ entry ∈ entries, entry.1 ∈ schema.columns) ∧
      bound = entries.map fun (column, value) => (column, column.encode value) := by
  induction stored generalizing bound with
  | nil =>
    cases h
    exact ⟨[], rfl, by simp, rfl⟩
  | cons field rest ih =>
    obtain ⟨name, value⟩ := field
    obtain ⟨column, param, more, hcolumn, hparam, hmore, rfl⟩ := bindStored_cons_eq_ok_iff.1 h
    obtain ⟨rfl, -⟩ := Column.bind_eq_ok_iff.1 hparam
    obtain ⟨hmem, rfl⟩ := hs.columnOf?_iff.1 hcolumn
    obtain ⟨entries, rfl, hentries, rfl⟩ := ih hmore
    exact ⟨(column, value) :: entries, rfl, List.forall_mem_cons.2 ⟨hmem, hentries⟩, rfl⟩

/-- The values of attributes are bound, unless one does not fit its column. -/
theorem bindStored_cases (hs : schema.Coherent)
    (hattrs : ∀ name ∈ stored.names, ∃ column ∈ schema.columns, column.attr = name) :
    (∃ cause, schema.Misfits stored cause ∧ schema.bindStored stored = .error (.invalidValue cause)) ∨
      (¬∃ cause, schema.Misfits stored cause) ∧ ∃ bound, schema.bindStored stored = .ok bound := by
  cases hbound : schema.bindStored stored with
  | error e =>
    obtain ⟨⟨name, value⟩, hm, herror⟩ := exists_error_of_mapM hbound
    obtain ⟨column, hmem, rfl⟩ := hattrs name (List.mem_map_of_mem hm)
    simp only [hs.columnOf?_iff.2 ⟨hmem, rfl⟩, map_eq_error_iff] at herror
    obtain ⟨failure, hfailure, rfl⟩ := Column.bind_eq_error_iff.1 herror
    exact .inl ⟨_, ⟨column, hmem, value, failure, hm, hfailure, rfl⟩, rfl⟩
  | ok bound =>
    refine .inr ⟨?_, bound, rfl⟩
    rintro ⟨_, column, hmem, value, failure, hm, hfailure, rfl⟩
    -- a value that was bound converts
    obtain ⟨result, -, hresult⟩ := exists_result_of_mapM hbound hm
    simp only [hs.columnOf?_iff.2 ⟨hmem, rfl⟩] at hresult
    obtain ⟨param, hparam, -⟩ := map_eq_ok_iff.1 hresult
    cases hparam.symm.trans (Column.bind_eq_error_iff.2 ⟨failure, hfailure, rfl⟩)

/-! ## The stored record -/

theorem names_declaredDefaults_sublist (attributes : List Attribute) :
    (Fields.names (declaredDefaults attributes)).Sublist (attributes.map (·.name)) := by
  induction attributes with
  | nil => exact List.Sublist.slnil
  | cons attr rest ih =>
    rw [declaredDefaults, List.filterMap_cons, List.map_cons]
    split
    · exact ih.cons _
    · next field hfield =>
      have hname : field.1 = attr.name := by
        split at hfield
        · cases hfield
        · obtain ⟨value, -, rfl⟩ := Option.map_eq_some_iff.1 hfield
          rfl
      rw [Fields.names_cons, hname]
      exact ih.cons_cons _

/-- Defaults are of distinct attributes of the model. -/
theorem defaults_of_compile {model : Model} (hc : compile model = .ok schema) :
    (Fields.names schema.defaults).Nodup ∧
      ∀ name ∈ Fields.names schema.defaults, ∃ column ∈ schema.columns, column.attr = name := by
  obtain ⟨hfit, key, clustering, -, -, rfl⟩ := compile_eq_ok_iff.1 hc
  have hsub := names_declaredDefaults_sublist model.attributes
  refine ⟨hfit.names.sublist hsub, fun name hm => ?_⟩
  obtain ⟨attr, hattr, rfl⟩ := List.mem_map.1 (hsub.subset hm)
  exact ⟨attr.toColumn, List.mem_map_of_mem hattr, rfl⟩

/-- Defaults come behind what is stored, as far as they are not stored yet. -/
theorem storeDefaults_eq_append (hd : (Fields.names schema.defaults).Nodup) (stored : Record) :
    schema.storeDefaults stored = stored ++ schema.defaults.filter fun (attr, _) => attr ∉ stored.names := by
  unfold storeDefaults
  generalize schema.defaults = defaults at hd ⊢
  induction defaults generalizing stored with
  | nil => exact (List.append_nil stored).symm
  | cons field rest ih =>
    obtain ⟨name, value⟩ := field
    rw [Fields.names_cons, List.nodup_cons] at hd
    rw [List.foldl_cons]
    by_cases hm : name ∈ stored.names
    · rw [List.filter_cons_of_neg (by simpa using hm)]
      simp only [(Fields.has_iff stored name).2 hm, if_true]
      exact ih stored hd.2
    · rw [List.filter_cons_of_pos (by simpa using hm)]
      simp only [mt (Fields.has_iff stored name).1 hm, Bool.false_eq_true, if_false]
      rw [ih _ hd.2, Fields.insert_of_not_mem value hm, List.append_assoc, List.singleton_append]
      -- the other defaults have other names
      refine congrArg (stored ++ (name, value) :: ·) (List.filter_congr fun field hfield => ?_)
      have hrest : field.1 ∈ Fields.names rest := List.mem_map_of_mem hfield
      have hne : field.1 ≠ name := fun he => hd.1 (he ▸ hrest)
      simp [Fields.names_append, Fields.names_singleton, hne]

theorem mem_names_generatedFields_iff {name : String} :
    name ∈ Fields.names (schema.generatedFields fresh) ↔ schema.generatesKey = true ∧ name = schema.partition.attr := by
  unfold generatedFields
  split
  · next hg => simp [Fields.names, hg]
  · next hg => simp [Fields.names, hg]

theorem mem_columns_of_givenTargets {entry : Column × Json} (h : entry ∈ schema.givenTargets record) :
    entry.1 ∈ schema.columns :=
  mem_columns_of_targets (List.mem_filter.1 h).1

/-- The caller's values come behind a generated key, which they do not touch. -/
theorem insertAll_generatedFields (hs : schema.Coherent) (fresh : Uuid) (record : Record) :
    (schema.generatedFields fresh).insertAll (attrValues (schema.givenTargets record)) =
      schema.generatedFields fresh ++ Fields.lastGiven (attrValues (schema.givenTargets record)) := by
  refine Fields.insertAll_eq_append_lastGiven fun name hm hgenerated => ?_
  obtain ⟨entry, hentry, rfl⟩ := mem_names_attrValues_iff.1 hm
  obtain ⟨hg, hattr⟩ := mem_names_generatedFields_iff.1 hgenerated
  -- the only column of the key's attribute is the key, to which nothing is given
  have hcolumn := hs.eq_of_attr (mem_columns_of_givenTargets hentry) hs.partition_mem hattr
  have hother := (List.mem_filter.1 hentry).2
  simp [hg, hcolumn] at hother

/-- Whatever is stored belongs to a column. -/
theorem attrs_of_storedRecord {model : Model} (hc : compile model = .ok schema) (fresh : Uuid) (record : Record) :
    ∀ name ∈ Fields.names (schema.storedRecord fresh record), ∃ column ∈ schema.columns, column.attr = name := by
  intro name hm
  rw [storedRecord, Fields.names_append, Fields.names_append, List.mem_append, List.mem_append] at hm
  rcases hm with (hgenerated | hgiven) | hdefault
  · obtain ⟨-, rfl⟩ := mem_names_generatedFields_iff.1 hgenerated
    exact ⟨schema.partition, (coherent_of_compile hc).partition_mem, rfl⟩
  · rw [Fields.names_lastGiven, List.mem_eraseDups] at hgiven
    obtain ⟨entry, hentry, rfl⟩ := mem_names_attrValues_iff.1 hgiven
    exact ⟨entry.1, mem_columns_of_givenTargets hentry, rfl⟩
  · obtain ⟨field, hfield, rfl⟩ := List.mem_map.1 hdefault
    exact (defaults_of_compile hc).2 _ (List.mem_map_of_mem (List.mem_filter.1 hfield).1)

/-! ## The outcome -/

/-- What an insert returns says what is stored, and stores it. -/
theorem lists_of_bindStored (hs : schema.Coherent) {insertion : Insertion} {bound : List (Column × Json)}
    (hi : schema.insert fresh record = .ok insertion) (hb : schema.bindStored insertion.record = .ok bound)
    (hstatement : insertion.statement = schema.insertStatement bound) :
    ∃ entries, insertion.Lists schema entries := by
  obtain ⟨entries, hrecord, hcolumns, rfl⟩ := entries_of_bindStored hs hb
  refine ⟨entries, hrecord, hcolumns, ?_, ?_⟩
  · rw [← nodup_names_attrValues_iff hs hcolumns, ← hrecord]
    exact nodup_names_of_insert hi
  · simp only [hstatement, insertStatement, List.map_map, Function.comp_def]

/-- An insert ends at the first of its steps that something stands against. -/
theorem outcome_of_insert {model : Model} (hc : compile model = .ok schema) (fresh : Uuid) (record : Record) :
    schema.InsertOutcome fresh record (schema.insert fresh record) := by
  have hs := coherent_of_compile hc
  rcases generatedKey_cases hs fresh record with ⟨name, hsupplies, hkey⟩ | ⟨hsupplies, hkey⟩
  · have he : schema.insert fresh record = .error (.immutableKey name) := by
      simp only [insert, hkey, bind, Except.bind]
    exact he ▸ .immutableKey hsupplies
  rcases storeAll_cases schema (schema.generatedFields fresh) record with
    ⟨name, hnames, hgiven⟩ | ⟨hnames, hgiven⟩
  · have he : schema.insert fresh record = .error (.unknownField name) := by
      simp only [insert, hkey, hgiven, bind, Except.bind]
    exact he ▸ .unknownField hsupplies hnames
  rw [insertAll_generatedFields hs] at hgiven
  have hstored := storeDefaults_eq_append (defaults_of_compile hc).1
    (schema.generatedFields fresh ++ Fields.lastGiven (attrValues (schema.givenTargets record)))
  change _ = schema.storedRecord fresh record at hstored
  rcases missingKey?_cases schema (schema.storedRecord fresh record) with
    ⟨attr, hlacks, hmissing⟩ | ⟨hlacks, hmissing⟩
  · have he : schema.insert fresh record = .error (.missingKey attr) := by
      simp only [insert, hkey, hgiven, hstored, hmissing, bind, Except.bind]
      rfl
    exact he ▸ .missingKey hsupplies hnames hlacks
  rcases bindStored_cases hs (attrs_of_storedRecord hc fresh record) with
    ⟨cause, hmisfits, hbound⟩ | ⟨hmisfits, bound, hbound⟩
  · have he : schema.insert fresh record = .error (.invalidValue cause) := by
      simp only [insert, hkey, hgiven, hstored, hmissing, hbound, bind, Except.bind]
    exact he ▸ .invalidValue hsupplies hnames hlacks hmisfits
  · have hi : schema.insert fresh record =
        .ok { statement := schema.insertStatement bound, record := schema.storedRecord fresh record } :=
      insert_eq_ok_iff.2 ⟨_, _, bound, hkey, hgiven, hstored ▸ hmissing, hstored ▸ hbound, hstored ▸ rfl⟩
    obtain ⟨entries, hlists⟩ := lists_of_bindStored hs hi hbound rfl
    exact hi ▸ .stored hsupplies hnames hlacks hmisfits rfl hlists

/-- A record is refused for the first thing that stands against it, in this
order, and inserted if there is none. Then the stored record is known, and
each of its attributes is written once. -/
theorem insert_accepts_fitting_records {model : Model} (hc : compile model = .ok schema) (fresh : Uuid)
    (record : Record) :
    let stored := schema.storedRecord fresh record
    let supplied := ∃ name, schema.SuppliesKey record name
    let unknown := ∃ name, schema.NamesNothing record name
    let lacking := ∃ attr, schema.LacksKey stored attr
    let misfit := ∃ cause, schema.Misfits stored cause
    ((∃ name, schema.insert fresh record = .error (.immutableKey name)) ↔ supplied) ∧
      ((∃ name, schema.insert fresh record = .error (.unknownField name)) ↔ ¬supplied ∧ unknown) ∧
      ((∃ attr, schema.insert fresh record = .error (.missingKey attr)) ↔ ¬supplied ∧ ¬unknown ∧ lacking) ∧
      ((∃ cause, schema.insert fresh record = .error (.invalidValue cause)) ↔
        ¬supplied ∧ ¬unknown ∧ ¬lacking ∧ misfit) ∧
      ((∃ insertion, schema.insert fresh record = .ok insertion) ↔ ¬supplied ∧ ¬unknown ∧ ¬lacking ∧ ¬misfit) ∧
      (∀ e, schema.insert fresh record = .error e → schema.Blames fresh record e) ∧
      ∀ insertion, schema.insert fresh record = .ok insertion →
        insertion.record = stored ∧ ∃ entries, insertion.Lists schema entries := by
  intro stored supplied unknown lacking misfit
  have houtcome := outcome_of_insert hc fresh record
  generalize schema.insert fresh record = result at houtcome ⊢
  cases houtcome with
  | @immutableKey name h =>
    have hsupplied : supplied := ⟨name, h⟩
    have hblames : schema.Blames fresh record (.immutableKey name) := h
    simpa [hsupplied] using hblames
  | @unknownField name hkey h =>
    have hsupplied : ¬supplied := hkey
    have hunknown : unknown := ⟨name, h⟩
    have hblames : schema.Blames fresh record (.unknownField name) := h
    simpa [hsupplied, hunknown] using hblames
  | @missingKey attr hkey hnames h =>
    have hsupplied : ¬supplied := hkey
    have hunknown : ¬unknown := hnames
    have hlacking : lacking := ⟨attr, h⟩
    have hblames : schema.Blames fresh record (.missingKey attr) := h
    simpa [hsupplied, hunknown, hlacking] using hblames
  | @invalidValue cause hkey hnames hkeys h =>
    have hsupplied : ¬supplied := hkey
    have hunknown : ¬unknown := hnames
    have hlacking : ¬lacking := hkeys
    have hmisfit : misfit := ⟨cause, h⟩
    have hblames : schema.Blames fresh record (.invalidValue cause) := h
    simpa [hsupplied, hunknown, hlacking, hmisfit] using hblames
  | stored hkey hnames hkeys hvalues hrecord hlists =>
    have hsupplied : ¬supplied := hkey
    have hunknown : ¬unknown := hnames
    have hlacking : ¬lacking := hkeys
    have hmisfit : ¬misfit := hvalues
    simpa [hsupplied, hunknown, hlacking, hmisfit] using And.intro hrecord ⟨_, hlists⟩

/-- A user is not inserted under a given key, whatever else is wrong with the
record. The age that is given last is stored where the first one stood, and tags
that are given as null do not get the default. -/
theorem insert_accepts_fitting_records_sample :
    (∃ name, Schema.sample.insert (Uuid.timeBased 1 2 3)
        [("age", .string "old"), ("shoe", .null), ("id", .string "u")] = .error (.immutableKey name)) ∧
      ∃ insertion entries, Schema.sample.insert (Uuid.timeBased 1 2 3)
          [("age", .ofInt64 7), ("tags", .null), ("id", .null), ("years", .ofInt64 8)] = .ok insertion ∧
        insertion.record = [("id", .string (String.ofList (Uuid.timeBased 1 2 3).text)), ("age", .ofInt64 8),
          ("tags", .null)] ∧
        insertion.Lists Schema.sample entries := by
  constructor
  · obtain ⟨hkey, -⟩ := insert_accepts_fitting_records compile_sample (Uuid.timeBased 1 2 3)
      [("age", .string "old"), ("shoe", .null), ("id", .string "u")]
    exact hkey.2 ⟨"id", rfl, .string "u", by simp, by simp, rfl⟩
  · obtain ⟨statement, hi⟩ : ∃ statement, Schema.sample.insert (Uuid.timeBased 1 2 3)
        [("age", .ofInt64 7), ("tags", .null), ("id", .null), ("years", .ofInt64 8)] =
        .ok ⟨statement, [("id", .string (String.ofList (Uuid.timeBased 1 2 3).text)), ("age", .ofInt64 8),
          ("tags", .null)]⟩ := ⟨_, rfl⟩
    obtain ⟨-, -, -, -, -, -, haccepted⟩ := insert_accepts_fitting_records compile_sample (Uuid.timeBased 1 2 3)
      [("age", .ofInt64 7), ("tags", .null), ("id", .null), ("years", .ofInt64 8)]
    obtain ⟨-, entries, hlists⟩ := haccepted _ hi
    exact ⟨_, entries, hi, rfl, hlists⟩

end Schema
end WideColumn
