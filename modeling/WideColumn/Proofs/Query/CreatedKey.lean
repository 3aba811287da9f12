import Mathlib.Data.List.Basic
import WideColumn.Proofs.Query.Insertion
import WideColumn.Proofs.Query.Plan
/-!
# The key of a created record

A record that was inserted is looked up by the values of its key attributes.
The conjunction of equalities on the key columns pins the key, so each
request is the statement about that row. An insert encodes the values that it
binds and a lookup binds them as they are, which makes no difference to
scalar values, unless a key attribute is a document.
-/

namespace WideColumn

/-! ## Values that are encoded -/

/-- The text of a document is longer than the string in it. -/
theorem Json.text_ne_of_string (s : String) : (Json.string s).text ≠ s := by
  intro h
  have hlength := congrArg (fun t => t.toList.length) h
  have hescaped := length_le_flatMap_escape s.toList
  simp only [Json.text, Json.write, Json.quoted, String.toList_ofList, List.length_cons,
    List.length_append, List.length_nil] at hlength
  omega

/-- A scalar value is encoded as itself, unless its attribute is a document. -/
theorem Column.encode_eq_self_iff {column : Column} {value : Json} (h : value.isScalar = true) :
    column.encode value = value ↔ column.type ≠ some .json := by
  unfold encode
  cases column.type with
  | none => simp
  | some type =>
    cases type with
    | json =>
      cases value with
      | string s => simpa [AttributeType.encode] using Json.text_ne_of_string s
      | bool | number => simp [AttributeType.encode]
      | null | array | object => cases h
    | _ =>
      cases value with
      | string | bool | number => simp [AttributeType.encode]
      | null | array | object => cases h

namespace Schema

variable {schema : Schema} {record stored : Record} {fresh : Uuid} {insertion : Insertion}
  {criteria : Criteria}

/-- The key columns with the values of their attributes in a record. -/
def keyOf (schema : Schema) (record : Record) : PinnedKey :=
  schema.keyColumns.map fun column => (column, (record.get? column.attr).getD .null)

/-- The conjunction of equalities on the key columns with the values of a
record. -/
def keyFilter (schema : Schema) (record : Record) : Filter :=
  .all ((schema.keyOf record).map fun (column, value) => .field column.name (.equals value))

/-! ## Looking up -/

theorem fields_keyFilter :
    (schema.keyFilter record).fields =
      (schema.keyOf record).map fun entry => (entry.1.name, .equals entry.2) := by
  rw [keyFilter, Filter.fields]
  induction schema.keyOf record with
  | nil => rfl
  | cons entry rest ih => rw [List.map_cons, Filter.fieldsOfAll, ih, Filter.fields]; rfl

theorem map_name_keyOf : (schema.keyOf record).map (·.1.name) = schema.keyColumns.map (·.name) := by
  rw [keyOf, List.map_map]
  rfl

/-- The equalities on the key columns pin the key of the record. -/
theorem pinnedKey_keyFilter (hs : schema.Coherent) (hf : criteria.filter = some (schema.keyFilter record)) :
    schema.pinnedKey criteria = .ok (some (schema.keyOf record)) := by
  have hnodup : ((schema.keyOf record).map (·.1.name)).Nodup := map_name_keyOf ▸ hs.keyNames
  have hkey : ∀ entry ∈ schema.keyOf record, entry.1 ∈ schema.keyColumns := by
    intro entry hm
    obtain ⟨column, hc, rfl⟩ := List.mem_map.1 hm
    exact hc
  have hpins : schema.Pins (schema.keyFilter record) (schema.keyOf record) := by
    refine ⟨?_, ?_, ?_, hnodup⟩
    · rw [fields_keyFilter, keyOf, List.length_map, List.length_map]
    -- column names come first, so each name is that of its column
    · rw [fields_keyFilter, List.map_map]
      refine List.map_congr_left fun entry hm => ?_
      exact congrArg (·, Condition.equals entry.2) (hs.find?_name (hs.key _ (hkey entry hm)))
    · intro entry hm
      exact List.any_eq_true.2 ⟨entry.1, hkey entry hm, by simp⟩
  refine pinnedKey_eq_ok_some_iff.2 ⟨_, _, hf, hpins, ?_⟩
  have hfind : ∀ column ∈ schema.keyColumns,
      (schema.keyOf record).find? (·.1.name = column.name) =
        some (column, (record.get? column.attr).getD .null) := by
    intro column hc
    refine (find?_eq_some_iff_of_nodup (fun entry : Column × Json => entry.1.name) hnodup).2 ⟨?_, rfl⟩
    exact List.mem_map_of_mem hc
  exact (List.filterMap_eq_map_iff_forall_eq_some.2 hfind).symm

/-! ## Inserting -/

/-- An insert binds one value for each stored attribute, in its column. -/
theorem mem_bindStored_iff (hs : schema.Coherent) (hn : stored.names.Nodup)
    {bound : List (Column × Json)} (h : schema.bindStored stored = .ok bound)
    {column : Column} (hm : column ∈ schema.columns) {value : Json}
    (hv : stored.get? column.attr = some value) {param : Json} :
    (column, param) ∈ bound ↔ param = column.encode value := by
  constructor
  · intro hb
    obtain ⟨⟨name, other⟩, hstored, hentry⟩ := exists_item_of_mapM h hb
    simp only at hentry
    split at hentry
    · next found hfound =>
      obtain ⟨bound, hbind, he⟩ := map_eq_ok_iff.1 hentry
      cases he
      obtain ⟨-, rfl⟩ := hs.columnOf?_iff.1 hfound
      -- the attribute of the column is stored once
      cases (Fields.get?_of_mem hn hstored).symm.trans hv
      exact (Column.bind_eq_ok_iff.1 hbind).1
    · cases hentry
  · rintro rfl
    obtain ⟨⟨found, param⟩, hb, hentry⟩ := exists_result_of_mapM h (Fields.mem_of_get? hv)
    simp only [hs.columnOf?_iff.2 ⟨hm, rfl⟩] at hentry
    obtain ⟨bound, hbind, he⟩ := map_eq_ok_iff.1 hentry
    cases he
    exact (Column.bind_eq_ok_iff.1 hbind).1 ▸ hb

/-! ## Requests about a created record -/

/-- The criteria of a created record's key pin it, and every request about
them is the statement about that row. What is bound there at a key column is
what the insert bound, except where a document is the key. -/
theorem created_key_is_pinned {model : Model} (hc : compile model = .ok schema)
    (hi : schema.insert fresh record = .ok insertion)
    (hv : ∀ column ∈ schema.keyColumns, ∃ value,
      insertion.record.get? column.attr = some value ∧ value.isScalar = true)
    (hf : criteria.filter = some (schema.keyFilter insertion.record)) :
    let key := schema.keyOf insertion.record
    schema.pinnedKey criteria = .ok (some key) ∧
      schema.select criteria =
        .ok (keyedStatement .select ("SELECT " ++ schema.projection ++ " FROM " ++ schema.table) key []) ∧
      schema.count criteria =
        .ok (keyedStatement .select ("SELECT COUNT(*) FROM " ++ schema.table) key []) ∧
      schema.delete criteria =
        .ok (.direct (keyedStatement .delete ("DELETE FROM " ++ schema.table) key []) key.record) ∧
      (∀ values assigned, values ≠ [] → schema.assignments values = .ok assigned →
        schema.update criteria values = .ok
          { plan := .direct
              (keyedStatement .update (schema.updateHead assigned) key (assigned.map (·.2))) key.record
            values := schema.valuesByAttribute values }) ∧
      ∃ bound, insertion.statement = schema.insertStatement bound ∧
        ∀ column value, (column, value) ∈ key →
          insertion.record.get? column.attr = some value ∧
          (∀ param, (column, param) ∈ bound ↔ param = column.encode value) ∧
          (column.encode value = value ↔ column.type ≠ some .json) := by
  intro key
  have hs := coherent_of_compile hc
  have hpinned : schema.pinnedKey criteria = .ok (some key) := pinnedKey_keyFilter hs hf
  refine ⟨hpinned, ?_, ?_, ?_, ?_, ?_⟩
  · exact query_eq_ok_iff.2 (.inl ⟨key, hpinned, rfl⟩)
  · exact query_eq_ok_iff.2 (.inl ⟨key, hpinned, rfl⟩)
  · exact mutation_eq_ok_iff.2 (.inl ⟨key, hpinned, rfl⟩)
  · intro values assigned hne hassigned
    exact update_eq_ok_iff.2
      ⟨hne, assigned, _, hassigned, mutation_eq_ok_iff.2 (.inl ⟨key, hpinned, rfl⟩), rfl⟩
  · have hnodup := nodup_names_of_insert hi
    obtain ⟨generated, given, bound, -, -, -, hbound, rfl⟩ := insert_eq_ok_iff.1 hi
    refine ⟨bound, rfl, fun column value hm => ?_⟩
    obtain ⟨found, hfound, he⟩ := List.mem_map.1 hm
    obtain ⟨stored, hstored, hscalar⟩ := hv found hfound
    simp only [hstored, Option.getD_some, Prod.mk.injEq] at he
    obtain ⟨rfl, rfl⟩ := he
    exact ⟨hstored, fun param => mem_bindStored_iff hs hnodup hbound (hs.key _ hfound) hstored,
      Column.encode_eq_self_iff hscalar⟩

/-- A reading of a device is found by its device, day and slot, whatever the
order in which it gave them. -/
theorem created_key_is_pinned_sample :
    ∃ insertion, sampleReadings.insert (Uuid.timeBased 1 2 3)
        [("slot", .ofInt64 7), ("note", .string "x"), ("date", .ofInt64 3), ("deviceId", .string "d")] =
          .ok insertion ∧
      sampleReadings.pinnedKey
          { filter := some (sampleReadings.keyFilter insertion.record), limit := some 5 } =
        .ok (some (sampleReadings.keyOf insertion.record)) ∧
      (sampleReadings.keyOf insertion.record).record =
        [("deviceId", .string "d"), ("date", .ofInt64 3), ("Slot", .ofInt64 7)] := by
  obtain ⟨statement, hi⟩ : ∃ statement, sampleReadings.insert (Uuid.timeBased 1 2 3)
      [("slot", .ofInt64 7), ("note", .string "x"), ("date", .ofInt64 3), ("deviceId", .string "d")] =
      .ok ⟨statement, [("Slot", .ofInt64 7), ("note", .string "x"), ("date", .ofInt64 3),
        ("deviceId", .string "d")]⟩ := ⟨_, rfl⟩
  refine ⟨_, hi, (created_key_is_pinned compile_sampleReadings hi ?_ rfl).1, rfl⟩
  intro column hm
  simp only [keyColumns, sampleReadings, ofKey, List.mem_cons, List.not_mem_nil, or_false] at hm
  rcases hm with rfl | rfl | rfl
  · exact ⟨.string "d", rfl, rfl⟩
  · exact ⟨.ofInt64 3, rfl, rfl⟩
  · exact ⟨.ofInt64 7, rfl, rfl⟩

/-- A key that is a document. -/
def documentKey : Attribute := { name := "id", typeName := "json", primaryKey := true }

/-- Documents that are their own keys. -/
def documentModel : Model := { identity := "doc", attributes := [documentKey] }

/-- Not every created row is found by its key: a string that is a document is
inserted with its quotes and looked up without them. -/
theorem not_every_created_key_is_found :
    ¬∀ (model : Model) (schema : Schema) (fresh : Uuid) (record : Record) (insertion : Insertion)
      (key : PinnedKey) (bound : List (Column × Json)),
      compile model = .ok schema → schema.insert fresh record = .ok insertion →
      (∀ column ∈ schema.keyColumns, ∃ value,
        insertion.record.get? column.attr = some value ∧ value.isScalar = true) →
      schema.pinnedKey { filter := some (schema.keyFilter insertion.record) } = .ok (some key) →
      schema.bindStored insertion.record = .ok bound →
      ∀ column value param, (column, value) ∈ key → (column, param) ∈ bound → param = value := by
  intro h
  have hfound := h documentModel (ofKey documentModel documentKey []) (Uuid.timeBased 1 2 3)
    [("id", .string "a")] _ _ _ rfl rfl (by
      intro column hm
      obtain rfl := List.mem_singleton.1 hm
      exact ⟨.string "a", rfl, rfl⟩) rfl rfl
    documentKey.toColumn (.string "a") (.string "\"a\"") List.mem_cons_self List.mem_cons_self
  exact absurd (Json.string.inj hfound) (by decide)

end Schema
end WideColumn
