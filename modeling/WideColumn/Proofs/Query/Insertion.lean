import WideColumn.Proofs.Native.Reading
import WideColumn.Proofs.Query.Clause
import WideColumn.Query.Decode
import WideColumn.Query.Insert
/-!
# Records read back after an insert

What an insert stores is collected in three steps: the generated key, the
values of the caller, the defaults. The record never names an attribute
twice, and a generated key stays as it was generated. So the row that the
statement writes decodes to the record that the insert returned.
-/

namespace WideColumn

theorem Column.bind_eq_ok_iff {column : Column} {value param : Json} :
    column.bind value = .ok param ↔
      param = column.encode value ∧
        ∃ cell, NativeValue.ofJson column.native (column.encode value) = .ok cell := by
  unfold Column.bind
  cases NativeValue.ofJson column.native (column.encode value) with
  | error failure => simp
  | ok cell => simp [eq_comm]

namespace Schema

variable {schema : Schema} {fresh : Uuid} {record stored given : Record} {insertion : Insertion}

/-! ## The steps of an insert -/

theorem insert_eq_ok_iff :
    schema.insert fresh record = .ok insertion ↔
      ∃ generated given bound, schema.generatedKey fresh record = .ok generated ∧
        schema.storeAll generated record = .ok given ∧
          schema.missingKey? (schema.storeDefaults given) = none ∧
        schema.bindStored (schema.storeDefaults given) = .ok bound ∧
        insertion =
          { statement := schema.insertStatement bound, record := schema.storeDefaults given } := by
  rw [insert, bind_eq_ok_iff]
  constructor
  · rintro ⟨generated, hgenerated, h⟩
    obtain ⟨given, hgiven, h⟩ := bind_eq_ok_iff.1 h
    simp only at h
    split at h
    · cases h
    next hmissing =>
    obtain ⟨bound, hbound, h⟩ := bind_eq_ok_iff.1 h
    exact ⟨generated, given, bound, hgenerated, hgiven, hmissing, hbound, (Except.ok.inj h).symm⟩
  · rintro ⟨generated, given, bound, hgenerated, hgiven, hmissing, hbound, rfl⟩
    refine ⟨generated, hgenerated, bind_eq_ok_iff.2 ⟨given, hgiven, ?_⟩⟩
    simp only [hmissing]
    exact bind_eq_ok_iff.2 ⟨bound, hbound, rfl⟩

theorem generatedKey_eq_ok {generated : Record} (h : schema.generatedKey fresh record = .ok generated) :
    generated =
      if schema.generatesKey then [(schema.partition.attr, .string (String.ofList fresh.text))]
      else [] := by
  unfold generatedKey at h
  split at h
  · next hg =>
    rw [if_pos hg]
    split at h
    · cases h
    · exact (Except.ok.inj h).symm
  · next hg =>
    rw [if_neg hg]
    exact (Except.ok.inj h).symm

/-- What storing one value preserves, storing the values of a record
preserves. -/
theorem storeAll_induction {P : Record → Prop}
    (hstep : ∀ stored column value, column ∈ schema.columns →
      ¬(schema.generatesKey ∧ column.name = schema.partition.name) → P stored →
        P (stored.insert column.attr value))
    {entries : List (String × Json)} (hp : P stored)
    (h : schema.storeAll stored entries = .ok given) : P given := by
  induction entries generalizing stored with
  | nil =>
    cases h
    exact hp
  | cons entry rest ih =>
    rw [storeAll] at h
    obtain ⟨column, hcolumn, h⟩ := bind_eq_ok_iff.1 h
    split at h
    -- a value for a generated key is passed over
    · exact ih hp h
    · next hkey =>
      exact ih (hstep stored column entry.2 (mem_of_resolve hcolumn) hkey hp) h

/-- What storing a value under a new name preserves, storing the defaults
preserves. -/
theorem storeDefaults_induction {P : Record → Prop}
    (hstep : ∀ stored name value, stored.has name = false → P stored →
      P (stored.insert name value))
    (hp : P stored) :
    P (schema.storeDefaults stored) := by
  unfold storeDefaults
  induction schema.defaults generalizing stored with
  | nil => exact hp
  | cons entry rest ih =>
    obtain ⟨name, value⟩ := entry
    rw [List.foldl_cons]
    refine ih ?_
    simp only
    split
    · exact hp
    · next hhas => exact hstep stored name value (by simpa using hhas) hp

/-! ## The stored record -/

theorem nodup_names_of_insert (h : schema.insert fresh record = .ok insertion) :
    insertion.record.names.Nodup := by
  obtain ⟨generated, given, bound, hgenerated, hgiven, -, -, rfl⟩ := insert_eq_ok_iff.1 h
  have hnodup : generated.names.Nodup := by
    rw [generatedKey_eq_ok hgenerated]
    split <;> simp [Fields.names]
  refine storeDefaults_induction (P := fun stored => stored.names.Nodup) ?_ ?_
  · exact fun _ name value _ hp => Fields.nodup_names_insert hp name value
  · refine storeAll_induction (P := fun stored => stored.names.Nodup) ?_ hnodup hgiven
    exact fun _ column value _ _ hp => Fields.nodup_names_insert hp column.attr value

/-- Neither the caller's values nor defaults replace a generated key. -/
theorem get?_generated_of_insert (hs : schema.Coherent) (hg : schema.generatesKey = true)
    (h : schema.insert fresh record = .ok insertion) :
    insertion.record.get? schema.partition.attr = some (.string (String.ofList fresh.text)) := by
  obtain ⟨generated, given, bound, hgenerated, hgiven, -, -, rfl⟩ := insert_eq_ok_iff.1 h
  have hfirst : generated.get? schema.partition.attr = some (.string (String.ofList fresh.text)) := by
    rw [generatedKey_eq_ok hgenerated, if_pos hg, Fields.get?, if_pos rfl]
  refine storeDefaults_induction (P := fun stored => stored.get? schema.partition.attr = _) ?_ ?_
  · intro stored name value hhas hp
    -- defaults only go where there is no value yet
    have hne : schema.partition.attr ≠ name := by
      rintro rfl
      simp [Fields.has, hp] at hhas
    rw [Fields.get?_insert_of_ne _ _ hne, hp]
  · refine storeAll_induction (P := fun stored => stored.get? schema.partition.attr = _) ?_
      hfirst hgiven
    intro stored column value hmem hkey hp
    -- another column stores another attribute
    have hne : schema.partition.attr ≠ column.attr := fun he =>
      hkey ⟨hg, congrArg Column.name (hs.eq_of_attr hmem hs.partition_mem he.symm)⟩
    rw [Fields.get?_insert_of_ne _ _ hne, hp]

/-! ## The written row -/

/-- The row that an insert writes: each column with its bound value as a
cell. -/
def writtenRow (bound : List (Column × Json)) : Except Unconvertible Row :=
  bound.mapM fun (column, param) => (NativeValue.ofJson column.native param).map (column.name, ·)

/-- Each stored value is bound to the column of its attribute. -/
theorem bindStored_cons_eq_ok_iff {name : String} {value : Json} {bound : List (Column × Json)} :
    schema.bindStored ((name, value) :: stored) = .ok bound ↔
      ∃ column param rest, schema.columnOf? name = some column ∧ column.bind value = .ok param ∧
        schema.bindStored stored = .ok rest ∧ bound = (column, param) :: rest := by
  rw [bindStored, mapM_cons_eq_ok_iff]
  constructor
  · rintro ⟨first, rest, hfirst, hrest, rfl⟩
    simp only at hfirst
    split at hfirst
    · next column hcolumn =>
      obtain ⟨param, hparam, rfl⟩ := map_eq_ok_iff.1 hfirst
      exact ⟨column, param, rest, hcolumn, hparam, hrest, rfl⟩
    · cases hfirst
  · rintro ⟨column, param, rest, hcolumn, hparam, hrest, rfl⟩
    refine ⟨(column, param), rest, ?_, hrest, rfl⟩
    simp only [hcolumn]
    exact map_eq_ok_iff.2 ⟨param, hparam, rfl⟩

theorem mem_of_bindStored {bound : List (Column × Json)} (h : schema.bindStored stored = .ok bound) :
    ∀ entry ∈ bound, entry.1 ∈ schema.columns := by
  intro entry hm
  obtain ⟨⟨name, value⟩, -, hentry⟩ := exists_item_of_mapM h hm
  simp only at hentry
  split at hentry
  · next column hcolumn =>
    obtain ⟨param, -, rfl⟩ := map_eq_ok_iff.1 hentry
    exact List.mem_of_find?_eq_some hcolumn
  · cases hentry

/-- If every stored value comes back from its cell, the row's cells decode to
the stored entries one by one. -/
theorem decodeCells_writtenRow (hs : schema.Coherent)
    (hcell : ∀ name value column cell, (name, value) ∈ stored → schema.columnOf? name = some column →
      NativeValue.ofJson column.native (column.encode value) = .ok cell →
        column.decode cell.toJson = value)
    {bound : List (Column × Json)} (hb : schema.bindStored stored = .ok bound) :
    ∃ row, writtenRow bound = .ok row ∧
      row.map (fun (column, cell) => schema.decodeCell column cell) = stored := by
  induction stored generalizing bound with
  | nil =>
    cases hb
    exact ⟨[], rfl, rfl⟩
  | cons entry rest ih =>
    obtain ⟨name, value⟩ := entry
    obtain ⟨column, param, more, hcolumn, hparam, hmore, rfl⟩ := bindStored_cons_eq_ok_iff.1 hb
    obtain ⟨rfl, cell, hof⟩ := Column.bind_eq_ok_iff.1 hparam
    obtain ⟨row, hrow, hdecode⟩ :=
      ih (fun n v c d hm => hcell n v c d (List.mem_cons_of_mem _ hm)) hmore
    -- the row names the column, which is the one of the attribute
    have hback := hcell name value column cell List.mem_cons_self hcolumn hof
    obtain ⟨hmem, rfl⟩ := hs.columnOf?_iff.1 hcolumn
    refine ⟨(column.name, cell) :: row, mapM_cons_eq_ok_iff.2 ⟨_, row, ?_, hrow, rfl⟩, ?_⟩
    · exact map_eq_ok_iff.2 ⟨cell, hof, rfl⟩
    · rw [List.map_cons, hdecode]
      simp only [decodeCell, hs.column?_iff.2 ⟨hmem, rfl⟩, hback]

/-- The row that an insert writes decodes to the record that it returned, if
every stored value has the form in which its attribute is read. -/
theorem decodeRow_of_insert {model : Model} (hc : compile model = .ok schema)
    (hi : schema.insert fresh record = .ok insertion)
    (hv : ∀ name value column, (name, value) ∈ insertion.record → schema.columnOf? name = some column →
      column.ReadingForm value) :
    ∃ bound row, schema.bindStored insertion.record = .ok bound ∧
      insertion.statement = schema.insertStatement bound ∧ writtenRow bound = .ok row ∧
      schema.decodeRow row = insertion.record := by
  have hs := coherent_of_compile hc
  have hnodup := nodup_names_of_insert hi
  obtain ⟨generated, given, bound, -, -, -, hbound, rfl⟩ := insert_eq_ok_iff.1 hi
  have hback (name : String) (value : Json) (column : Column) (cell : NativeValue)
      (hm : (name, value) ∈ schema.storeDefaults given) (hcolumn : schema.columnOf? name = some column)
      (hof : NativeValue.ofJson column.native (column.encode value) = .ok cell) :
      column.decode cell.toJson = value := by
    obtain ⟨hmem, rfl⟩ := hs.columnOf?_iff.1 hcolumn
    rcases hs.native column hmem with hn | ⟨rfl, hg⟩
    · exact column.decode_toJson hn (hv _ _ _ hm hcolumn) hof
    · -- a generated key is not in the form of a declared column, but it is an identifier
      have hget := (Fields.get?_of_mem hnodup hm).symm.trans (get?_generated_of_insert hs hg hi)
      cases hget
      obtain ⟨hn, ht⟩ := hs.generated hg
      exact Column.decode_toJson_timeuuid hn ht hof
  obtain ⟨row, hrow, hdecode⟩ := decodeCells_writtenRow hs hback hbound
  refine ⟨bound, row, hbound, rfl, hrow, ?_⟩
  rw [decodeRow, hdecode]
  exact Fields.ofEntries_eq_self hnodup

/-- A user with a generated key, an aliased age, default tags and a profile
is read back as inserted. -/
theorem decodeRow_of_insert_sample :
    ∃ insertion bound row, Schema.sample.insert (Uuid.timeBased 1 2 3)
        [("profile", .object [("x", .array [.null, .string "a?\""])]), ("years", .ofInt64 (-7))] =
          .ok insertion ∧
      Schema.sample.bindStored insertion.record = .ok bound ∧
      insertion.statement = Schema.sample.insertStatement bound ∧ writtenRow bound = .ok row ∧
      Schema.sample.decodeRow row = insertion.record := by
  obtain ⟨statement, hi⟩ : ∃ statement, Schema.sample.insert (Uuid.timeBased 1 2 3)
      [("profile", .object [("x", .array [.null, .string "a?\""])]), ("years", .ofInt64 (-7))] =
      .ok ⟨statement, [("id", .string (String.ofList (Uuid.timeBased 1 2 3).text)),
        ("profile", .object [("x", .array [.null, .string "a?\""])]), ("age", .ofInt64 (-7)),
        ("tags", .array [.string "new", .null])]⟩ := ⟨_, rfl⟩
  obtain ⟨bound, row, h⟩ := decodeRow_of_insert compile_sample hi (by
    intro name value column hm hcolumn
    simp only [List.mem_cons, List.not_mem_nil, or_false, Prod.mk.injEq] at hm
    rcases hm with ⟨rfl, rfl⟩ | ⟨rfl, rfl⟩ | ⟨rfl, rfl⟩ | ⟨rfl, rfl⟩ <;> cases hcolumn
    · exact .inr ⟨_, rfl⟩
    · exact .inr ⟨by decide, by decide⟩
    · exact .inr ⟨_, rfl⟩
    · exact .inr ⟨_, rfl, by simp⟩)
  exact ⟨_, bound, row, hi, h⟩

end Schema
end WideColumn
