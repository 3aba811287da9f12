import WideColumn.Proofs.Mention
import WideColumn.Proofs.Native.Reading
import WideColumn.Proofs.Schema.Label
import WideColumn.Query.Decode
/-!
# Rows with columns that the schema does not know

A row may hold more columns than the schema has. What is read under an
attribute is then the last cell of all whose columns are seen under its name:
the cell of its own column, unless an unknown column of that name stands behind
it. No row can do this to a schema in which every attribute is called as some
column is.
-/

namespace WideColumn.Schema

/-- The cells of a row in columns that the schema knows. -/
def knownCells (schema : Schema) (row : Row) : Row :=
  row.filter fun (name, _) => (schema.column? name).isSome

/-- Every column of the schema that is in a row is read from its own cell. -/
def ReadsKnown (schema : Schema) (row : Row) : Prop :=
  ∀ column ∈ schema.columns, ∀ cell, (column.name, cell) ∈ row →
    (schema.decodeRow row).get? column.attr = some (column.decode cell.toJson)

variable {schema : Schema} {row before after : Row} {column : Column} {name : String} {cell value : NativeValue}

/-! ## Cells under their names -/

theorem decodeCell_of_known (h : schema.column? name = some column) (cell : NativeValue) :
    schema.decodeCell name cell = (column.attr, column.decode cell.toJson) := by
  simp only [decodeCell, h]

theorem decodeCell_of_unknown (h : schema.column? name = none) (cell : NativeValue) :
    schema.decodeCell name cell = (name, cell.toJson) := by
  simp only [decodeCell, h]

theorem decodeCell_fst (name : String) (cell : NativeValue) :
    (schema.decodeCell name cell).1 = schema.labelOf name := by
  cases h : schema.column? name with
  | none => rw [decodeCell_of_unknown h, labelOf_of_unknown h]
  | some column => rw [decodeCell_of_known h, labelOf_of_known h]

theorem names_decodeCells (row : Row) :
    Fields.names (row.map fun (name, cell) => schema.decodeCell name cell) = row.names.map schema.labelOf := by
  rw [Fields.names, Fields.names, List.map_map, List.map_map]
  exact List.map_congr_left fun field _ => decodeCell_fst field.1 field.2

/-- Of the cells that are seen under one name the last is read. -/
theorem get?_decodeRow (before : Row) (cell : NativeValue) (h : schema.labelOf name ∉ after.names.map schema.labelOf) :
    (schema.decodeRow (before ++ (name, cell) :: after)).get? (schema.labelOf name) =
      some (schema.decodeCell name cell).2 := by
  rw [← names_decodeCells] at h
  have hcell : schema.decodeCell name cell = (schema.labelOf name, (schema.decodeCell name cell).2) := by
    rw [← decodeCell_fst name cell]
  rw [decodeRow, List.map_append, List.map_cons]
  dsimp only
  rw [hcell]
  exact Fields.get?_ofEntries_of_last _ h

/-- A known column is read from its own cell if none behind it shadows it. -/
theorem get?_decodeRow_of_unshadowed (hs : schema.Coherent) (hm : column ∈ schema.columns)
    (hn : (Fields.names (before ++ (column.name, cell) :: after)).Nodup)
    (h : ∀ other ∈ after.names, ¬schema.Shadows other column.name) :
    (schema.decodeRow (before ++ (column.name, cell) :: after)).get? column.attr =
      some (column.decode cell.toJson) := by
  have hknown : schema.column? column.name = some column := hs.column?_iff.2 ⟨hm, rfl⟩
  have hlast : schema.labelOf column.name ∉ after.names.map schema.labelOf := by
    rw [labelOf_of_known hknown]
    intro hmem
    obtain ⟨other, hother, he⟩ := List.mem_map.1 hmem
    rcases (labelOf_eq_attr_iff hs hm).1 he with rfl | hshadows
    · exact (Fields.not_mem_of_nodup hn).2 hother
    · exact h other hother hshadows
  have hread := get?_decodeRow before cell hlast
  rwa [labelOf_of_known hknown, decodeCell_of_known hknown] at hread

/-- A cell that shadows a known column is read in its place. -/
theorem get?_decodeRow_of_shadowed (hs : schema.Coherent) (hm : column ∈ schema.columns)
    (hn : (Fields.names (before ++ (column.name, cell) :: after)).Nodup) {other : String}
    (ho : (other, value) ∈ after) (h : schema.Shadows other column.name) :
    (schema.decodeRow (before ++ (column.name, cell) :: after)).get? column.attr = some value.toJson := by
  have hlabel : schema.labelOf other = column.attr := (labelOf_eq_attr_iff hs hm).2 (.inr h)
  obtain ⟨middle, rest, rfl⟩ := List.append_of_mem ho
  have hsplit : before ++ (column.name, cell) :: (middle ++ (other, value) :: rest) =
      (before ++ (column.name, cell) :: middle) ++ (other, value) :: rest := by simp
  rw [hsplit] at hn ⊢
  -- the column itself stands before the cell, and nothing else shadows it
  have hlast : schema.labelOf other ∉ (Fields.names rest).map schema.labelOf := by
    rw [hlabel]
    intro hmem
    obtain ⟨third, hthird, he⟩ := List.mem_map.1 hmem
    rcases (labelOf_eq_attr_iff hs hm).1 he with rfl | hshadows
    · rw [← hsplit] at hn
      refine (Fields.not_mem_of_nodup hn).2 ?_
      rw [Fields.names_append, Fields.names_cons]
      exact List.mem_append_right _ (List.mem_cons_of_mem _ hthird)
    · rw [hshadows.unique h] at hthird
      exact (Fields.not_mem_of_nodup hn).2 hthird
  have hread := get?_decodeRow (before ++ (column.name, cell) :: middle) value hlast
  rwa [hlabel, decodeCell_of_unknown h.1] at hread

/-- Without unknown columns nothing is shadowed. -/
theorem readsKnown_knownCells (hs : schema.Coherent) (hn : row.names.Nodup) :
    schema.ReadsKnown (schema.knownCells row) := by
  intro column hm cell hcell
  have hknown : ∀ field ∈ schema.knownCells row, (schema.column? field.1).isSome = true := by
    intro field hfield
    exact (List.mem_filter.1 hfield).2
  have hnodup : (schema.knownCells row).names.Nodup := hn.sublist (List.filter_sublist.map Prod.fst)
  generalize schema.knownCells row = cells at hcell hknown hnodup
  obtain ⟨before, after, rfl⟩ := List.append_of_mem hcell
  refine get?_decodeRow_of_unshadowed hs hm hnodup fun other hother hshadows => ?_
  obtain ⟨field, hfield, rfl⟩ := List.mem_map.1 hother
  have hsome := hknown field (List.mem_append_right _ (List.mem_cons_of_mem _ hfield))
  rw [hshadows.1] at hsome
  cases hsome

/-! ## All rows -/

/-- Without its unknown columns every row is read as its cells say. With them a
known column is read from its own cell unless an unknown column that is called
as its attribute stands behind it, whose cell is read as it is. So no row can
disturb a known column exactly if every attribute is also the name of a column. -/
theorem known_columns_are_read_unless_shadowed {model : Model} (hc : compile model = .ok schema) :
    (∀ row : Row, row.names.Nodup →
      schema.ReadsKnown (schema.knownCells row) ∧
      ∀ column ∈ schema.columns, ∀ before cell after, row = before ++ (column.name, cell) :: after →
        ((∀ other ∈ Fields.names after, ¬schema.Shadows other column.name) →
          (schema.decodeRow row).get? column.attr = some (column.decode cell.toJson)) ∧
        ∀ other value, (other, value) ∈ after → schema.Shadows other column.name →
          (schema.decodeRow row).get? column.attr = some value.toJson) ∧
    ((∀ row : Row, row.names.Nodup → schema.ReadsKnown row) ↔
      ∀ column ∈ schema.columns, ∃ other ∈ schema.columns, other.name = column.attr) := by
  have hs := coherent_of_compile hc
  refine ⟨fun row hn => ⟨readsKnown_knownCells hs hn, ?_⟩, fun h column hm => ?_,
    fun h row hn column hm cell hcell => ?_⟩
  · rintro column hm before cell after rfl
    exact ⟨get?_decodeRow_of_unshadowed hs hm hn, fun other value => get?_decodeRow_of_shadowed hs hm hn⟩
  · -- a row with a column that is called as the attribute, behind the column itself
    by_contra hnone
    have hknown : schema.column? column.name = some column := hs.column?_iff.2 ⟨hm, rfl⟩
    have hunknown : schema.column? column.attr = none := by
      cases hfound : schema.column? column.attr with
      | none => rfl
      | some other => exact absurd ⟨other, hs.column?_iff.1 hfound⟩ hnone
    have hshadows : schema.Shadows column.attr column.name := ⟨hunknown, column, hknown, rfl⟩
    have hnodup : (Fields.names ([] ++ (column.name, NativeValue.null) :: [(column.attr, .boolean true)])).Nodup := by
      simpa [Fields.names] using hshadows.ne.symm
    have hown := h _ hnodup column hm .null (by simp)
    have hother := get?_decodeRow_of_shadowed hs hm hnodup List.mem_cons_self hshadows
    rw [hown] at hother
    cases (Option.some.inj hother).symm.trans column.decode_null
  · obtain ⟨before, after, rfl⟩ := List.append_of_mem hcell
    refine get?_decodeRow_of_unshadowed hs hm hn fun other _ hshadows => ?_
    obtain ⟨hunknown, same, hsame, rfl⟩ := hshadows
    obtain ⟨hsame, hname⟩ := hs.column?_iff.1 hsame
    obtain ⟨known, hknown, he⟩ := h same hsame
    rw [hs.column?_iff.2 ⟨hknown, he⟩] at hunknown
    cases hunknown

/-- The years of a user are read as the age, but not with a column `age` behind
them. The profile is read in any case. -/
theorem known_columns_are_read_unless_shadowed_sample :
    let row : Row := [("legacy", .int 3), ("years", .bigint 7), ("age", .text "old"), ("what's new?", .text "[1]")]
    sample.ReadsKnown (sample.knownCells row) ∧
      (sample.decodeRow row).get? "age" = some (.string "old") ∧
      (sample.decodeRow row).get? "profile" = some (.array [.ofInt64 1]) := by
  intro row
  have hage : (⟨"years", "age", .bigint, some .integer⟩ : Column) ∈ sample.columns :=
    List.mem_cons_of_mem _ List.mem_cons_self
  have hprofile : (⟨"what's new?", "profile", .text, some .json⟩ : Column) ∈ sample.columns :=
    List.mem_of_getLast? rfl
  obtain ⟨hknown, hcells⟩ := (known_columns_are_read_unless_shadowed compile_sample).1 row (by decide)
  refine ⟨hknown, ?_, ?_⟩
  · exact (hcells _ hage [_] _ _ rfl).2 "age" (.text "old") List.mem_cons_self ⟨rfl, _, rfl, rfl⟩
  · exact (hcells _ hprofile [_, _, _] _ [] rfl).1 (by simp [Fields.names])

/-- Not every row is read so: an unknown column that is called as an attribute
takes the place of the known one. -/
theorem not_every_row_reads_known :
    ¬∀ (model : Model) (schema : Schema) (row : Row), compile model = .ok schema → row.names.Nodup →
      schema.ReadsKnown row := by
  intro h
  have hage : (⟨"years", "age", .bigint, some .integer⟩ : Column) ∈ sample.columns :=
    List.mem_cons_of_mem _ List.mem_cons_self
  have hread := h _ _ [("years", .bigint 7), ("age", .text "old")] compile_sample (by decide) _ hage _
    List.mem_cons_self
  cases hread

end WideColumn.Schema
