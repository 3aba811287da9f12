import WideColumn.Proofs.Native.TypeName
import WideColumn.Proofs.Schema.Coherence
import WideColumn.Schema.Definition
/-!
# What the text of a table says

As long as no column name holds a double quote, the text that creates a table
can be read back: a name ends at the next quote and a type at the first comma
outside of its brackets, so the text determines the columns with their types
and the key. A quote inside of a name is not doubled, and such a name reads
as the end of one column and the beginning of another.
-/

namespace WideColumn

/-! ## Where a part ends -/

theorem toList_quoteName (name : String) : (quoteName name).toList = '"' :: (name.toList ++ ['"']) := by
  simp [quoteName]

/-- A quoted name ends at the quote behind it. -/
theorem quoteName_append_inj {left right : String} {back back' : List Char} (hl : '"' ∉ left.toList)
    (hr : '"' ∉ right.toList) (h : (quoteName left).toList ++ back = (quoteName right).toList ++ back') :
    left = right ∧ back = back' := by
  simp only [toList_quoteName, List.cons_append, List.append_assoc, List.nil_append, List.cons.injEq, true_and] at h
  obtain ⟨hname, hback⟩ := Text.append_cons_inj hl hr h
  exact ⟨String.toList_inj.1 hname, hback⟩

/-- A type ends at the comma behind it. -/
theorem NativeType.chars_append_inj {left right : NativeType} {back back' : List Char}
    (h : left.chars ++ ',' :: back = right.chars ++ ',' :: back') : left = right ∧ back = back' := by
  have hsplit := splitComma?_chars left back
  rw [h, splitComma?_chars right back'] at hsplit
  obtain ⟨hname, hback⟩ := Prod.mk.inj (Option.some.inj hsplit)
  exact ⟨name_injective (String.toList_inj.1 hname.symm), hback.symm⟩

/-! ## The parts of a definition -/

/-- The name and the type of a column, which is what a definition says of it. -/
def Column.signature (column : Column) : String × NativeType := (column.name, column.native)

theorem Column.definition_append_inj {left right : Column} {back back' : List Char} (hl : '"' ∉ left.name.toList)
    (hr : '"' ∉ right.name.toList)
    (h : (left.definition ++ ", ").toList ++ back = (right.definition ++ ", ").toList ++ back') :
    left.signature = right.signature ∧ back = back' := by
  have htext (column : Column) (back : List Char) : (column.definition ++ ", ").toList ++ back =
      (quoteName column.name).toList ++ ' ' :: (column.native.chars ++ ',' :: ' ' :: back) := by
    simp [definition, NativeType.chars]
  rw [htext, htext] at h
  obtain ⟨hname, h⟩ := quoteName_append_inj hl hr h
  obtain ⟨htype, h⟩ := NativeType.chars_append_inj (List.cons.inj h).2
  exact ⟨by rw [signature, signature, hname, htype], (List.cons.inj h).2⟩

/-- What follows the first column of a key, up to the end of the text. -/
def keyTail : List String → List Char
  | [] => [')', ')', ';']
  | name :: names => ',' :: ' ' :: ((quoteName name).toList ++ keyTail names)

theorem toList_quoteNames_cons (name : String) (names : List String) :
    (quoteNames (name :: names) ++ "));").toList = (quoteName name).toList ++ keyTail names := by
  induction names generalizing name with
  | nil => simp [quoteNames, keyTail]
  | cons next names ih =>
    calc (quoteNames (name :: next :: names) ++ "));").toList
        = (quoteName name).toList ++ ',' :: ' ' :: (quoteNames (next :: names) ++ "));").toList := by
          simp [quoteNames, String.intercalate_cons_cons]
      _ = (quoteName name).toList ++ keyTail (next :: names) := by rw [ih next]; rfl

theorem keyTail_inj {left right : List String} (hl : ∀ name ∈ left, '"' ∉ name.toList)
    (hr : ∀ name ∈ right, '"' ∉ name.toList) (h : keyTail left = keyTail right) : left = right := by
  induction left generalizing right with
  | nil =>
    cases right with
    | nil => rfl
    | cons other right => simp [keyTail] at h
  | cons name left ih =>
    cases right with
    | nil => simp [keyTail] at h
    | cons other right =>
      obtain ⟨hname, hnames⟩ := List.forall_mem_cons.1 hl
      obtain ⟨hother, hothers⟩ := List.forall_mem_cons.1 hr
      obtain ⟨hfirst, hrest⟩ := quoteName_append_inj hname hother (List.cons.inj (List.cons.inj h).2).2
      rw [hfirst, ih hnames hothers hrest]

/-- A key column ends at its quote, and the key at a parenthesis. -/
theorem quoteNames_cons_inj {left right : String} {lefts rights : List String}
    (hl : ∀ name ∈ left :: lefts, '"' ∉ name.toList) (hr : ∀ name ∈ right :: rights, '"' ∉ name.toList)
    (h : (quoteNames (left :: lefts) ++ "));").toList = (quoteNames (right :: rights) ++ "));").toList) :
    left :: lefts = right :: rights := by
  obtain ⟨hleft, hlefts⟩ := List.forall_mem_cons.1 hl
  obtain ⟨hright, hrights⟩ := List.forall_mem_cons.1 hr
  rw [toList_quoteNames_cons, toList_quoteNames_cons] at h
  obtain ⟨hfirst, htail⟩ := quoteName_append_inj hleft hright h
  rw [hfirst, keyTail_inj hlefts hrights htail]

/-- The definitions of columns end where the next text is no quote. -/
theorem definitions_append_inj {left right : List Column} {c c' : Char} {back back' : List Char}
    (hl : ∀ column ∈ left, '"' ∉ column.name.toList) (hr : ∀ column ∈ right, '"' ∉ column.name.toList)
    (hc : c ≠ '"') (hc' : c' ≠ '"')
    (h : (left.flatMap fun column => (column.definition ++ ", ").toList) ++ c :: back =
      (right.flatMap fun column => (column.definition ++ ", ").toList) ++ c' :: back') :
    left.map Column.signature = right.map Column.signature ∧ c :: back = c' :: back' := by
  have hquote (column : Column) : ∃ text, (column.definition ++ ", ").toList = '"' :: text :=
    ⟨_, by simp only [Column.definition, String.toList_append, toList_quoteName, List.cons_append]; rfl⟩
  induction left generalizing right with
  | nil =>
    cases right with
    | nil => exact ⟨rfl, h⟩
    | cons other right =>
      obtain ⟨text, htext⟩ := hquote other
      rw [List.flatMap_cons, htext] at h
      exact absurd (List.cons.inj h).1 hc
  | cons column left ih =>
    cases right with
    | nil =>
      obtain ⟨text, htext⟩ := hquote column
      rw [List.flatMap_cons, htext] at h
      exact absurd (List.cons.inj h).1.symm hc'
    | cons other right =>
      obtain ⟨hcolumn, hcolumns⟩ := List.forall_mem_cons.1 hl
      obtain ⟨hother, hothers⟩ := List.forall_mem_cons.1 hr
      simp only [List.flatMap_cons, List.append_assoc] at h
      obtain ⟨hfirst, h⟩ := Column.definition_append_inj hcolumn hother h
      obtain ⟨hrest, hback⟩ := ih hcolumns hothers h
      exact ⟨by rw [List.map_cons, List.map_cons, hfirst, hrest], hback⟩

namespace Schema

theorem toList_createTable (schema : Schema) : schema.createTable.toList =
    ("CREATE TABLE " ++ schema.table ++ " (").toList ++
      ((schema.columns.flatMap fun column => (column.definition ++ ", ").toList) ++
        'P' :: ("RIMARY KEY (".toList ++
          (quoteNames (schema.keyColumns.map (·.name)) ++ "));").toList)) := by
  have hprimary : "PRIMARY KEY (".toList = 'P' :: "RIMARY KEY (".toList := rfl
  unfold createTable
  simp only [String.toList_append, String.toList_join, List.flatMap_map, List.append_assoc, hprimary,
    List.cons_append]

/-- The text is made of the table, the columns with their types, and the key. -/
theorem createTable_congr {schema other : Schema} (ht : schema.table = other.table)
    (hc : schema.columns.map Column.signature = other.columns.map Column.signature)
    (hk : schema.keyColumns.map (·.name) = other.keyColumns.map (·.name)) :
    schema.createTable = other.createTable := by
  have hdefinition (columns : List Column) : columns.map (·.definition ++ ", ") =
      (columns.map Column.signature).map fun (name, type) => quoteName name ++ " " ++ type.name ++ ", " := by
    rw [List.map_map]
    rfl
  unfold createTable
  rw [ht, hk, hdefinition, hdefinition, hc]

/-- Where no column name holds a double quote, no name of the key does. -/
theorem quote_not_mem_keyColumns {schema : Schema} (h : schema.Coherent)
    (hq : ∀ column ∈ schema.columns, '"' ∉ column.name.toList) :
    ∀ name ∈ schema.keyColumns.map (·.name), '"' ∉ name.toList := by
  intro name hm
  obtain ⟨column, hcolumn, rfl⟩ := List.mem_map.1 hm
  exact hq column (h.key column hcolumn)

/-- Two schemas without double quotes in their names create the same table by
the same text exactly if they have the same columns with the same types, in
the same order, and the same key. -/
theorem createTable_faithful {model model' : Model} {schema schema' : Schema} (h : compile model = .ok schema)
    (h' : compile model' = .ok schema') (ht : schema.table = schema'.table)
    (hq : ∀ column ∈ schema.columns, '"' ∉ column.name.toList)
    (hq' : ∀ column ∈ schema'.columns, '"' ∉ column.name.toList) :
    schema.createTable = schema'.createTable ↔
      schema.columns.map (fun column => (column.name, column.native)) =
        schema'.columns.map (fun column => (column.name, column.native)) ∧
      schema.keyColumns.map (·.name) = schema'.keyColumns.map (·.name) := by
  constructor
  · intro he
    have hchars := congrArg String.toList he
    rw [toList_createTable, toList_createTable, ht] at hchars
    obtain ⟨hcolumns, hkey⟩ :=
      definitions_append_inj hq hq' (by decide) (by decide) (List.append_cancel_left hchars)
    refine ⟨hcolumns, quoteNames_cons_inj (quote_not_mem_keyColumns (coherent_of_compile h) hq)
      (quote_not_mem_keyColumns (coherent_of_compile h') hq') ?_⟩
    exact List.append_cancel_left (List.cons.inj hkey).2
  · rintro ⟨hcolumns, hkey⟩
    exact createTable_congr ht hcolumns hkey

/-- The key of the readings, under attributes called like their columns. -/
def sampleLogKey : Attribute :=
  { name := "deviceid", typeName := "text", primaryKey := true, clusterBy := ["day", "slot"] }

/-- The readings under attributes called like their columns. -/
def sampleLogModel : Model :=
  { identity := "Log"
    tableName := some "reading"
    attributes := [
      { name := "day", typeName := "integer", unique := true },
      sampleLogKey,
      { name := "slot", typeName := "INTEGER" },
      { name := "level", typeName := "integer" },
      { name := "note", typeName := "string" }] }

def sampleLog : Schema :=
  ofKey sampleLogModel sampleLogKey
    [{ name := "day", attr := "day", native := .bigint, type := some .integer },
      { name := "slot", attr := "slot", native := .bigint, type := some .integer }]

/-- The readings and their log have the same text, and so the same columns
under attributes of different names. -/
theorem createTable_faithful_sample :
    compile .sampleReadings = .ok .sampleReadings ∧ compile sampleLogModel = .ok sampleLog ∧
      sampleReadings.table = sampleLog.table ∧
      (∀ column ∈ sampleReadings.columns, '"' ∉ column.name.toList) ∧
      (∀ column ∈ sampleLog.columns, '"' ∉ column.name.toList) ∧
      sampleReadings.createTable = sampleLog.createTable ∧
      sampleReadings.columns.map (fun column => (column.name, column.native)) =
        sampleLog.columns.map (fun column => (column.name, column.native)) ∧
      sampleReadings.keyColumns.map (·.name) = sampleLog.keyColumns.map (·.name) := by
  have hlog : compile sampleLogModel = .ok sampleLog := rfl
  have hq : ∀ column ∈ sampleReadings.columns, '"' ∉ column.name.toList := by decide
  have hq' : ∀ column ∈ sampleLog.columns, '"' ∉ column.name.toList := by decide
  have htext : sampleReadings.createTable = sampleLog.createTable := by decide +kernel
  exact ⟨compile_sampleReadings, hlog, rfl, hq, hq', htext,
    (createTable_faithful compile_sampleReadings hlog rfl hq hq').1 htext⟩

/-- Two columns besides the key. -/
def samplePair : Model :=
  { identity := "Pair"
    attributes := [
      { name := "k", typeName := "string", primaryKey := true },
      { name := "x", typeName := "string" },
      { name := "y", typeName := "string" }] }

/-- One column besides the key, with quotes in its name. -/
def sampleQuoted : Model :=
  { identity := "Quoted"
    tableName := some "pair"
    attributes := [
      { name := "k", typeName := "string", primaryKey := true },
      { name := "x\" text, \"y", typeName := "string" }] }

/-- A name with quotes reads as two columns. -/
theorem not_every_table_text_is_faithful :
    ¬∀ (model model' : Model) (schema schema' : Schema), compile model = .ok schema →
      compile model' = .ok schema' → schema.table = schema'.table → schema.createTable = schema'.createTable →
      schema.columns.map (fun column => (column.name, column.native)) =
        schema'.columns.map (fun column => (column.name, column.native)) ∧
      schema.keyColumns.map (·.name) = schema'.keyColumns.map (·.name) := by
  intro h
  have hcolumns := (h sampleQuoted samplePair _ _ rfl rfl rfl (by decide +kernel)).1
  exact absurd (congrArg List.length hcolumns) (by decide)

end Schema
end WideColumn
