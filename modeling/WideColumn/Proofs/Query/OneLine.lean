import WideColumn.Preview.Basic
import WideColumn.Proofs.Query.Insertion
import WideColumn.Proofs.Query.Plan
import WideColumn.Proofs.Schema.Validity
/-!
# Statements on one line

As long as no name of a table holds a line feed, every statement that is made
for it is a single line that begins with a letter. The values of a statement
are not in its text, so it does not matter what they hold.
-/

namespace WideColumn

/-! ## Lines -/

/-- A text that goes into a line. -/
def Unbroken (text : String) : Prop := '\n' ∉ text.toList

instance (text : String) : Decidable (Unbroken text) := inferInstanceAs (Decidable ('\n' ∉ text.toList))

theorem Unbroken.append {front back : String} (hf : Unbroken front) (hb : Unbroken back) : Unbroken (front ++ back) := by
  rw [Unbroken, String.toList_append, List.mem_append, not_or]
  exact ⟨hf, hb⟩

theorem Unbroken.join {parts : List String} (h : ∀ part ∈ parts, Unbroken part) : Unbroken (String.join parts) := by
  induction parts with
  | nil => decide
  | cons part parts ih =>
    obtain ⟨hpart, hparts⟩ := List.forall_mem_cons.1 h
    rw [String.join_cons]
    exact hpart.append (ih hparts)

theorem Unbroken.intercalate {separator : String} (hs : Unbroken separator) {parts : List String}
    (h : ∀ part ∈ parts, Unbroken part) : Unbroken (separator.intercalate parts) := by
  induction parts with
  | nil => simp [Unbroken]
  | cons part parts ih =>
    obtain ⟨hpart, hparts⟩ := List.forall_mem_cons.1 h
    cases parts with
    | nil => simpa using hpart
    | cons next parts =>
      rw [String.intercalate_cons_cons]
      exact (hpart.append hs).append (ih hparts)

theorem Unbroken.quoteName {name : String} (h : Unbroken name) : Unbroken (quoteName name) := by
  have hquote : Unbroken "\"" := by decide
  exact (hquote.append h).append hquote

theorem Unbroken.quoteNames {names : List String} (h : ∀ name ∈ names, Unbroken name) :
    Unbroken (quoteNames names) := by
  refine .intercalate (by decide) fun part hm => ?_
  obtain ⟨name, hname, rfl⟩ := List.mem_map.1 hm
  exact (h name hname).quoteName

theorem Numeral.unbroken_ofNat (n : Nat) : Unbroken (String.ofList (ofNat n)) := by
  intro hm
  rw [String.toList_ofList] at hm
  exact absurd (isDigit_of_mem_ofNat hm) (by decide)

theorem NativeType.unbroken_name (type : NativeType) : Unbroken type.name := by
  induction type with
  | list item ih | set item ih => exact (Unbroken.append (by decide) ih).append (by decide)
  | map key value ihk ihv =>
    exact (((Unbroken.append (by decide) ihk).append (by decide)).append ihv).append (by decide)
  | _ => decide

/-- A line that begins with a letter. -/
structure IsLine (text : String) : Prop where
  unbroken : Unbroken text
  letter : text.toList.head?.any Char.isAlpha = true

theorem IsLine.append {front back : String} (hf : IsLine front) (hb : Unbroken back) : IsLine (front ++ back) := by
  refine ⟨hf.unbroken.append hb, ?_⟩
  have hletter := hf.letter
  rw [String.toList_append]
  cases hfront : front.toList with
  | nil => simp [hfront] at hletter
  | cons c rest => simpa [hfront] using hletter

/-! ## Clauses -/

theorem Comparison.unbroken_text {comparison : Comparison} (h : Unbroken comparison.column) :
    Unbroken comparison.text := by
  unfold text
  cases comparison.operator with
  | among => exact h.quoteName.append (by decide)
  | equal | less | lessOrEqual | greater | greaterOrEqual =>
    exact ((h.quoteName.append (by decide)).append (by decide)).append (by decide)

theorem Clause.unbroken_text {clause : Clause} (h : ∀ comparison ∈ clause, Unbroken comparison.column) :
    Unbroken clause.text := by
  refine .intercalate (by decide) fun part hm => ?_
  obtain ⟨comparison, hc, rfl⟩ := List.mem_map.1 hm
  exact Comparison.unbroken_text (h comparison hc)

/-- Columns in quotes, each set to a placeholder. -/
theorem unbroken_assigned {α : Type} {separator : String} (hs : Unbroken separator) {name : α → String}
    {items : List α} (h : ∀ item ∈ items, Unbroken (name item)) :
    Unbroken (separator.intercalate (items.map fun item => quoteName (name item) ++ " = ?")) := by
  refine .intercalate hs fun part hm => ?_
  obtain ⟨item, hitem, rfl⟩ := List.mem_map.1 hm
  exact (h item hitem).quoteName.append (by decide)

namespace Schema

/-- No name of a schema ends a line. -/
structure UnbrokenNames (schema : Schema) : Prop where
  table : Unbroken schema.table
  columns : ∀ column ∈ schema.columns, Unbroken column.name

variable {schema : Schema} {criteria : Criteria} {statement : Statement}

/-! ## Requests -/

theorem isLine_keyedStatement (kind : StatementKind) {head : String} (hhead : IsLine head) {key : PinnedKey}
    (hkey : ∀ entry ∈ key, Unbroken entry.1.name) (params : List Json) :
    IsLine (keyedStatement kind head key params).text := by
  have hclause : Unbroken key.clause.text := by
    refine Clause.unbroken_text fun comparison hm => ?_
    obtain ⟨entry, he, rfl⟩ := List.mem_map.1 hm
    exact hkey entry he
  exact ((hhead.append (by decide)).append hclause).append (by decide)

theorem isLine_scanStatement {head : String} (hhead : IsLine head) {clause : Clause}
    (hclause : ∀ comparison ∈ clause, Unbroken comparison.column) {order : List String}
    (horder : ∀ part ∈ order, Unbroken part) (limit : Option Nat) :
    IsLine (scanStatement head clause order limit).text := by
  have hwhere : Unbroken (if clause.isEmpty then "" else " WHERE " ++ clause.text) := by
    split
    · decide
    · exact .append (by decide) (Clause.unbroken_text hclause)
  have hsort : Unbroken (if order.isEmpty then "" else " ORDER BY " ++ ", ".intercalate order) := by
    split
    · decide
    · exact .append (by decide) (.intercalate (by decide) horder)
  have hlimit : Unbroken (limitText limit) := by
    cases limit with
    | none => decide
    | some n => exact .append (by decide) (Numeral.unbroken_ofNat n)
  have hfilter : Unbroken (if clause.isEmpty then "" else " ALLOW FILTERING") := by
    split <;> decide
  exact ((((hhead.append hwhere).append hsort).append hlimit).append hfilter).append (by decide)

section

variable (hn : schema.UnbrokenNames)
include hn

theorem unbroken_orderText {ordering : Ordering} {text : String} (h : schema.orderText ordering = .ok text) :
    Unbroken text := by
  obtain ⟨column, hcolumn, rfl⟩ := map_eq_ok_iff.1 h
  refine ((hn.columns column (mem_of_resolve hcolumn)).quoteName.append (by decide)).append ?_
  cases ordering.direction <;> decide

theorem isLine_query {head : String} (hhead : IsLine head) {sort : List Ordering} {limit : Option Nat}
    (h : schema.query head criteria sort limit = .ok statement) : IsLine statement.text := by
  rcases query_eq_ok_iff.1 h with ⟨key, hkey, rfl⟩ | ⟨-, clause, order, hclause, horder, rfl⟩
  · exact isLine_keyedStatement _ hhead (fun entry he => hn.columns _ (mem_of_pinnedKey hkey entry he)) _
  · -- the clause and the order name columns of the table only
    refine isLine_scanStatement hhead (fun comparison hm => ?_) (fun part hm => ?_) limit
    · obtain ⟨column, hcolumn, he⟩ := column_of_whereClause hclause comparison hm
      exact he ▸ hn.columns column hcolumn
    · obtain ⟨ordering, -, hpart⟩ := exists_item_of_mapM horder hm
      exact unbroken_orderText hn hpart

theorem isLine_selectHead {columns : List Column} (hc : ∀ column ∈ columns, column ∈ schema.columns) :
    IsLine ("SELECT " ++ quoteNames (columns.map (·.name)) ++ " FROM " ++ schema.table) := by
  have hselect : IsLine "SELECT " := ⟨by decide, by decide⟩
  have hnames : Unbroken (quoteNames (columns.map (·.name))) := by
    refine .quoteNames fun name hm => ?_
    obtain ⟨column, hcolumn, rfl⟩ := List.mem_map.1 hm
    exact hn.columns column (hc column hcolumn)
  exact ((hselect.append hnames).append (by decide)).append hn.table

theorem isLine_select (h : schema.select criteria = .ok statement) : IsLine statement.text :=
  isLine_query hn (isLine_selectHead hn fun _ hc => hc) h

theorem isLine_count (h : schema.count criteria = .ok statement) : IsLine statement.text := by
  have hcount : IsLine "SELECT COUNT(*) FROM " := ⟨by decide, by decide⟩
  exact isLine_query hn (hcount.append hn.table) h

theorem isLine_insert {fresh : Uuid} {record : Record} {insertion : Insertion}
    (h : schema.insert fresh record = .ok insertion) : IsLine insertion.statement.text := by
  obtain ⟨generated, given, bound, -, -, -, hbound, rfl⟩ := insert_eq_ok_iff.1 h
  have hinsert : IsLine "INSERT INTO " := ⟨by decide, by decide⟩
  have hnames : Unbroken (quoteNames (bound.map (·.1.name))) := by
    refine .quoteNames fun name hm => ?_
    obtain ⟨entry, he, rfl⟩ := List.mem_map.1 hm
    exact hn.columns _ (mem_of_bindStored hbound entry he)
  have hmarks : Unbroken (", ".intercalate (bound.map fun _ => "?")) := by
    refine .intercalate (by decide) fun part hm => ?_
    obtain ⟨_, -, rfl⟩ := List.mem_map.1 hm
    decide
  have hopen : Unbroken " (" := by decide
  have hvalues : Unbroken ") VALUES (" := by decide
  have hhead := (((hinsert.append hn.table).append hopen).append hnames).append hvalues
  exact (hhead.append hmarks).append (by decide)

end

/-! ## Plans -/

section

variable (hs : schema.Coherent) (hn : schema.UnbrokenNames)
include hs hn

/-- The statements that a preview of a plan shows. -/
theorem isLine_mutation {kind : StatementKind} {head : String} (hhead : IsLine head) {params : List Json}
    {plan : MutationPlan} (h : schema.mutation kind head params criteria = .ok plan) (role : StepRole) :
    ∀ step ∈ (Preview.ofMutation role plan).steps, IsLine step.statement.text := by
  rcases mutation_eq_ok_iff.1 h with ⟨key, hkey, rfl⟩ | ⟨-, select, hselect, rfl⟩
  · simp only [Preview.ofMutation, List.forall_mem_singleton]
    exact isLine_keyedStatement _ hhead (fun entry he => hn.columns _ (mem_of_pinnedKey hkey entry he)) _
  · rw [selectKeys_eq_query] at hselect
    have hkeys : Unbroken (" AND ".intercalate (schema.keyColumns.map fun key => quoteName key.name ++ " = ?")) :=
      unbroken_assigned (by decide) fun key hm => hn.columns key (hs.key key hm)
    simp only [Preview.ofMutation, List.forall_mem_cons]
    refine ⟨isLine_query hn (isLine_selectHead hn hs.key) hselect, ?_, by simp⟩
    exact ((hhead.append (by decide)).append hkeys).append (by decide)

theorem isLine_update {values : Record} {update : UpdatePlan} (h : schema.update criteria values = .ok update)
    (role : StepRole) : ∀ step ∈ (Preview.ofMutation role update.plan).steps, IsLine step.statement.text := by
  obtain ⟨-, assigned, mutation, hassigned, hmutation, rfl⟩ := update_eq_ok_iff.1 h
  have hupdate : IsLine "UPDATE " := ⟨by decide, by decide⟩
  have hset : Unbroken (", ".intercalate (assigned.map fun entry => quoteName entry.1.name ++ " = ?")) :=
    unbroken_assigned (by decide) fun entry hm => hn.columns _ (mem_of_assignments hassigned entry hm)
  exact isLine_mutation hs hn (((hupdate.append hn.table).append (by decide)).append hset) hmutation role

theorem isLine_delete {plan : MutationPlan} (h : schema.delete criteria = .ok plan) (role : StepRole) :
    ∀ step ∈ (Preview.ofMutation role plan).steps, IsLine step.statement.text := by
  have hdelete : IsLine "DELETE FROM " := ⟨by decide, by decide⟩
  exact isLine_mutation hs hn (hdelete.append hn.table) h role

/-! ## Tables -/

theorem isLine_createTable : IsLine schema.createTable := by
  have hcreate : IsLine "CREATE TABLE " := ⟨by decide, by decide⟩
  have hcolumns : Unbroken (String.join (schema.columns.map (·.definition ++ ", "))) := by
    refine .join fun part hm => ?_
    obtain ⟨column, hcolumn, rfl⟩ := List.mem_map.1 hm
    have hname := (hn.columns column hcolumn).quoteName
    exact ((hname.append (by decide)).append column.native.unbroken_name).append (by decide)
  have hkey : Unbroken (quoteNames (schema.keyColumns.map (·.name))) := by
    refine .quoteNames fun name hm => ?_
    obtain ⟨column, hcolumn, rfl⟩ := List.mem_map.1 hm
    exact hn.columns column (hs.key column hcolumn)
  have hopen : Unbroken " (" := by decide
  have hprimary : Unbroken "PRIMARY KEY (" := by decide
  have hhead := (((hcreate.append hn.table).append hopen).append hcolumns).append hprimary
  exact (hhead.append hkey).append (by decide)

end

section

variable (hn : schema.UnbrokenNames)
include hn

theorem isLine_createIndex {column : Column} (hm : column ∈ schema.columns) :
    IsLine (schema.createIndex column.name) := by
  have hcreate : IsLine "CREATE INDEX " := ⟨by decide, by decide⟩
  have hname := hn.columns column hm
  have hindex : Unbroken (indexName schema.table column.name) :=
    ((Unbroken.append (by decide) hn.table).append (by decide)).append hname
  have hon : Unbroken " ON " := by decide
  have hopen : Unbroken " (" := by decide
  have hhead := (((hcreate.append hindex).append hon).append hn.table).append hopen
  exact (hhead.append hname.quoteName).append (by decide)

theorem isLine_dropTable : IsLine schema.dropTable.text := by
  have hdrop : IsLine "DROP TABLE " := ⟨by decide, by decide⟩
  exact (hdrop.append hn.table).append (by decide)

variable {model : Model} (hc : compile model = .ok schema)
include hc

theorem isLine_definition : ∀ statement ∈ schema.definition, IsLine statement.text := by
  rw [definition, List.forall_mem_cons]
  refine ⟨isLine_createTable (coherent_of_compile hc) hn, fun statement hm => ?_⟩
  obtain ⟨⟨name, text⟩, hindex, rfl⟩ := List.mem_map.1 hm
  obtain ⟨_, hindexed, -, rfl⟩ := mem_indexes.1 hindex
  obtain ⟨column, hcolumn, rfl⟩ := exists_column_of_indexed hc hindexed
  exact isLine_createIndex hn hcolumn

/-- A table that does not exist is created, in every mode but the safe one. -/
theorem isLine_migration (mode : MigrationMode) :
    ∀ step ∈ schema.migration mode none, IsLine step.statement.text := by
  have hcreation : ∀ step ∈ schema.creation, IsLine step.statement.text := by
    intro step hm
    obtain ⟨statement, hstatement, rfl⟩ := List.mem_map.1 hm
    exact isLine_definition hn hc statement hstatement
  cases mode with
  | safe => exact List.forall_mem_nil _
  | alter => exact hcreation
  | drop => exact List.forall_mem_cons.2 ⟨isLine_dropTable hn, hcreation⟩

end

end Schema
end WideColumn
