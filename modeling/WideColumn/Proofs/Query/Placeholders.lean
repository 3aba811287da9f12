import WideColumn.Proofs.Query.Insertion
import WideColumn.Proofs.Query.Plan
import WideColumn.Proofs.Statement
/-!
# Placeholders and values

Every statement that is made for a schema has a placeholder for each of its
values, and so has every batch of such statements. Column names are quoted,
so they may hold anything but a double quote; the table name is written as it
is.
-/

namespace WideColumn

/-! ## Statements of a schema -/

/-- The statements that a plan makes: the one of a direct plan, or the one
that reads keys and the template bound to any row. -/
inductive MutationPlan.Makes : MutationPlan → Statement → Prop where
  | direct (statement : Statement) (key : Record) : Makes (.direct statement key) statement
  | select (select : Statement) (template : MutationTemplate) : Makes (.twoPhase select template) select
  | bind {select : Statement} {template : MutationTemplate} {row : Row} {statement : Statement}
      (h : template.bind row = .ok statement) : Makes (.twoPhase select template) statement

/-- The statements that requests make. -/
inductive Schema.Issues (schema : Schema) : Statement → Prop where
  | select {criteria : Criteria} {statement : Statement} (h : schema.select criteria = .ok statement) :
      Issues schema statement
  | count {criteria : Criteria} {statement : Statement} (h : schema.count criteria = .ok statement) :
      Issues schema statement
  | insert {fresh : Uuid} {record : Record} {insertion : Insertion}
      (h : schema.insert fresh record = .ok insertion) :
      Issues schema insertion.statement
  | update {criteria : Criteria} {values : Record} {plan : UpdatePlan} {statement : Statement}
      (h : schema.update criteria values = .ok plan) (hm : plan.plan.Makes statement) :
      Issues schema statement
  | delete {criteria : Criteria} {plan : MutationPlan} {statement : Statement}
      (h : schema.delete criteria = .ok plan) (hm : plan.Makes statement) : Issues schema statement

/-- What is asked of the names of a schema: a plain table name, and no double
quote in a column name. -/
structure Schema.SafeNames (schema : Schema) : Prop where
  table : schema.table.toList.all Statement.isPlain = true
  columns : ∀ column ∈ schema.columns, '"' ∉ column.name.toList

/-- A statement of a request to a table whose names are safe. -/
def Statement.IsIssued (statement : Statement) : Prop :=
  ∃ model schema, Schema.compile model = .ok schema ∧ schema.SafeNames ∧ schema.Issues statement

open Statement

/-! ## Parts of statements -/

theorem Comparison.text_piece {comparison : Comparison} (h : '"' ∉ comparison.column.toList) :
    Piece comparison.text 1 := by
  have hname := Piece.quoteName h
  have hone {text : String} (ht : Piece text 1) := hname.zero_append ht
  unfold text
  cases comparison.operator with
  | among => exact hone ⟨rfl, rfl⟩
  | equal | less | lessOrEqual | greater | greaterOrEqual =>
    simp only [Operator.token, String.append_assoc]
    exact hone ⟨rfl, rfl⟩

theorem Clause.text_piece {clause : Clause}
    (h : ∀ comparison ∈ clause, '"' ∉ comparison.column.toList) :
    Piece clause.text clause.params.length := by
  have hparts : ∀ part ∈ clause.map Comparison.text, Piece part 1 := by
    intro part hm
    obtain ⟨comparison, hc, rfl⟩ := List.mem_map.1 hm
    exact Comparison.text_piece (h comparison hc)
  have hjoined := Piece.intercalate (Piece.plain " AND " (by decide)) hparts
  simpa [Clause.text, Clause.params] using hjoined

/-- Columns in quotes, each set to a placeholder. -/
theorem assigned_piece {separator : String} (hs : Piece separator 0) (names : List String)
    (h : ∀ name ∈ names, '"' ∉ name.toList) :
    Piece (separator.intercalate (names.map fun name => quoteName name ++ " = ?")) names.length := by
  have hparts : ∀ part ∈ names.map (fun name => quoteName name ++ " = ?"), Piece part 1 := by
    intro part hm
    obtain ⟨name, hname, rfl⟩ := List.mem_map.1 hm
    exact (Piece.quoteName (h name hname)).zero_append ⟨rfl, rfl⟩
  simpa using Piece.intercalate hs hparts

namespace Schema

variable {schema : Schema} {criteria : Criteria} {statement : Statement}

theorem keyedStatement_aligned {kind : StatementKind} {head : String} {key : PinnedKey}
    {params : List Json}
    (hhead : Piece head params.length) (hkey : ∀ entry ∈ key, '"' ∉ entry.1.name.toList) :
    (keyedStatement kind head key params).Aligned := by
  have hclause : Piece key.clause.text key.clause.params.length := by
    refine Clause.text_piece fun comparison hm => ?_
    obtain ⟨entry, he, rfl⟩ := List.mem_map.1 hm
    exact hkey entry he
  have hwhere : Piece " WHERE " 0 := Piece.plain _ (by decide)
  have hend : Piece ";" 0 := Piece.plain _ (by decide)
  rw [Aligned, keyedStatement, List.length_append]
  exact ((hhead.append_zero hwhere).append hclause).append_zero hend

theorem scanStatement_aligned {head : String} {clause : Clause} {order : List String}
    {limit : Option Nat}
    (hhead : Piece head 0) (hclause : ∀ comparison ∈ clause, '"' ∉ comparison.column.toList)
    (horder : ∀ part ∈ order, Piece part 0) : (scanStatement head clause order limit).Aligned := by
  have hwhere :
      Piece (if clause.isEmpty then "" else " WHERE " ++ clause.text) clause.params.length := by
    cases clause with
    | nil => exact Piece.empty
    | cons first rest =>
      exact (Piece.plain " WHERE " (by decide)).zero_append (Clause.text_piece hclause)
  have hsort : Piece (if order.isEmpty then "" else " ORDER BY " ++ ", ".intercalate order) 0 := by
    split
    · exact Piece.empty
    · have hparts := Piece.intercalate (Piece.plain ", " (by decide)) horder
      exact (Piece.plain " ORDER BY " (by decide)).zero_append (Nat.mul_zero _ ▸ hparts)
  have hlimit : Piece (limitText limit) 0 := by
    cases limit with
    | none => exact Piece.empty
    | some n => exact (Piece.plain " LIMIT " (by decide)).zero_append (Piece.ofNat n)
  have hfilter : Piece (if clause.isEmpty then "" else " ALLOW FILTERING") 0 := by
    split <;> exact Piece.plain _ (by decide)
  have hend : Piece ";" 0 := Piece.plain _ (by decide)
  have hrows := ((hhead.zero_append hwhere).append_zero hsort).append_zero hlimit
  exact (hrows.append_zero hfilter).append_zero hend

/-! ## One statement -/

section

variable (hs : schema.Coherent) (hn : schema.SafeNames)
include hn

theorem pinned_names {key : PinnedKey} (h : schema.pinnedKey criteria = .ok (some key)) :
    ∀ entry ∈ key, '"' ∉ entry.1.name.toList :=
  fun entry he => hn.columns _ (mem_of_pinnedKey h entry he)

theorem orderText_piece {ordering : Ordering} {text : String}
    (h : schema.orderText ordering = .ok text) :
    Piece text 0 := by
  obtain ⟨column, hcolumn, rfl⟩ := map_eq_ok_iff.1 h
  have hname := Piece.quoteName (hn.columns column (mem_of_resolve hcolumn))
  refine (hname.append_zero (Piece.plain " " (by decide))).append_zero ?_
  cases ordering.direction <;> exact Piece.plain _ (by decide)

theorem query_aligned {head : String} {sort : List Ordering} {limit : Option Nat} (hhead : Piece head 0)
    (h : schema.query head criteria sort limit = .ok statement) : statement.Aligned := by
  rcases query_eq_ok_iff.1 h with ⟨key, hkey, rfl⟩ | ⟨-, clause, order, hclause, horder, rfl⟩
  · exact keyedStatement_aligned hhead (pinned_names hn hkey)
  · refine scanStatement_aligned hhead ?_ ?_
    · intro comparison hm
      obtain ⟨column, hcolumn, he⟩ := column_of_whereClause hclause comparison hm
      exact he ▸ hn.columns column hcolumn
    · intro part hm
      obtain ⟨ordering, -, hpart⟩ := exists_item_of_mapM horder hm
      exact orderText_piece hn hpart

theorem columns_head {columns : List Column} (hc : ∀ column ∈ columns, column ∈ schema.columns) :
    Piece ("SELECT " ++ quoteNames (columns.map (·.name)) ++ " FROM " ++ schema.table) 0 := by
  have hnames : Piece (quoteNames (columns.map (·.name))) 0 := by
    refine Piece.quoteNames fun name hm => ?_
    obtain ⟨column, hcolumn, rfl⟩ := List.mem_map.1 hm
    exact hn.columns column (hc column hcolumn)
  have hselect : Piece "SELECT " 0 := Piece.plain _ (by decide)
  have hfrom : Piece " FROM " 0 := Piece.plain _ (by decide)
  exact ((hselect.append hnames).append hfrom).append (Piece.plain _ hn.table)

theorem select_aligned (h : schema.select criteria = .ok statement) : statement.Aligned :=
  query_aligned hn (columns_head hn fun _ hc => hc) h

theorem count_aligned (h : schema.count criteria = .ok statement) : statement.Aligned :=
  query_aligned hn ((Piece.plain "SELECT COUNT(*) FROM " (by decide)).append (Piece.plain _ hn.table)) h

theorem insertStatement_aligned {bound : List (Column × Json)}
    (hb : ∀ entry ∈ bound, entry.1 ∈ schema.columns) :
    (schema.insertStatement bound).Aligned := by
  have hnames : Piece (quoteNames (bound.map (·.1.name))) 0 := by
    refine Piece.quoteNames fun name hm => ?_
    obtain ⟨entry, he, rfl⟩ := List.mem_map.1 hm
    exact hn.columns _ (hb entry he)
  have hmarks : Piece (", ".intercalate (bound.map fun _ => "?")) bound.length := by
    have hparts : ∀ part ∈ bound.map (fun _ => "?"), Piece part 1 := by
      intro part hm
      obtain ⟨_, -, rfl⟩ := List.mem_map.1 hm
      exact ⟨rfl, rfl⟩
    simpa using Piece.intercalate (Piece.plain ", " (by decide)) hparts
  have hinto : Piece "INSERT INTO " 0 := Piece.plain _ (by decide)
  have hopen : Piece " (" 0 := Piece.plain _ (by decide)
  have hvalues : Piece ") VALUES (" 0 := Piece.plain _ (by decide)
  have hend : Piece ");" 0 := Piece.plain _ (by decide)
  have hhead := ((hinto.append (Piece.plain _ hn.table)).append hopen).append (hnames.append hvalues)
  rw [Aligned, insertStatement, List.length_map]
  simpa [String.append_assoc] using (hhead.append hmarks).append hend

theorem insert_aligned {fresh : Uuid} {record : Record} {insertion : Insertion}
    (h : schema.insert fresh record = .ok insertion) : insertion.statement.Aligned := by
  obtain ⟨generated, given, bound, -, -, -, hbound, rfl⟩ := insert_eq_ok_iff.1 h
  exact insertStatement_aligned hn (mem_of_bindStored hbound)

/-! ## Plans -/

omit hn in
theorem keyValues_length {row : Row} {keys : List Column} {values : List Json}
    (h : MutationTemplate.keyValues row keys = .ok values) : values.length = keys.length := by
  induction keys generalizing values with
  | nil =>
    cases h
    rfl
  | cons key keys ih =>
    rw [MutationTemplate.keyValues] at h
    split at h
    · cases h
    · obtain ⟨more, hmore, rfl⟩ := map_eq_ok_iff.1 h
      exact congrArg (· + 1) (ih hmore)

include hs

theorem selectKeys_aligned (h : schema.selectKeys criteria = .ok statement) : statement.Aligned := by
  rw [selectKeys_eq_query] at h
  exact query_aligned hn (columns_head hn hs.key) h

theorem template_aligned {kind : StatementKind} {head : String} {params : List Json} {row : Row}
    (hhead : Piece head params.length)
    (h : MutationTemplate.bind { kind, head, params, keys := schema.keyColumns } row = .ok statement) :
    statement.Aligned := by
  obtain ⟨values, hvalues, rfl⟩ := map_eq_ok_iff.1 h
  have hkeys := assigned_piece (Piece.plain " AND " (by decide)) (schema.keyColumns.map (·.name)) (by
      intro name hname
      obtain ⟨column, hcolumn, rfl⟩ := List.mem_map.1 hname
      exact hn.columns column (hs.key column hcolumn))
  have hwhere : Piece " WHERE " 0 := Piece.plain _ (by decide)
  have hend : Piece ";" 0 := Piece.plain _ (by decide)
  rw [Aligned, List.length_append, keyValues_length hvalues]
  simpa [MutationTemplate.text, Function.comp_def] using
    ((hhead.append_zero hwhere).append hkeys).append_zero hend

theorem mutation_aligned {kind : StatementKind} {head : String} {params : List Json}
    {plan : MutationPlan}
    (hhead : Piece head params.length) (h : schema.mutation kind head params criteria = .ok plan)
    (hm : plan.Makes statement) : statement.Aligned := by
  rcases mutation_eq_ok_iff.1 h with ⟨key, hkey, rfl⟩ | ⟨-, select, hselect, rfl⟩
  · cases hm
    exact keyedStatement_aligned hhead (pinned_names hn hkey)
  · cases hm with
    | select => exact selectKeys_aligned hs hn hselect
    | bind hbind => exact template_aligned hs hn hhead hbind

theorem update_aligned {values : Record} {plan : UpdatePlan}
    (h : schema.update criteria values = .ok plan)
    (hm : plan.plan.Makes statement) : statement.Aligned := by
  obtain ⟨-, assigned, mutation, hassigned, hmutation, rfl⟩ := update_eq_ok_iff.1 h
  refine mutation_aligned hs hn ?_ hmutation hm
  have hset := assigned_piece (Piece.plain ", " (by decide)) (assigned.map (·.1.name)) (by
    intro name hname
    obtain ⟨entry, he, rfl⟩ := List.mem_map.1 hname
    exact hn.columns _ (mem_of_assignments hassigned entry he))
  have hupdate : Piece "UPDATE " 0 := Piece.plain _ (by decide)
  have hassign : Piece " SET " 0 := Piece.plain _ (by decide)
  simpa [updateHead, Function.comp_def] using
    ((hupdate.append (Piece.plain _ hn.table)).append hassign).append hset

theorem delete_aligned {plan : MutationPlan} (h : schema.delete criteria = .ok plan)
    (hm : plan.Makes statement) :
    statement.Aligned :=
  mutation_aligned hs hn ((Piece.plain "DELETE FROM " (by decide)).append (Piece.plain _ hn.table)) h hm

theorem issues_aligned (h : schema.Issues statement) : statement.Aligned := by
  cases h with
  | select h => exact select_aligned hn h
  | count h => exact count_aligned hn h
  | insert h => exact insert_aligned hn h
  | update h hm => exact update_aligned hs hn h hm
  | delete h hm => exact delete_aligned hs hn h hm

end

/-- Placeholders and values of every statement are as many, also in batches,
which may be about several tables and bind the values of their statements in
order. -/
theorem placeholders_eq_length_params :
    (∀ statement : Statement, statement.IsIssued → statement.placeholders = statement.params.length) ∧
    ∀ statements : List Statement, (∀ statement ∈ statements, statement.IsIssued) →
      (ofBatch statements).params = statements.flatMap (·.params) ∧
      (ofBatch statements).placeholders = (ofBatch statements).params.length := by
  have haligned (statement : Statement) (h : statement.IsIssued) : statement.Aligned := by
    obtain ⟨model, schema, hc, hn, hi⟩ := h
    exact issues_aligned (coherent_of_compile hc) hn hi
  refine ⟨fun statement h => (haligned statement h).placeholders_eq, fun statements h => ⟨rfl, ?_⟩⟩
  exact (ofBatch_aligned fun statement hm => haligned statement (h statement hm)).placeholders_eq

/-- A column whose name holds an apostrophe and a question mark, in a
statement of its own and in a batch. -/
theorem placeholders_eq_length_params_sample :
    ∃ statement,
      Schema.sample.select { filter := some (.field "profile" (.equals (.string "?"))) } =
        .ok statement ∧
      statement.placeholders = statement.params.length ∧
      (ofBatch [statement, statement]).placeholders =
        (ofBatch [statement, statement]).params.length := by
  obtain ⟨hone, hbatch⟩ := placeholders_eq_length_params
  obtain ⟨statement, hselect⟩ : ∃ statement,
      Schema.sample.select { filter := some (.field "profile" (.equals (.string "?"))) } =
        .ok statement := ⟨_, rfl⟩
  have hissued : statement.IsIssued := ⟨_, _, compile_sample, ⟨by decide, by decide⟩, .select hselect⟩
  refine ⟨statement, hselect, hone statement hissued, (hbatch _ fun s hs => ?_).2⟩
  obtain rfl : s = statement := by simpa using hs
  exact hissued

end Schema
end WideColumn
