import Mathlib.Data.List.Basic
import WideColumn.Proofs.Fields
import WideColumn.Proofs.Query.Plan
/-!
# Changes by key

A template is bound to a row exactly if the row has all key columns. What it
is bound to are the cells of those columns, in key order; the record of the
row's key holds the same cells by attribute, and the values of an update come
behind them, as none of them is of a key attribute.
-/

namespace WideColumn

/-- The cell of a key column that a row has. -/
def Row.cell (row : Row) (key : Column) : NativeValue := (row.get? key.name).getD .null

/-- The statement that changes the row of a key. -/
def MutationTemplate.bound (template : MutationTemplate) (row : Row) : Statement :=
  { kind := template.kind
    text := template.text
    params := template.params ++ template.keys.map fun key => (row.cell key).toJson }

namespace MutationTemplate

variable {template : MutationTemplate} {row : Row} {keys : List Column}

/-! ## Key cells -/

theorem keyValues_eq_ok (h : ∀ key ∈ keys, row.get? key.name ≠ none) :
    keyValues row keys = .ok (keys.map fun key => (row.cell key).toJson) := by
  induction keys with
  | nil => rfl
  | cons key keys ih =>
    obtain ⟨cell, hcell⟩ := Option.ne_none_iff_exists'.1 (h key List.mem_cons_self)
    have hrest := ih fun other hm => h other (List.mem_cons_of_mem _ hm)
    simp only [keyValues, hcell, hrest, Except.map, List.map_cons, Row.cell, Option.getD_some]

theorem keyValues_eq_error (h : ∃ key ∈ keys, row.get? key.name = none) :
    ∃ key ∈ keys, row.get? key.name = none ∧
      keyValues row keys = .error (.invalidValue (.keyColumnMissing key.name)) := by
  induction keys with
  | nil =>
    obtain ⟨_, hm, -⟩ := h
    cases hm
  | cons first keys ih =>
    cases hfirst : row.get? first.name with
    | none => exact ⟨first, List.mem_cons_self, hfirst, by simp only [keyValues, hfirst]⟩
    | some cell =>
      obtain ⟨key, hm, hkey⟩ := h
      rcases List.mem_cons.1 hm with rfl | hm
      · cases hfirst.symm.trans hkey
      · obtain ⟨other, ho, hother, herror⟩ := ih ⟨key, hm, hkey⟩
        refine ⟨other, List.mem_cons_of_mem _ ho, hother, ?_⟩
        simp only [keyValues, hfirst, herror, Except.map]

theorem bind_eq_ok (h : ∀ key ∈ template.keys, row.get? key.name ≠ none) :
    template.bind row = .ok (template.bound row) := by
  rw [bind, keyValues_eq_ok h]
  rfl

theorem bind_eq_error (h : ∃ key ∈ template.keys, row.get? key.name = none) :
    ∃ key ∈ template.keys, row.get? key.name = none ∧
      template.bind row = .error (.invalidValue (.keyColumnMissing key.name)) := by
  obtain ⟨key, hm, hkey, herror⟩ := keyValues_eq_error h
  refine ⟨key, hm, hkey, ?_⟩
  rw [bind, herror]
  rfl

/-! ## Rows -/

variable {rows : List Row}

theorem mapM_bind_eq_ok (h : ∀ row ∈ rows, ∀ key ∈ template.keys, row.get? key.name ≠ none) :
    rows.mapM template.bind = .ok (rows.map template.bound) := by
  refine mapM_eq_ok_iff_map.2 ?_
  rw [List.map_map]
  exact List.map_congr_left fun row hm => bind_eq_ok (h row hm)

/-- Rows are refused only if one of them lacks a key column. -/
theorem exists_missing_of_mapM_bind {e : CompileError} (h : rows.mapM template.bind = .error e) :
    ∃ row ∈ rows, ∃ key ∈ template.keys, row.get? key.name = none ∧
      e = .invalidValue (.keyColumnMissing key.name) := by
  obtain ⟨row, hm, herror⟩ := exists_error_of_mapM h
  -- a row that has all key columns would be bound
  have hlacks : ∃ key ∈ template.keys, row.get? key.name = none := by
    refine Decidable.byContradiction fun hall => ?_
    have hok : template.bind row = .ok (template.bound row) :=
      bind_eq_ok fun key hk hn => hall ⟨key, hk, hn⟩
    cases hok.symm.trans herror
  obtain ⟨key, hk, hkey, hcause⟩ := bind_eq_error hlacks
  cases hcause.symm.trans herror
  exact ⟨row, hm, key, hk, hkey, rfl⟩

theorem mapM_bind_eq_error (h : ∃ row ∈ rows, ∃ key ∈ template.keys, row.get? key.name = none) :
    ∃ e, rows.mapM template.bind = .error e := by
  cases hrows : rows.mapM template.bind with
  | error e => exact ⟨e, rfl⟩
  | ok statements =>
    obtain ⟨row, hm, hlacks⟩ := h
    obtain ⟨_, -, -, herror⟩ := bind_eq_error hlacks
    obtain ⟨_, -, hok⟩ := exists_result_of_mapM hrows hm
    cases herror.symm.trans hok

/-! ## Key records -/

theorem keyRecord_eq_map (hnodup : (template.keys.map (·.attr)).Nodup)
    (h : ∀ key ∈ template.keys, row.get? key.name ≠ none) :
    template.keyRecord row = template.keys.map fun key => (key.attr, key.decode (row.cell key).toJson) := by
  have hentries : (template.keys.filterMap fun key =>
      (row.get? key.name).map fun cell => (key.attr, key.decode cell.toJson)) =
      template.keys.map fun key => (key.attr, key.decode (row.cell key).toJson) := by
    refine List.filterMap_eq_map_iff_forall_eq_some.2 fun key hm => ?_
    obtain ⟨cell, hcell⟩ := Option.ne_none_iff_exists'.1 (h key hm)
    rw [Row.cell, hcell, Option.map_some, Option.getD_some]
  rw [keyRecord, hentries]
  refine Fields.ofEntries_eq_self ?_
  rw [Fields.names, List.map_map]
  exact hnodup

/-- Values that are of no key attribute come behind the key. -/
theorem mergeRecord_keyRecord (hnodup : (template.keys.map (·.attr)).Nodup) {values : Record}
    (hvalues : values.names.Nodup) (hattrs : ∀ key ∈ template.keys, key.attr ∉ values.names)
    (h : ∀ key ∈ template.keys, row.get? key.name ≠ none) :
    mergeRecord (template.keyRecord row) values =
      (template.keys.map fun key => (key.attr, key.decode (row.cell key).toJson)) ++ values := by
  rw [keyRecord_eq_map hnodup h]
  refine Fields.insertAll_eq_append _ values ?_
  rw [Fields.names, List.map_append, List.map_map]
  refine List.nodup_append.2 ⟨hnodup, hvalues, ?_⟩
  rintro name hname _ hvalue rfl
  obtain ⟨key, hkey, rfl⟩ := List.mem_map.1 hname
  exact hattrs key hkey hvalue

end MutationTemplate

namespace Schema

variable {schema : Schema} {criteria : Criteria}

/-! ## Values beside a key -/

theorem Coherent.keyAttrs (hs : schema.Coherent) : (schema.keyColumns.map (·.attr)).Nodup :=
  (hs.nodup_attrs_iff hs.key).2 hs.keyNames

/-- What is assigned is never a key column. -/
theorem isKey_of_assignments {values : List (String × Json)} {assigned : List (Column × Json)}
    (h : schema.assignments values = .ok assigned) {entry : String × Json} (hm : entry ∈ values) {column : Column}
    (hc : schema.find? entry.1 = some column) : schema.isKey column = false := by
  induction values generalizing assigned with
  | nil => cases hm
  | cons first rest ih =>
    obtain ⟨other, _, more, hother, hkey, -, hmore, -⟩ := assignments_cons_eq_ok_iff.1 h
    rcases List.mem_cons.1 hm with rfl | hm
    · cases hc.symm.trans (resolve_eq_ok_iff.1 hother)
      exact hkey
    · exact ih hmore hm

/-- No value of an update is of a key attribute. -/
theorem attr_not_mem_valuesByAttribute (hs : schema.Coherent) {values : Record}
    {assigned : List (Column × Json)} (h : schema.assignments values = .ok assigned) {key : Column}
    (hk : key ∈ schema.keyColumns) : key.attr ∉ (schema.valuesByAttribute values).names := by
  intro hm
  obtain ⟨entry, hentry, hname⟩ := List.mem_map.1 (Fields.names_ofEntries_subset _ hm)
  obtain ⟨value, hvalue, hsome⟩ := List.mem_filterMap.1 hentry
  obtain ⟨column, hcolumn, rfl⟩ := Option.map_eq_some_iff.1 hsome
  have hmem := (Column.mem_of_find? hcolumn).1
  have hsame : column = key := hs.eq_of_attr hmem (hs.key key hk) hname
  subst hsame
  have hkey : schema.isKey column = true := List.any_eq_true.2 ⟨column, hk, decide_eq_true rfl⟩
  cases hkey.symm.trans (isKey_of_assignments h hvalue hcolumn)

theorem nodup_names_valuesByAttribute (values : Record) : (schema.valuesByAttribute values).names.Nodup :=
  Fields.nodup_names_ofEntries _

/-! ## The key select -/

/-- The statement that reads the keys of the rows that a clause holds for. It
has neither an ordering nor a limit. -/
def keySelect (schema : Schema) (clause : Clause) : Statement :=
  { kind := .select
    text := "SELECT " ++ quoteNames (schema.keyColumns.map (·.name)) ++ " FROM " ++ schema.table ++
      (if clause.isEmpty then "" else " WHERE " ++ clause.text) ++
      (if clause.isEmpty then "" else " ALLOW FILTERING") ++ ";"
    params := clause.params
    allowFiltering := !clause.isEmpty }

theorem selectKeys_eq_ok_iff (hp : schema.pinnedKey criteria = .ok none) {select : Statement} :
    schema.selectKeys criteria = .ok select ↔
      ∃ clause, schema.whereClause criteria = .ok clause ∧ select = schema.keySelect clause := by
  have hscan (clause : Clause) :
      scanStatement ("SELECT " ++ quoteNames (schema.keyColumns.map (·.name)) ++ " FROM " ++ schema.table)
        clause [] none = schema.keySelect clause := by
    simp only [scanStatement, keySelect, limitText, List.isEmpty_nil, if_true, String.append_empty]
  rw [selectKeys_eq_query, query_eq_ok_iff]
  constructor
  · rintro (⟨key, hkey, -⟩ | ⟨-, clause, order, hclause, horder, rfl⟩)
    · cases hp.symm.trans hkey
    · cases horder
      exact ⟨clause, hclause, hscan clause⟩
  · rintro ⟨clause, hclause, rfl⟩
    exact .inr ⟨hp, clause, [], hclause, rfl, (hscan clause).symm⟩

/-- A change whose criteria do not pin a key first selects the keys of the
rows that the filter holds for. -/
theorem mutation_eq_ok_iff_of_unpinned (hp : schema.pinnedKey criteria = .ok none) {kind : StatementKind}
    {head : String} {params : List Json} {plan : MutationPlan} :
    schema.mutation kind head params criteria = .ok plan ↔
      ∃ clause, schema.whereClause criteria = .ok clause ∧
        plan = .twoPhase (schema.keySelect clause) { kind, head, params, keys := schema.keyColumns } := by
  rw [mutation_eq_ok_iff]
  constructor
  · rintro (⟨key, hkey, -⟩ | ⟨-, select, hselect, rfl⟩)
    · cases hp.symm.trans hkey
    · obtain ⟨clause, hclause, rfl⟩ := (selectKeys_eq_ok_iff hp).1 hselect
      exact ⟨clause, hclause, rfl⟩
  · rintro ⟨clause, hclause, rfl⟩
    exact .inr ⟨hp, _, (selectKeys_eq_ok_iff hp).2 ⟨clause, hclause, rfl⟩, rfl⟩

end Schema
end WideColumn
