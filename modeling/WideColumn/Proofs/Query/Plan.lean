import Mathlib.Data.List.Perm.Subperm
import WideColumn.Proofs.Query.Clause
import WideColumn.Query.Mutation
/-!
# Which statements are made

A request is either about one row, whose key the criteria pin, or about all
rows that a clause holds for. The lemmas take `query`, `mutation` and
`update` apart into these two cases. The entries of a key are taken out one by
one in key order; their names are distinct, so each column finds its own.
-/

namespace WideColumn

/-! ## Keys in order -/

/-- Another entry comes to the place of the one that is taken out. -/
theorem swapRemove_perm {α : Type} {items : List α} {index : Nat} (h : index < items.length) :
    (swapRemove items index).Perm (items.eraseIdx index) := by
  obtain ⟨last, hlast⟩ : ∃ last, items.getLast? = some last :=
    ⟨_, List.getLast?_eq_some_getLast (List.ne_nil_of_length_pos (Nat.zero_lt_of_lt h))⟩
  -- the last entry stays where it is and is also written at the place
  have hset : (items.set index last).getLast? = some last := by
    rw [List.getLast?_eq_getElem?] at hlast ⊢
    rw [List.length_set, List.getElem?_set]
    split
    · rfl
    · exact hlast
  have hrest : swapRemove items index ++ [last] = items.set index last := by
    rw [swapRemove, hlast]
    exact List.dropLast_append_getLast? last hset
  have hperm : (last :: swapRemove items index).Perm (last :: items.eraseIdx index) :=
    calc
      (last :: swapRemove items index).Perm (swapRemove items index ++ [last]) :=
        (List.perm_append_singleton last _).symm
      _ = items.set index last := hrest
      List.Perm _ (last :: items.eraseIdx index) := List.set_perm_cons_eraseIdx h last
  exact hperm.cons_inv

theorem map_swapRemove {α β : Type} (f : α → β) (items : List α) (index : Nat) :
    (swapRemove items index).map f = swapRemove (items.map f) index := by
  rw [swapRemove, swapRemove, List.getLast?_map]
  cases items.getLast? with
  | none => rfl
  | some last => exact List.map_dropLast.trans (congrArg _ List.map_set)

namespace PinnedKey

variable {found left : PinnedKey} {name : String} {entry : Column × Json}

theorem map_fst_takeOut? (found : PinnedKey) (name : String) :
    (found.takeOut? name).map Prod.fst = found.find? (·.1.name = name) := by
  rw [takeOut?, Option.map_bind, List.find?_eq_bind_findIdx?_getElem?]
  refine congrArg _ (funext fun index => ?_)
  rw [Function.comp_apply, Option.map_map]
  exact Option.map_id_apply

theorem find?_of_takeOut? (h : found.takeOut? name = some (entry, left)) :
    found.find? (·.1.name = name) = some entry := by
  rw [← map_fst_takeOut?, h]
  rfl

theorem perm_of_takeOut? (h : found.takeOut? name = some (entry, left)) : found.Perm (entry :: left) := by
  obtain ⟨index, -, h⟩ := Option.bind_eq_some_iff.1 h
  obtain ⟨_, hentry, he⟩ := Option.map_eq_some_iff.1 h
  cases he
  obtain ⟨hlt, rfl⟩ := List.getElem?_eq_some_iff.1 hentry
  exact (List.getElem_cons_eraseIdx_perm hlt).symm.trans ((swapRemove_perm hlt).symm.cons _)

theorem nodup_left (hn : (found.map (·.1.name)).Nodup) (h : found.takeOut? name = some (entry, left)) :
    (left.map (·.1.name)).Nodup := by
  have hcons := ((perm_of_takeOut? h).map (·.1.name)).nodup_iff.1 hn
  exact (List.nodup_cons.1 hcons).2

/-- Among the entries that are left, the columns of other names are found as before. -/
theorem find?_left (hn : (found.map (·.1.name)).Nodup) (h : found.takeOut? name = some (entry, left))
    {other : String} (hne : other ≠ name) :
    left.find? (·.1.name = other) = found.find? (·.1.name = other) := by
  have hname : entry.1.name = name := by simpa using List.find?_some (find?_of_takeOut? h)
  rw [find?_eq_of_perm (fun entry : Column × Json => entry.1.name) (perm_of_takeOut? h) hn]
  exact (List.find?_cons_of_neg (by simpa [hname] using hne.symm)).symm

theorem inOrder_cons_of_some {column : Column} (h : found.takeOut? column.name = some (entry, left))
    (columns : List Column) : found.inOrder (column :: columns) = entry :: left.inOrder columns := by
  rw [inOrder, h]

theorem inOrder_cons_of_none {column : Column} (h : found.takeOut? column.name = none) (columns : List Column) :
    found.inOrder (column :: columns) = found.inOrder columns := by
  rw [inOrder, h]

/-- Among distinct names each column finds its own entry, whichever were taken
out before. -/
theorem inOrder_eq_filterMap {columns : List Column} (hn : (found.map (·.1.name)).Nodup)
    (hc : (columns.map (·.name)).Nodup) :
    found.inOrder columns = columns.filterMap fun column => found.find? (·.1.name = column.name) := by
  -- what is left has distinct names, and is as good as all entries for the columns to come
  induction columns generalizing found with
  | nil => rfl
  | cons column columns ih =>
    obtain ⟨hnew, hrest⟩ := List.nodup_cons.1 hc
    cases htake : found.takeOut? column.name with
    | none =>
      have hnone : found.find? (·.1.name = column.name) = none := by
        rw [← map_fst_takeOut?, htake]
        rfl
      rw [inOrder_cons_of_none htake, ih hn hrest, List.filterMap_cons, hnone]
    | some taken =>
      obtain ⟨entry, left⟩ := taken
      have hothers : left.inOrder columns =
          columns.filterMap fun column => found.find? (·.1.name = column.name) := by
        refine (ih (nodup_left hn htake) hrest).trans (List.filterMap_congr fun other hm => ?_)
        refine find?_left hn htake fun he => hnew ?_
        exact List.mem_map.2 ⟨other, hm, he⟩
      rw [inOrder_cons_of_some htake, hothers, List.filterMap_cons, find?_of_takeOut? htake]

end PinnedKey

namespace Schema

variable {schema : Schema} {criteria : Criteria}

/-! ## Pinned keys -/

/-- A key is collected from an equality on a key column that was not there
before. -/
theorem collectKey_cons_eq_ok_some_iff {found result : PinnedKey} {name : String}
    {condition : Condition} {rest : List (String × Condition)} :
    schema.collectKey found ((name, condition) :: rest) = .ok (some result) ↔
      ∃ column value, schema.find? name = some column ∧ condition = .equals value ∧
        schema.isKey column = true ∧
        column.name ∉ found.map (·.1.name) ∧
        schema.collectKey (found ++ [(column, value)]) rest = .ok (some result) := by
  have hguard (column : Column) : (!schema.isKey column || found.any (·.1.name = column.name)) = true ↔
      ¬(schema.isKey column = true ∧ column.name ∉ found.map (·.1.name)) := by
    simp [-not_and, Classical.not_and_iff_not_or_not]
  rw [collectKey, bind_eq_ok_iff]
  constructor
  · rintro ⟨column, hcolumn, h⟩
    split at h
    · next value =>
      split at h
      · cases h
      · next hg =>
        obtain ⟨hkey, hnew⟩ := Decidable.not_not.1 (mt (hguard column).2 hg)
        exact ⟨column, value, resolve_eq_ok_iff.1 hcolumn, rfl, hkey, hnew, h⟩
    · cases h
  · rintro ⟨column, value, hcolumn, rfl, hkey, hnew, h⟩
    refine ⟨column, resolve_eq_ok_iff.2 hcolumn, ?_⟩
    simp only [if_neg (fun hg => (hguard column).1 hg ⟨hkey, hnew⟩)]
    exact h

/-- Conditions pin a key if they are equalities on distinct key columns, and
then in their own order. -/
theorem collectKey_eq_ok_some_iff {found result : PinnedKey} {fields : List (String × Condition)}
    (h : (found.map (·.1.name)).Nodup) :
    schema.collectKey found fields = .ok (some result) ↔
      ∃ added : PinnedKey, result = found ++ added ∧
        fields.map (fun field => (schema.find? field.1, field.2)) =
          added.map (fun entry => (some entry.1, .equals entry.2)) ∧
        (∀ entry ∈ added, schema.isKey entry.1 = true) ∧ ((found ++ added).map (·.1.name)).Nodup := by
  induction fields generalizing found with
  | nil =>
    rw [collectKey, Except.ok.injEq, Option.some.injEq]
    constructor
    · rintro rfl
      exact ⟨[], by simp, rfl, by simp, by simpa using h⟩
    · rintro ⟨added, rfl, hnil, -⟩
      simp [List.map_eq_nil_iff.1 hnil.symm]
  | cons field rest ih =>
    obtain ⟨name, condition⟩ := field
    rw [collectKey_cons_eq_ok_some_iff]
    constructor
    · rintro ⟨column, value, hcolumn, rfl, hkey, hnew, hc⟩
      -- the invariant of the run: the columns found so far are distinct
      have hnodup : ((found ++ [(column, value)]).map (·.1.name)).Nodup :=
        (nodup_map_append_singleton_iff _).2 ⟨h, hnew⟩
      obtain ⟨added, rfl, hmap, hkeys, hall⟩ := (ih hnodup).1 hc
      refine ⟨(column, value) :: added, by simp, by simp [hcolumn, hmap], ?_, by simpa using hall⟩
      intro entry hm
      rcases List.mem_cons.1 hm with rfl | hm
      · exact hkey
      · exact hkeys entry hm
    · rintro ⟨added, rfl, hmap, hkeys, hall⟩
      cases added with
      | nil => cases hmap
      | cons entry added =>
        obtain ⟨column, value⟩ := entry
        simp only [List.map_cons, List.cons.injEq, Prod.mk.injEq] at hmap
        obtain ⟨⟨hcolumn, rfl⟩, hmap⟩ := hmap
        have happend :
            found ++ (column, value) :: added = (found ++ [(column, value)]) ++ added := by
          simp
        rw [happend] at hall
        have hnodup : ((found ++ [(column, value)]).map (·.1.name)).Nodup := by
          rw [List.map_append] at hall
          exact (List.nodup_append.1 hall).1
        have hnew :=
          ((nodup_map_append_singleton_iff fun entry : Column × Json => entry.1.name).1 hnodup).2
        refine ⟨column, value, hcolumn, rfl, hkeys _ List.mem_cons_self, hnew, ?_⟩
        have hmore : ∀ entry ∈ added, schema.isKey entry.1 = true :=
          fun entry hm => hkeys entry (List.mem_cons_of_mem _ hm)
        exact (ih hnodup).2 ⟨added, happend, hmap, hmore, hall⟩

/-- The conditions of a filter that pin a key. -/
structure Pins (schema : Schema) (filter : Filter) (found : PinnedKey) : Prop where
  length : filter.fields.length = schema.keyColumns.length
  fields : filter.fields.map (fun field => (schema.find? field.1, field.2)) =
    found.map (fun entry => (some entry.1, .equals entry.2))
  key : ∀ entry ∈ found, schema.isKey entry.1 = true
  names : (found.map (·.1.name)).Nodup

/-- Key columns are pinned by as many distinct columns, so they are distinct themselves. -/
theorem Pins.keyNames {filter : Filter} {found : PinnedKey} (h : schema.Pins filter found) :
    (schema.keyColumns.map (·.name)).Nodup := by
  have hsub : found.map (·.1.name) ⊆ schema.keyColumns.map (·.name) := by
    intro name hm
    obtain ⟨entry, hentry, rfl⟩ := List.mem_map.1 hm
    simpa [isKey] using h.key entry hentry
  have hlength : found.length = schema.keyColumns.length := by
    rw [← h.length]
    simpa using (congrArg List.length h.fields).symm
  have hperm : (found.map (·.1.name)).Perm (schema.keyColumns.map (·.name)) := by
    refine (List.subperm_of_subset h.names hsub).perm_of_length_le ?_
    rw [List.length_map, List.length_map]
    exact Nat.le_of_eq hlength.symm
  exact hperm.nodup_iff.1 h.names

theorem pinnedKey_eq_ok_some_iff {key : PinnedKey} :
    schema.pinnedKey criteria = .ok (some key) ↔
      ∃ filter found, criteria.filter = some filter ∧ schema.Pins filter found ∧
        key = schema.keyColumns.filterMap fun column => found.find? (·.1.name = column.name) := by
  unfold pinnedKey
  cases hfilter : criteria.filter with
  | none => simp
  | some filter =>
    simp only [ne_eq, ite_not, Option.some.injEq]
    by_cases hlength : filter.fields.length = schema.keyColumns.length
    · rw [if_pos hlength, map_eq_ok_iff]
      constructor
      · rintro ⟨result, hresult, hsome⟩
        obtain ⟨found, rfl, rfl⟩ := Option.map_eq_some_iff.1 hsome
        obtain ⟨added, rfl, hfields, hkeys, hnodup⟩ := (collectKey_eq_ok_some_iff (by simp)).1 hresult
        have hpins : schema.Pins filter found := ⟨hlength, hfields, hkeys, by simpa using hnodup⟩
        exact ⟨filter, found, rfl, hpins, PinnedKey.inOrder_eq_filterMap hpins.names hpins.keyNames⟩
      · rintro ⟨_, found, rfl, hpins, rfl⟩
        rw [← PinnedKey.inOrder_eq_filterMap hpins.names hpins.keyNames]
        refine ⟨some found, ?_, rfl⟩
        exact (collectKey_eq_ok_some_iff (by simp)).2
          ⟨found, by simp, hpins.fields, hpins.key, by simpa using hpins.names⟩
    · rw [if_neg hlength]
      constructor
      · rintro ⟨⟩
      · rintro ⟨_, found, rfl, hpins, -⟩
        exact absurd hpins.length hlength

theorem mem_of_pinnedKey {key : PinnedKey} (h : schema.pinnedKey criteria = .ok (some key)) :
    ∀ entry ∈ key, entry.1 ∈ schema.columns := by
  obtain ⟨filter, found, -, hpins, rfl⟩ := pinnedKey_eq_ok_some_iff.1 h
  intro entry hm
  obtain ⟨column, -, hfind⟩ := List.mem_filterMap.1 hm
  have hfound : (some entry.1, Condition.equals entry.2) ∈
      found.map fun e => (some e.1, Condition.equals e.2) :=
    List.mem_map.2 ⟨entry, List.mem_of_find?_eq_some hfind, rfl⟩
  rw [← hpins.fields] at hfound
  obtain ⟨field, -, he⟩ := List.mem_map.1 hfound
  exact (Column.mem_of_find? (Prod.mk.inj he).1).1

/-- Each condition that pins a key is compared in the statement about its row. -/
theorem comparison_of_pinnedKey {filter : Filter} (hf : criteria.filter = some filter) {name : String}
    {condition : Condition} (hm : (name, condition) ∈ filter.fields) {key : PinnedKey}
    (h : schema.pinnedKey criteria = .ok (some key)) :
    ∃ column, schema.find? name = some column ∧
      ∃ comparison ∈ key.clause, comparison.column = column.name := by
  obtain ⟨_, found, hsome, hpins, rfl⟩ := pinnedKey_eq_ok_some_iff.1 h
  cases hf.symm.trans hsome
  have hfield := List.mem_map_of_mem (f := fun field => (schema.find? field.1, field.2)) hm
  rw [hpins.fields] at hfield
  obtain ⟨entry, hentry, he⟩ := List.mem_map.1 hfield
  obtain ⟨hcolumn, -⟩ := Prod.mk.inj he
  refine ⟨entry.1, hcolumn.symm, ?_⟩
  -- the condition is on a key column, and the key has an entry for every key column that is found
  obtain ⟨column, hc, hname⟩ : ∃ column ∈ schema.keyColumns, column.name = entry.1.name := by
    simpa [isKey] using hpins.key entry hentry
  have hfind : (found.find? (·.1.name = column.name)).isSome := by
    rw [List.find?_isSome]
    exact ⟨entry, hentry, by simp [hname]⟩
  obtain ⟨other, hother⟩ := Option.isSome_iff_exists.1 hfind
  have hsame : other.1.name = column.name := by simpa using List.find?_some hother
  refine ⟨⟨other.1.name, .equal, other.2⟩, ?_, hsame.trans hname⟩
  exact List.mem_map.2 ⟨other, List.mem_filterMap.2 ⟨column, hc, hother⟩, rfl⟩

/-! ## Reading -/

/-- The end of a statement that asks for a number of rows. -/
def limitText : Option Nat → String
  | some n => " LIMIT " ++ String.ofList (Numeral.ofNat n)
  | none => ""

/-- The statement that reads the rows that a clause holds for. -/
def scanStatement (head : String) (clause : Clause) (order : List String) (limit : Option Nat) :
    Statement :=
  { kind := .select
    text := head ++ (if clause.isEmpty then "" else " WHERE " ++ clause.text) ++
      (if order.isEmpty then "" else " ORDER BY " ++ ", ".intercalate order) ++
      limitText limit ++ (if clause.isEmpty then "" else " ALLOW FILTERING") ++ ";"
    params := clause.params
    allowFiltering := !clause.isEmpty }

/-- A request compares columns of the table only. -/
theorem column_of_whereClause {clause : Clause} (h : schema.whereClause criteria = .ok clause) :
    ∀ comparison ∈ clause, ∃ column ∈ schema.columns, comparison.column = column.name := by
  unfold whereClause at h
  split at h
  · cases h
    simp
  · exact column_of_clause h

theorem query_eq_ok_iff {head : String} {sort : List Ordering} {limit : Option Nat}
    {statement : Statement} :
    schema.query head criteria sort limit = .ok statement ↔
      (∃ key, schema.pinnedKey criteria = .ok (some key) ∧
        statement = keyedStatement .select head key []) ∨
      (schema.pinnedKey criteria = .ok none ∧ ∃ clause order, schema.whereClause criteria = .ok clause ∧
        sort.mapM schema.orderText = .ok order ∧
          statement = scanStatement head clause order limit) := by
  unfold query
  rw [bind_eq_ok_iff]
  constructor
  · rintro ⟨pinned, hpinned, h⟩
    split at h
    · next key =>
      cases h
      exact .inl ⟨key, hpinned, rfl⟩
    · obtain ⟨clause, hclause, h⟩ := bind_eq_ok_iff.1 h
      obtain ⟨order, horder, h⟩ := bind_eq_ok_iff.1 h
      exact .inr ⟨hpinned, clause, order, hclause, horder, (Except.ok.inj h).symm⟩
  · rintro (⟨key, hkey, rfl⟩ | ⟨hnone, clause, order, hclause, horder, rfl⟩)
    · exact ⟨some key, hkey, rfl⟩
    · exact ⟨none, hnone, bind_eq_ok_iff.2 ⟨clause, hclause, bind_eq_ok_iff.2 ⟨order, horder, rfl⟩⟩⟩

theorem selectKeys_eq_query :
    schema.selectKeys criteria =
      schema.query
        ("SELECT " ++ quoteNames (schema.keyColumns.map (·.name)) ++ " FROM " ++ schema.table)
        criteria [] none := rfl

/-! ## Changing -/

theorem mutation_eq_ok_iff {kind : StatementKind} {head : String} {params : List Json}
    {plan : MutationPlan} :
    schema.mutation kind head params criteria = .ok plan ↔
      (∃ key, schema.pinnedKey criteria = .ok (some key) ∧
        plan = .direct (keyedStatement kind head key params) key.record) ∨
      (schema.pinnedKey criteria = .ok none ∧ ∃ select, schema.selectKeys criteria = .ok select ∧
        plan = .twoPhase select { kind, head, params, keys := schema.keyColumns }) := by
  rw [mutation, bind_eq_ok_iff]
  constructor
  · rintro ⟨pinned, hpinned, h⟩
    split at h
    · next key =>
      cases h
      exact .inl ⟨key, hpinned, rfl⟩
    · obtain ⟨select, hselect, h⟩ := bind_eq_ok_iff.1 h
      exact .inr ⟨hpinned, select, hselect, (Except.ok.inj h).symm⟩
  · rintro (⟨key, hkey, rfl⟩ | ⟨hnone, select, hselect, rfl⟩)
    · exact ⟨some key, hkey, rfl⟩
    · exact ⟨none, hnone, bind_eq_ok_iff.2 ⟨select, hselect, rfl⟩⟩

/-- The beginning of an update that assigns columns. -/
def updateHead (schema : Schema) (assigned : List (Column × Json)) : String :=
  "UPDATE " ++ schema.table ++ " SET " ++
    ", ".intercalate (assigned.map fun (column, _) => quoteName column.name ++ " = ?")

theorem update_eq_ok_iff {values : Record} {plan : UpdatePlan} :
    schema.update criteria values = .ok plan ↔
      values ≠ [] ∧ ∃ assigned mutation, schema.assignments values = .ok assigned ∧
        schema.mutation .update (schema.updateHead assigned) (assigned.map (·.2)) criteria =
          .ok mutation ∧
        plan = { plan := mutation, values := schema.valuesByAttribute values } := by
  rw [update]
  cases values with
  | nil => simp [throw, throwThe, MonadExceptOf.throw, bind, Except.bind]
  | cons entry rest =>
    simp only [List.isEmpty_cons, Bool.false_eq_true, if_false, ne_eq, reduceCtorEq,
      not_false_eq_true, true_and]
    constructor
    · intro h
      obtain ⟨assigned, hassigned, h⟩ := bind_eq_ok_iff.1 h
      obtain ⟨mutation, hmutation, h⟩ := bind_eq_ok_iff.1 h
      exact ⟨assigned, mutation, hassigned, hmutation, (Except.ok.inj h).symm⟩
    · rintro ⟨assigned, mutation, hassigned, hmutation, rfl⟩
      exact bind_eq_ok_iff.2 ⟨assigned, hassigned, bind_eq_ok_iff.2 ⟨mutation, hmutation, rfl⟩⟩

theorem assignments_cons_eq_ok_iff {name : String} {value : Json} {rest : List (String × Json)}
    {assigned : List (Column × Json)} :
    schema.assignments ((name, value) :: rest) = .ok assigned ↔
      ∃ column bound more, schema.resolve name = .ok column ∧ schema.isKey column = false ∧
        column.bind value = .ok bound ∧ schema.assignments rest = .ok more ∧
          assigned = (column, bound) :: more := by
  rw [assignments, bind_eq_ok_iff]
  constructor
  · rintro ⟨column, hcolumn, h⟩
    cases hkey : schema.isKey column with
    | true => simp [hkey, throw, throwThe, MonadExceptOf.throw, bind, Except.bind] at h
    | false =>
      simp only [hkey, Bool.false_eq_true, if_false] at h
      obtain ⟨bound, hbound, h⟩ := bind_eq_ok_iff.1 h
      obtain ⟨more, hmore, h⟩ := bind_eq_ok_iff.1 h
      exact ⟨column, bound, more, hcolumn, hkey, hbound, hmore, (Except.ok.inj h).symm⟩
  · rintro ⟨column, bound, more, hcolumn, hkey, hbound, hmore, rfl⟩
    refine ⟨column, hcolumn, ?_⟩
    simp only [hkey, Bool.false_eq_true, if_false]
    exact bind_eq_ok_iff.2 ⟨bound, hbound, bind_eq_ok_iff.2 ⟨more, hmore, rfl⟩⟩

theorem mem_of_assignments {values : List (String × Json)} {assigned : List (Column × Json)}
    (h : schema.assignments values = .ok assigned) : ∀ entry ∈ assigned, entry.1 ∈ schema.columns := by
  induction values generalizing assigned with
  | nil =>
    cases h
    simp
  | cons value rest ih =>
    obtain ⟨column, bound, more, hcolumn, -, -, hmore, rfl⟩ := assignments_cons_eq_ok_iff.1 h
    intro entry hm
    rcases List.mem_cons.1 hm with rfl | hm
    · exact mem_of_resolve hcolumn
    · exact ih hmore entry hm

end Schema
end WideColumn
