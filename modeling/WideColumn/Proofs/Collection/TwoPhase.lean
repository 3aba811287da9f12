import WideColumn.Collection.Basic
import WideColumn.Proofs.Query.Template
import WideColumn.Proofs.Store.Operation
import WideColumn.Store.Script
/-!
# Changes in two phases

A change of rows whose keys are not known reads the keys and then changes
each of the rows by its key, all of them in one batch. What it does is settled
by the rows that the store answers with, and `ChangesRows` says it for all of
them: rows without a key column, no rows, and rows that are changed.
-/

namespace WideColumn

namespace Collection

open Operation

variable {collection : Collection} {σ : Type} {store : Store σ} {state state' : σ}

/-! ## Carrying plans out -/

/-- What is left to do of a plan in two phases when the rows are known. -/
def changeRows (collection : Collection) (template : MutationTemplate) (rows : List Row) :
    Operation (List Record) := do
  if rows.isEmpty then return []
  let statements ← Operation.compiled (rows.mapM template.bind)
  collection.session.batch statements
  return rows.map template.keyRecord

theorem update_of_ok {criteria : Criteria} {values : Record} {plan : UpdatePlan}
    (h : collection.schema.update criteria values = .ok plan) :
    collection.update criteria values =
      collection.change plan.plan >>= fun keys => pure (keys.map fun key => mergeRecord key plan.values) := by
  unfold update
  rw [h]
  rfl

theorem destroy_of_ok {criteria : Criteria} {plan : MutationPlan}
    (h : collection.schema.delete criteria = .ok plan) :
    collection.destroy criteria = collection.change plan := by
  unfold destroy
  rw [h]
  rfl

theorem change_direct (statement : Statement) (key : Record) :
    collection.change (.direct statement key) =
      ask (.execute collection.session statement) (Except.mapError .store) >>= fun _ => pure [key] := rfl

theorem change_twoPhase (select : Statement) (template : MutationTemplate) :
    collection.change (.twoPhase select template) =
      ask (.execute collection.session select) (Except.mapError .store) >>=
        collection.changeRows template := rfl

/-- When the key select has rows, what follows is what is done with them. -/
theorem calls_change_of_ok {select : Statement} (template : MutationTemplate) {rows : List Row}
    (h : (store (.execute collection.session select) state).1 = .ok rows) :
    calls (collection.change (.twoPhase select template)) store state =
      .execute collection.session select ::
        calls (collection.changeRows template rows) store (store (.execute collection.session select) state).2 := by
  rw [change_twoPhase]
  apply calls_ask_bind_of_ok
  rw [h]
  rfl

theorem result_change_of_ok {select : Statement} (template : MutationTemplate) {rows : List Row}
    (h : (store (.execute collection.session select) state).1 = .ok rows) :
    result (collection.change (.twoPhase select template)) store state =
      result (collection.changeRows template rows) store (store (.execute collection.session select) state).2 := by
  rw [change_twoPhase]
  apply result_ask_bind_of_ok
  rw [h]
  rfl

theorem changeRows_of_error {template : MutationTemplate} {rows : List Row} {e : CompileError}
    (h : rows.mapM template.bind = .error e) :
    collection.changeRows template rows = Operation.ofExcept (.error (.compile e)) := by
  cases rows with
  | nil => cases h
  | cons row rows =>
    unfold changeRows
    rw [h]
    rfl

theorem changeRows_of_ok {template : MutationTemplate} {rows : List Row} (hne : rows ≠ [])
    {statements : List Statement} (h : rows.mapM template.bind = .ok statements) :
    collection.changeRows template rows =
      ask (.batch collection.session statements) (Except.mapError .store) >>=
        fun _ => pure (rows.map template.keyRecord) := by
  cases rows with
  | nil => exact absurd rfl hne
  | cons row rows =>
    unfold changeRows
    rw [h]
    rfl

/-! ## What a change does with rows -/

/-- What an operation does that changes rows by the statements of a template,
when it has read the rows, and what it ends with: the key of each row with the
values that are written to it. -/
structure ChangesRows (collection : Collection) (store : Store σ) (state state' : σ) (select : Statement)
    (template : MutationTemplate) (values : Record) (rows : List Row)
    (operation : Operation (List Record)) : Prop where
  /-- Rows are refused if one of them lacks a key column. -/
  missing : (∃ row ∈ rows, ∃ key ∈ collection.schema.keyColumns, row.get? key.name = none) →
    calls operation store state = [.execute collection.session select] ∧
    ∃ row ∈ rows, ∃ key ∈ collection.schema.keyColumns, row.get? key.name = none ∧
      result operation store state = .error (.compile (.invalidValue (.keyColumnMissing key.name)))
  empty : rows = [] →
    calls operation store state = [.execute collection.session select] ∧ result operation store state = .ok []
  /-- All rows are changed in one batch, each by its key. -/
  batch : rows ≠ [] → (∀ row ∈ rows, ∀ key ∈ collection.schema.keyColumns, row.get? key.name ≠ none) →
    let changes : Call := .batch collection.session (rows.map fun row =>
      { kind := template.kind
        text := template.head ++ " WHERE " ++
          " AND ".intercalate (collection.schema.keyColumns.map fun key => quoteName key.name ++ " = ?") ++ ";"
        params := template.params ++ collection.schema.keyColumns.map fun key => (row.cell key).toJson })
    calls operation store state = [.execute collection.session select, changes] ∧
    result operation store state = ((store changes state').1.mapError .store).map fun _ =>
      rows.map fun row =>
        (collection.schema.keyColumns.map fun key => (key.attr, key.decode (row.cell key).toJson)) ++ values
  /-- No value takes the place of a key attribute. -/
  keys : ∀ key ∈ collection.schema.keyColumns, key.attr ∉ values.names

/-- An operation changes the rows that are read if it carries out a plan in
two phases, and puts the values over the keys. -/
theorem changesRows (hs : collection.schema.Coherent) {select : Statement} {template : MutationTemplate}
    (hkeys : template.keys = collection.schema.keyColumns) {values : Record} (hvalues : values.names.Nodup)
    (hattrs : ∀ key ∈ collection.schema.keyColumns, key.attr ∉ values.names) {rows : List Row}
    (h : store (.execute collection.session select) state = (.ok rows, state'))
    {operation : Operation (List Record)}
    (hcalls : calls operation store state = calls (collection.change (.twoPhase select template)) store state)
    (hresult : result operation store state =
      (result (collection.change (.twoPhase select template)) store state).map fun keys =>
        keys.map fun key => mergeRecord key values) :
    ChangesRows collection store state state' select template values rows operation := by
  have hanswer : (store (.execute collection.session select) state).1 = .ok rows := by rw [h]
  rw [calls_change_of_ok template hanswer, h] at hcalls
  rw [result_change_of_ok template hanswer, h] at hresult
  constructor
  · intro hlacks
    rw [← hkeys] at hlacks ⊢
    obtain ⟨e, herror⟩ := MutationTemplate.mapM_bind_eq_error hlacks
    obtain ⟨row, hrow, key, hkey, hnone, rfl⟩ := MutationTemplate.exists_missing_of_mapM_bind herror
    rw [hcalls, hresult, changeRows_of_error herror]
    exact ⟨rfl, row, hrow, key, hkey, hnone, rfl⟩
  · rintro rfl
    exact ⟨hcalls, hresult⟩
  · intro hne hhas
    rw [← hkeys] at hhas
    have hbind := MutationTemplate.mapM_bind_eq_ok hhas
    have hrecords : (rows.map template.keyRecord).map (fun key => mergeRecord key values) =
        rows.map fun row => (template.keys.map fun key => (key.attr, key.decode (row.cell key).toJson)) ++ values := by
      rw [List.map_map]
      refine List.map_congr_left fun row hrow => ?_
      exact MutationTemplate.mergeRecord_keyRecord (hkeys ▸ hs.keyAttrs) hvalues (hkeys ▸ hattrs) (hhas row hrow)
    rw [changeRows_of_ok hne hbind, calls_bind_pure, calls_ask] at hcalls
    rw [changeRows_of_ok hne hbind, result_bind_pure, result_ask, except_map_map, hrecords] at hresult
    rw [← hkeys]
    exact ⟨hcalls, hresult⟩
  · exact hattrs

/-! ## Updates and destructions -/

/-- A change whose criteria do not pin a key reads the keys of all rows that
its filter holds for, whatever limit, skipping and ordering the criteria have,
and then changes just the rows that it has read. -/
theorem selected_rows_are_changed {model : Model} (hc : Schema.compile model = .ok collection.schema)
    {criteria : Criteria} (hp : collection.schema.pinnedKey criteria = .ok none) (store : Store σ) (state : σ) :
    (∀ values plan, collection.schema.update criteria values = .ok plan →
      ∃ assigned clause, collection.schema.assignments values = .ok assigned ∧
        (∀ limit skip sort, collection.schema.selectKeys { criteria with limit, skip, sort } =
          .ok (collection.schema.keySelect clause)) ∧
        ∀ rows state', store (.execute collection.session (collection.schema.keySelect clause)) state =
            (.ok rows, state') →
          ChangesRows collection store state state' (collection.schema.keySelect clause)
            { kind := .update, head := collection.schema.updateHead assigned, params := assigned.map (·.2)
              keys := collection.schema.keyColumns }
            plan.values rows (collection.update criteria values)) ∧
    (∀ plan, collection.schema.delete criteria = .ok plan →
      ∃ clause, (∀ limit skip sort, collection.schema.selectKeys { criteria with limit, skip, sort } =
          .ok (collection.schema.keySelect clause)) ∧
        ∀ rows state', store (.execute collection.session (collection.schema.keySelect clause)) state =
            (.ok rows, state') →
          ChangesRows collection store state state' (collection.schema.keySelect clause)
            { kind := .delete, head := "DELETE FROM " ++ collection.schema.table, params := []
              keys := collection.schema.keyColumns }
            [] rows (collection.destroy criteria)) := by
  have hs := Schema.coherent_of_compile hc
  have hselect (clause : Clause) (hclause : collection.schema.whereClause criteria = .ok clause)
      (limit skip : Option UInt64) (sort : List Ordering) :
      collection.schema.selectKeys { criteria with limit, skip, sort } = .ok (collection.schema.keySelect clause) :=
    -- neither the pinned key nor the clause looks beyond the filter
    Schema.selectKeys_eq_ok_iff hp |>.2 ⟨clause, hclause, rfl⟩
  constructor
  · intro values plan hplan
    obtain ⟨-, assigned, mutation, hassigned, hmutation, rfl⟩ := Schema.update_eq_ok_iff.1 hplan
    obtain ⟨clause, hclause, rfl⟩ := (Schema.mutation_eq_ok_iff_of_unpinned hp).1 hmutation
    refine ⟨assigned, clause, hassigned, hselect clause hclause, fun rows state' hrows => ?_⟩
    have hattrs (key : Column) (hk : key ∈ collection.schema.keyColumns) :=
      Schema.attr_not_mem_valuesByAttribute hs hassigned hk
    refine changesRows hs ?_ (Schema.nodup_names_valuesByAttribute values) hattrs hrows ?_ ?_
    · rfl
    · rw [update_of_ok hplan, calls_bind_pure]
    · rw [update_of_ok hplan, result_bind_pure]
  · intro plan hplan
    obtain ⟨clause, hclause, rfl⟩ := (Schema.mutation_eq_ok_iff_of_unpinned hp).1 hplan
    refine ⟨clause, hselect clause hclause, fun rows state' hrows => ?_⟩
    refine changesRows hs ?_ ?_ ?_ hrows ?_ ?_
    · rfl
    · exact List.nodup_nil
    · exact fun _ _ => List.not_mem_nil
    · rw [destroy_of_ok hplan]
    · -- without values the records are the keys as they are
      rw [destroy_of_ok hplan]
      cases result (collection.change _) store state with
      | error e => rfl
      | ok keys => exact congrArg Except.ok (List.map_id keys).symm

/-- Readings of a session. -/
def sampleReadings : Collection := { schema := .sampleReadings, session := { id := 0, keyspace := none } }

/-- Two readings below a level get a note, one of them with a column more than
was asked for. -/
theorem selected_rows_are_changed_sample :
    let rows : List Row :=
      [[("day", .bigint 5), ("deviceid", .text "a"), ("slot", .bigint 1)],
        [("deviceid", .text "b"), ("day", .bigint 6), ("note", .null), ("slot", .bigint 2)]]
    let store : ScriptedStore := { script := { replies := [.ok rows] } }
    let criteria : Criteria :=
      { filter := some (.field "level" (.within [("<", .ofInt64 3)])), limit := some 1, skip := some 2
        sort := [{ field := "date", direction := .descending }] }
    ∃ select changes,
      calls (sampleReadings.update criteria [("note", .object [])]) ScriptedStore.answer store =
        [.execute sampleReadings.session select, .batch sampleReadings.session changes] ∧
      changes.map (·.params) =
        [[.string "\x7b\x7d", .string "a", .ofInt64 5, .ofInt64 1],
          [.string "\x7b\x7d", .string "b", .ofInt64 6, .ofInt64 2]] ∧
      result (sampleReadings.update criteria [("note", .object [])]) ScriptedStore.answer store =
        .ok [[("deviceId", .string "a"), ("date", .ofInt64 5), ("Slot", .ofInt64 1), ("note", .object [])],
          [("deviceId", .string "b"), ("date", .ofInt64 6), ("Slot", .ofInt64 2), ("note", .object [])]] := by
  intro rows store criteria
  have hp : Schema.sampleReadings.pinnedKey criteria = .ok none := rfl
  have hc : Schema.compile .sampleReadings = .ok sampleReadings.schema := Schema.compile_sampleReadings
  obtain ⟨hupdate, -⟩ := selected_rows_are_changed hc hp ScriptedStore.answer store
  obtain ⟨assigned, clause, hassigned, -, hchanges⟩ := hupdate [("note", .object [])] _ rfl
  cases hassigned
  have hhas : ∀ row ∈ rows, ∀ key ∈ Schema.sampleReadings.keyColumns, row.get? key.name ≠ none := by
    intro row hrow key hkey
    have hname : key.name ∈ ["deviceid", "day", "slot"] := List.mem_map_of_mem (f := Column.name) hkey
    simp only [List.mem_cons, List.not_mem_nil, or_false] at hname
    simp only [rows, List.mem_cons, List.not_mem_nil, or_false] at hrow
    rcases hrow with rfl | rfl <;> rcases hname with h | h | h <;> rw [h] <;> exact Option.some_ne_none _
  obtain ⟨hcalls, hresult⟩ := (hchanges rows _ rfl).batch (by simp [rows]) hhas
  exact ⟨_, _, hcalls, rfl, hresult⟩

end Collection
end WideColumn
