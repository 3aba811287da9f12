import WideColumn.Proofs.Migration.Convergence
/-!
# Migrations up to their first failure

The statements of a plan are executed one after the other. A migration goes on
after every success, and when the store does not find the table that is to be
dropped; any other answer ends it and is what it fails with. So the answers
that the store has for the whole plan say how far a migration comes, and what
comes of it.
-/

namespace WideColumn

variable {α β σ : Type}

/-- The exchanges with a store that is asked one question after the other,
whatever it answers. -/
def Store.exchanges (store : Store σ) : σ → List Call → List Exchange
  | _, [] => []
  | state, question :: questions =>
    ⟨question, (store question state).1⟩ :: Store.exchanges store (store question state).2 questions

/-- Whether a migration goes on after an exchange: a statement succeeds, or it
drops what does not exist. -/
def Exchange.GoesOn : Exchange → Prop
  | ⟨.execute _ _, .ok _⟩ => True
  | ⟨.execute _ statement, .error cause⟩ => statement.Begins "DROP" ∧ cause.kind = .notFound
  | _ => False

/-- What comes of questions that are asked up to the first answer after which
a migration does not go on, by the exchanges that are made and the end. -/
structure GoesThrough (store : Store σ) (state : σ) (questions : List Call) (value : α) (made : List Exchange)
    (ended : Except OperationError α) : Prop where
  /-- The questions are asked from the first one on, and no others. -/
  asked : made.map (·.question) <+: questions
  answered : made <+: store.exchanges state questions
  /-- The end is a value exactly if the whole list goes on, and it is the value. -/
  ok_iff : ∀ given, ended = .ok given ↔
    given = value ∧ ∀ exchange ∈ store.exchanges state questions, exchange.GoesOn
  /-- Then all questions are asked. -/
  whole : ∀ given, ended = .ok given → made = store.exchanges state questions
  /-- Otherwise the last one that is asked is the first that does not go on, and
  the end is its failure. -/
  failed : ∀ e, ended = .error e → ∃ before last cause, made = before ++ [last] ∧
    (∀ exchange ∈ before, exchange.GoesOn) ∧ ¬last.GoesOn ∧ last.failure? = some cause ∧ e = .store cause

namespace GoesThrough

variable {store : Store σ} {state : σ} {questions : List Call} {value : α} {made : List Exchange}
  {ended : Except OperationError α}

theorem nil (store : Store σ) (state : σ) (value : α) : GoesThrough store state [] value [] (.ok value) where
  asked := List.nil_prefix
  answered := List.nil_prefix
  ok_iff given := by simp [Store.exchanges, eq_comm]
  whole _ _ := rfl
  failed := nofun

/-- A first question that goes on is followed by the rest. -/
theorem cons {question : Call} (hfirst : Exchange.GoesOn ⟨question, (store question state).1⟩)
    (h : GoesThrough store (store question state).2 questions value made ended) :
    GoesThrough store state (question :: questions) value (⟨question, (store question state).1⟩ :: made) ended where
  asked := List.cons_prefix_cons.2 ⟨rfl, h.asked⟩
  answered := List.cons_prefix_cons.2 ⟨rfl, h.answered⟩
  ok_iff given := by
    rw [h.ok_iff, Store.exchanges, List.forall_mem_cons]
    exact and_congr_right fun _ => (and_iff_right hfirst).symm
  whole given hgiven := congrArg _ (h.whole given hgiven)
  failed e he := by
    obtain ⟨before, last, cause, rfl, hbefore, hlast⟩ := h.failed e he
    exact ⟨_ :: before, last, cause, rfl, List.forall_mem_cons.2 ⟨hfirst, hbefore⟩, hlast⟩

/-- A first question that does not go on is the only one. -/
theorem stop {question : Call} {cause : StoreError} (value : α)
    (hfirst : ¬Exchange.GoesOn ⟨question, (store question state).1⟩)
    (hcause : Exchange.failure? ⟨question, (store question state).1⟩ = some cause) :
    GoesThrough store state (question :: questions) value [⟨question, (store question state).1⟩]
      (.error (.store cause)) where
  asked := List.cons_prefix_cons.2 ⟨rfl, List.nil_prefix⟩
  answered := List.cons_prefix_cons.2 ⟨rfl, List.nil_prefix⟩
  ok_iff given := by
    rw [Store.exchanges, List.forall_mem_cons]
    constructor
    · nofun
    · rintro ⟨-, hgoes, -⟩
      exact absurd hgoes hfirst
  whole := nofun
  failed e he := by
    cases he
    exact ⟨[], _, cause, rfl, by simp, hfirst, hcause, rfl⟩

theorem map (h : GoesThrough store state questions value made ended) (f : α → β) :
    GoesThrough store state questions (f value) made (ended.map f) where
  asked := h.asked
  answered := h.answered
  ok_iff given := by
    rw [map_eq_ok_iff]
    constructor
    · rintro ⟨a, ha, rfl⟩
      obtain ⟨rfl, hgoes⟩ := (h.ok_iff a).1 ha
      exact ⟨rfl, hgoes⟩
    · rintro ⟨rfl, hgoes⟩
      exact ⟨value, (h.ok_iff value).2 ⟨rfl, hgoes⟩, rfl⟩
  whole given hgiven := by
    obtain ⟨a, ha, -⟩ := map_eq_ok_iff.1 hgiven
    exact h.whole a ha
  failed e he := h.failed e (map_eq_error_iff.1 he)

end GoesThrough

/-! ## Steps that drop -/

/-- A text with one beginning has no other that differs from it. -/
theorem Statement.Begins.not_begins {word other : String} {statement : Statement} (h : statement.Begins word)
    (hlonger : ¬word.toList <+: other.toList) (hshorter : ¬other.toList <+: word.toList) :
    ¬statement.Begins other := by
  intro hother
  rcases List.prefix_or_prefix_of_prefix h hother with hw | hw
  · exact hlonger hw
  · exact hshorter hw

/-- What a text begins with is still there with more behind it. -/
theorem prefix_toList_append {word front : String} (h : word.toList <+: front.toList) (back : String) :
    word.toList <+: (front ++ back).toList := by
  rw [String.toList_append]
  exact h.trans (List.prefix_append _ _)

theorem TableDescription.begins_query (keyspace table : String) : (query keyspace table).Begins "SELECT" := by
  have hfront : "SELECT".toList <+: "SELECT column_name, kind, type FROM system_schema.columns ".toList := by decide
  exact prefix_toList_append hfront _

/-- That its target is missing is tolerated of exactly the steps that drop. -/
def MigrationStep.ToleratesDrop (step : MigrationStep) : Prop :=
  step.tolerateAbsent = true ↔ step.statement.Begins "DROP"

/-- A migration goes on after a step exactly if the step is no failure. -/
theorem MigrationStep.goesOn_iff {step : MigrationStep} (h : step.ToleratesDrop) (session : Session)
    (answer : Except StoreError (List Row)) :
    Exchange.GoesOn ⟨.execute session step.statement, answer⟩ ↔ step.outcome answer = .ok () := by
  cases answer with
  | ok rows => exact iff_of_true trivial rfl
  | error cause =>
    have htolerated : (step.tolerateAbsent && cause.isAbsent) = true ↔
        step.statement.Begins "DROP" ∧ cause.kind = .notFound := by
      rw [Bool.and_eq_true, StoreError.isAbsent, decide_eq_true_iff]
      exact and_congr_left fun _ => h
    have houtcome : step.outcome (.error cause) =
        if step.tolerateAbsent && cause.isAbsent then .ok () else .error (.store cause) := rfl
    rw [houtcome]
    refine htolerated.symm.trans ?_
    split
    · next hyes => exact iff_of_true hyes rfl
    · next hno => exact iff_of_false hno nofun

namespace Schema

variable {schema : Schema}

theorem begins_dropTable (schema : Schema) : schema.dropTable.Begins "DROP" := by
  have hfront : "DROP".toList <+: "DROP TABLE ".toList := by decide
  exact prefix_toList_append (prefix_toList_append hfront _) _

theorem begins_createTable (schema : Schema) : (Statement.ddl schema.createTable).Begins "CREATE" := by
  have hfront : "CREATE".toList <+: "CREATE TABLE ".toList := by decide
  change "CREATE".toList <+: schema.createTable.toList
  unfold createTable
  simp only [String.append_assoc]
  exact prefix_toList_append hfront _

theorem begins_createIndex (schema : Schema) (column : String) :
    (Statement.ddl (schema.createIndex column)).Begins "CREATE" := by
  have hfront : "CREATE".toList <+: "CREATE INDEX ".toList := by decide
  change "CREATE".toList <+: (schema.createIndex column).toList
  unfold createIndex
  simp only [String.append_assoc]
  exact prefix_toList_append hfront _

theorem begins_definition {statement : Statement} (h : statement ∈ schema.definition) : statement.Begins "CREATE" := by
  rcases List.mem_cons.1 h with rfl | hm
  · exact begins_createTable schema
  · obtain ⟨index, hindex, rfl⟩ := List.mem_map.1 hm
    obtain ⟨column, -, rfl⟩ := List.mem_map.1 hindex
    exact begins_createIndex schema column

/-- Creating is not dropping. -/
theorem drops_not_creation {step : MigrationStep} (h : step ∈ schema.creation) :
    step.tolerateAbsent = false ∧ ¬step.statement.Begins "DROP" := by
  obtain ⟨statement, hm, rfl⟩ := List.mem_map.1 h
  exact ⟨rfl, (begins_definition hm).not_begins (by decide) (by decide)⟩

/-- The one step that drops is that of the mode that drops the table. -/
theorem drops_or_not {mode : MigrationMode} {live : Option TableDescription} {step : MigrationStep}
    (h : step ∈ schema.migration mode live) :
    (mode = .drop ∧ step = { statement := schema.dropTable, tolerateAbsent := true }) ∨
      step.tolerateAbsent = false ∧ ¬step.statement.Begins "DROP" := by
  cases mode with
  | safe => cases h
  | drop =>
    rcases List.mem_cons.1 h with rfl | hm
    · exact .inl ⟨rfl, rfl⟩
    · exact .inr (drops_not_creation hm)
  | alter =>
    cases live with
    | none => exact .inr (drops_not_creation h)
    | some live =>
      obtain ⟨column, -, rfl⟩ := List.mem_map.1 h
      exact .inr ⟨rfl, (begins_addColumn column).2⟩

theorem toleratesDrop_of_mem {mode : MigrationMode} {live : Option TableDescription} {step : MigrationStep}
    (h : step ∈ schema.migration mode live) : step.ToleratesDrop := by
  rcases drops_or_not h with ⟨-, rfl⟩ | ⟨hstrict, hother⟩
  · exact iff_of_true rfl (begins_dropTable schema)
  · exact iff_of_false (by simp [hstrict]) hother

end Schema

namespace Collection

open Operation

variable (collection : Collection) (store : Store σ) (state : σ)

/-! ## Runs -/

/-- The steps of a plan are gone through in order. -/
theorem goesThrough_runSteps {steps : List MigrationStep} (h : ∀ step ∈ steps, step.ToleratesDrop) :
    GoesThrough store state (collection.executions steps) () (exchanges (collection.runSteps steps) store state)
      (result (collection.runSteps steps) store state) := by
  -- each step is asked in the state that the steps before it leave
  induction steps generalizing state with
  | nil => exact .nil store state ()
  | cons step steps ih =>
    obtain ⟨hstep, hsteps⟩ := List.forall_mem_cons.1 h
    have hgoes := MigrationStep.goesOn_iff hstep collection.session
      (store (.execute collection.session step.statement) state).1
    rw [runSteps_cons]
    cases houtcome : step.outcome (store (.execute collection.session step.statement) state).1 with
    | ok value =>
      rw [exchanges_ask_bind_of_ok store state houtcome, result_ask_bind_of_ok store state houtcome]
      exact (ih _ hsteps).cons (hgoes.2 houtcome)
    | error e =>
      obtain ⟨cause, hanswer, rfl⟩ := MigrationStep.outcome_eq_error houtcome
      rw [exchanges_ask_bind_of_error store state houtcome, result_ask_bind_of_error store state houtcome]
      refine GoesThrough.stop () (fun hfirst => ?_) ?_
      · cases houtcome.symm.trans (hgoes.1 hfirst)
      · rw [hanswer]
        rfl

/-- A plan that is run goes through its steps and ends with their number. -/
theorem goesThrough_plan (mode : MigrationMode) (live : Option TableDescription) :
    let plan := collection.schema.migration mode live
    let run : Operation Nat := collection.runSteps plan >>= fun _ => pure plan.length
    GoesThrough store state (collection.executions plan) plan.length (exchanges run store state)
      (result run store state) := by
  intro plan run
  have hsteps := collection.goesThrough_runSteps store state fun step (hm : step ∈ plan) =>
    Schema.toleratesDrop_of_mem hm
  rw [exchanges_bind_pure, result_bind_pure]
  exact hsteps.map fun _ => plan.length

/-! ## Migrations -/

/-- The call that asks for the description of the table. -/
def describing (keyspace : String) : Call :=
  .execute collection.session (TableDescription.query keyspace collection.schema.table)

/-- How far migrations come, whatever the store answers. -/
structure MigratesInOrder (store : Store σ) (state : σ) : Prop where
  safe : exchanges (collection.migrate .safe) store state = [] ∧
    result (collection.migrate .safe) store state = .ok 0
  /-- Nothing is described before the table is dropped. -/
  drop :
    let plan := collection.schema.migration .drop none
    GoesThrough store state (collection.executions plan) plan.length
      (exchanges (collection.migrate .drop) store state) (result (collection.migrate .drop) store state)
  /-- Without a keyspace nothing can be described. -/
  unbound : collection.session.keyspace = none →
    exchanges (collection.migrate .alter) store state = [] ∧
      result (collection.migrate .alter) store state = .error (.config .keyspaceMissing)
  undescribed : ∀ keyspace cause, collection.session.keyspace = some keyspace →
    (store (collection.describing keyspace) state).1 = .error cause →
    exchanges (collection.migrate .alter) store state = [⟨collection.describing keyspace, .error cause⟩] ∧
      result (collection.migrate .alter) store state = .error (.store cause)
  /-- The plan is that for the table that is described, and is gone through from
  the state after that. -/
  described : ∀ keyspace rows, collection.session.keyspace = some keyspace →
    (store (collection.describing keyspace) state).1 = .ok rows →
    let plan := collection.schema.migration .alter (TableDescription.ofRows? collection.schema rows)
    ∃ made, exchanges (collection.migrate .alter) store state =
        ⟨collection.describing keyspace, .ok rows⟩ :: made ∧
      GoesThrough store (store (collection.describing keyspace) state).2 (collection.executions plan) plan.length made
        (result (collection.migrate .alter) store state)
  /-- All that is asked are statements, and none but the first of a mode drops
  the table. -/
  drops : ∀ mode, ∀ exchange ∈ exchanges (collection.migrate mode) store state, ∃ statement,
    exchange.question = .execute collection.session statement ∧
      (statement.Begins "DROP" → mode = .drop ∧ statement = collection.schema.dropTable)

variable {collection store state}

theorem migrate_alter_of_unbound (h : collection.session.keyspace = none) :
    collection.migrate .alter = Operation.ofExcept (.error (.config .keyspaceMissing)) := by
  unfold migrate migrationSteps describe
  rw [if_pos rfl, h]
  rfl

/-- To alter a table, its description is asked for and then a plan is run. -/
theorem migrate_alter_of_bound {keyspace : String} (h : collection.session.keyspace = some keyspace) :
    collection.migrate .alter =
      ask (collection.describing keyspace) (Except.mapError .store) >>= fun rows =>
        collection.runSteps (collection.stepsFor rows) >>= fun _ => pure (collection.stepsFor rows).length :=
  migrate_alter h

theorem migrate_alter_of_undescribed {keyspace : String} (hk : collection.session.keyspace = some keyspace)
    {cause : StoreError} (hanswer : (store (collection.describing keyspace) state).1 = .error cause) :
    exchanges (collection.migrate .alter) store state = [⟨collection.describing keyspace, .error cause⟩] ∧
      result (collection.migrate .alter) store state = .error (.store cause) := by
  have hread : Except.mapError OperationError.store (store (collection.describing keyspace) state).1 =
      .error (.store cause) := by
    rw [hanswer]
    rfl
  rw [migrate_alter_of_bound hk, exchanges_ask_bind_of_error store state hread,
    result_ask_bind_of_error store state hread, hanswer]
  exact ⟨rfl, rfl⟩

theorem migrate_alter_of_described {keyspace : String} (hk : collection.session.keyspace = some keyspace)
    {rows : List Row} (hanswer : (store (collection.describing keyspace) state).1 = .ok rows) :
    ∃ made, exchanges (collection.migrate .alter) store state =
        ⟨collection.describing keyspace, .ok rows⟩ :: made ∧
      GoesThrough store (store (collection.describing keyspace) state).2
        (collection.executions (collection.stepsFor rows)) (collection.stepsFor rows).length made
        (result (collection.migrate .alter) store state) := by
  have hread : Except.mapError OperationError.store (store (collection.describing keyspace) state).1 = .ok rows := by
    rw [hanswer]
    rfl
  rw [migrate_alter_of_bound hk, exchanges_ask_bind_of_ok store state hread,
    result_ask_bind_of_ok store state hread, hanswer]
  exact ⟨_, rfl, collection.goesThrough_plan store _ .alter _⟩

/-- Whatever is executed of a plan is one of its steps. -/
theorem drops_of_goesThrough {mode : MigrationMode} {live : Option TableDescription} {value : α} {made : List Exchange}
    {ended : Except OperationError α}
    (h : GoesThrough store state (collection.executions (collection.schema.migration mode live)) value made ended) :
    ∀ exchange ∈ made, ∃ statement, exchange.question = .execute collection.session statement ∧
      (statement.Begins "DROP" → mode = .drop ∧ statement = collection.schema.dropTable) := by
  intro exchange hm
  have hasked := h.asked.subset (List.mem_map_of_mem hm)
  obtain ⟨step, hstep, hquestion⟩ := List.mem_map.1 hasked
  refine ⟨step.statement, hquestion.symm, fun hdrop => ?_⟩
  rcases Schema.drops_or_not hstep with ⟨hmode, rfl⟩ | ⟨-, hother⟩
  · exact ⟨hmode, rfl⟩
  · exact absurd hdrop hother

/-- Nothing that a migration asks drops a table, but for the first step of the
mode that does. -/
theorem drops_migrate {mode : MigrationMode} {exchange : Exchange}
    (hm : exchange ∈ exchanges (collection.migrate mode) store state) : ∃ statement,
      exchange.question = .execute collection.session statement ∧
        (statement.Begins "DROP" → mode = .drop ∧ statement = collection.schema.dropTable) := by
  by_cases hmode : mode = .alter
  · subst hmode
    cases hk : collection.session.keyspace with
    | none =>
      rw [migrate_alter_of_unbound hk] at hm
      cases hm
    | some keyspace =>
      have hdescribing : ¬(TableDescription.query keyspace collection.schema.table).Begins "DROP" :=
        (TableDescription.begins_query ..).not_begins (by decide) (by decide)
      cases hanswer : (store (collection.describing keyspace) state).1 with
      | error cause =>
        rw [(migrate_alter_of_undescribed hk hanswer).1] at hm
        rw [List.mem_singleton.1 hm]
        exact ⟨_, rfl, fun hdrop => absurd hdrop hdescribing⟩
      | ok rows =>
        obtain ⟨made, hmade, hgoes⟩ := migrate_alter_of_described hk hanswer
        rw [hmade] at hm
        rcases List.mem_cons.1 hm with rfl | hm
        · exact ⟨_, rfl, fun hdrop => absurd hdrop hdescribing⟩
        · exact drops_of_goesThrough hgoes exchange hm
  · rw [migrate_of_ne_alter hmode] at hm
    exact drops_of_goesThrough (collection.goesThrough_plan store state mode none) exchange hm

/-- A migration executes a beginning of its plan, up to the first step that
fails, and fails as that does. It ends with the number of steps exactly if each
of them succeeds, or drops a table that does not exist. -/
theorem migrations_stop_at_first_failure (collection : Collection) (store : Store σ) (state : σ) :
    collection.MigratesInOrder store state := by
  constructor
  case safe => exact ⟨rfl, rfl⟩
  case drop =>
    intro plan
    rw [migrate_of_ne_alter (by decide)]
    exact collection.goesThrough_plan store state .drop none
  case unbound =>
    intro hk
    rw [migrate_alter_of_unbound hk]
    exact ⟨rfl, rfl⟩
  case undescribed =>
    intro keyspace cause hk hanswer
    exact migrate_alter_of_undescribed hk hanswer
  case described =>
    intro keyspace rows hk hanswer
    exact migrate_alter_of_described hk hanswer
  case drops =>
    intro mode exchange hm
    exact drops_migrate hm

/-- A table that does not exist need not be dropped, and a creation that is late
is the last statement. -/
example :
    let readings : Collection := { schema := .sampleReadings, session := { id := 0, keyspace := none } }
    let store : ScriptedStore :=
      { script := { replies := [.error ⟨.notFound, "no table"⟩, .error ⟨.timeout, "no answer"⟩] } }
    result (readings.migrate .drop) ScriptedStore.answer store = .error (.store ⟨.timeout, "no answer"⟩) := rfl

end Collection
end WideColumn
