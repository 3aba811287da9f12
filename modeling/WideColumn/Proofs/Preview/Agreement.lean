import WideColumn.Preview.Basic
import WideColumn.Proofs.Collection.Dispatch
import WideColumn.Proofs.Collection.Migrating
/-!
# Previews show what is sent

A preview and a collection compile the same requests by different ways. What
a preview lists is what the collection asks of the store: the statement of a
read or of a direct change, the key select of a change in two phases and the
beginning of all that is batched after it, and every statement of a definition
or a migration. A preview fails with what is wrong with a request exactly if
the collection refuses the request for it.
-/

namespace WideColumn

/-- The failure of an operation that is refused for what a preview fails with. -/
def PreviewError.refusal? : PreviewError → Option OperationError
  | .compile cause => some (.compile cause)
  | .request cause => some (.request cause)
  | .unreadable _ _ | .notJson _ | .notAnObject _ _ => none

namespace Preview

/-- The document that an argument for criteria holds. -/
def criteriaDocument? (argument : Option String) : Option Json := (argument.map Json.read?).getD (some .null)

/-- The calls that execute the statements of a preview. -/
def executions (session : Session) (preview : Preview) : List Call :=
  preview.steps.map fun step => .execute session step.statement

end Preview

namespace Operation

open Preview

variable {α σ : Type}

/-- A preview of an operation, made or failed: it fails with what is wrong with
the request exactly if the operation is refused for it, and with nothing else.
A preview that is made is as expected. -/
structure PreviewedBy (operation : Operation α) (store : Store σ) (state : σ)
    (preview : Except PreviewError Preview) (expected : Preview → Prop) : Prop where
  error_iff : ∀ e refusal, e.refusal? = some refusal →
    (preview = .error e ↔ operation.Refuses store state refusal)
  of_error : ∀ e, preview = .error e → e.refusal? ≠ none
  of_ok : ∀ made, preview = .ok made → expected made

/-- An operation that gives a value after given calls, unless the store fails
one of them. -/
structure Performs (operation : Operation α) (store : Store σ) (state : σ) (expected : List Call) (value : α) :
    Prop where
  of_unfailing : operation.Unfailing store state → result operation store state = .ok value
  of_ok : ∀ given, result operation store state = .ok given →
    calls operation store state = expected ∧ given = value

end Operation

namespace Collection

open Operation Preview

variable {α σ : Type}

/-- A preview shows the statement that is the only call of an operation. -/
def ShowsRead (collection : Collection) (store : Store σ) (state : σ) (role : StepRole) (operation : Operation α)
    (preview : Preview) : Prop :=
  ∃ statement, preview.steps = [⟨role, statement⟩] ∧
    calls operation store state = [.execute collection.session statement]

/-- A preview shows the insert that an operation submits and the record that it
gives back, but for the generated key. -/
def ShowsInsert (collection : Collection) (store : Store σ) (state : σ) (fresh : Uuid) (operation : Operation Record)
    (preview : Preview) : Prop :=
  ∃ insertion : Insertion, preview.steps = [⟨.insert, insertion.statement⟩] ∧
    preview.record = some insertion.record ∧
    operation.Submits store state collection.session [(insertion.withKey collection.schema fresh).statement]
      (insertion.withKey collection.schema fresh).record

/-- What a preview shows of an operation that changes rows and makes a record
of the key of each. -/
structure ShowsChange (collection : Collection) (store : Store σ) (state : σ) (role : StepRole)
    (record : Record → Record) (operation : Operation (List Record)) (preview : Preview) : Prop where
  /-- The plan is direct if the only call is a statement that writes. -/
  direct_iff : preview.plan = .direct ↔ ∃ statement, statement.kind.isMutation = true ∧
    calls operation store state = [.execute collection.session statement]
  /-- Then this is the statement shown, and the record is the key. -/
  direct : preview.plan = .direct → ∃ statement key, preview.steps = [⟨role, statement⟩] ∧
    preview.record = some key ∧ calls operation store state = [.execute collection.session statement] ∧
    result operation store state =
      ((store (.execute collection.session statement) state).1.mapError .store).map fun _ => [record key]
  /-- Otherwise the key select comes first, and every statement that is batched
  is the second one with the values of a key. -/
  twoPhase : preview.plan ≠ .direct → preview.plan = .selectThenBatch ∧ ∃ select change,
    preview.steps = [⟨.select, select⟩, ⟨role, change⟩] ∧
    (calls operation store state = [.execute collection.session select] ∨
      ∃ statements, calls operation store state =
          [.execute collection.session select, .batch collection.session statements] ∧
        ∀ statement ∈ statements, ∃ keys, statement = { change with params := change.params ++ keys })

/-- What the previews of commands show of the requests with the same
arguments, for a fresh identifier and all answers of the store. -/
structure ShownByPreviews (collection : Collection) (fresh : Uuid) (store : Store σ) (state : σ) : Prop where
  select : ∀ argument document, criteriaDocument? argument = some document →
    (collection.perform (.find (.document document))).PreviewedBy store state
      (ofCommand collection.schema fresh (.select argument))
      (collection.ShowsRead store state .select (collection.perform (.find (.document document))))
  count : ∀ argument document, criteriaDocument? argument = some document →
    (collection.perform (.count (.document document))).PreviewedBy store state
      (ofCommand collection.schema fresh (.count argument))
      (collection.ShowsRead store state .count (collection.perform (.count (.document document))))
  /-- The collection comes with an identifier of its own. -/
  insert : ∀ argument record (other : Uuid), Json.read? argument = some (.object record) → other.version = 1 →
    (collection.perform (.create other record)).PreviewedBy store state
      (ofCommand collection.schema fresh (.insert argument))
      (collection.ShowsInsert store state other (collection.perform (.create other record)))
  update : ∀ argument document assigned values, criteriaDocument? argument = some document →
    Json.read? assigned = some (.object values) →
    (collection.perform (.update (.document document) values)).PreviewedBy store state
      (ofCommand collection.schema fresh (.update argument assigned))
      (collection.ShowsChange store state .update
        (fun key => mergeRecord key (collection.schema.valuesByAttribute values))
        (collection.perform (.update (.document document) values)))
  delete : ∀ argument document, criteriaDocument? argument = some document →
    (collection.perform (.destroy (.document document))).PreviewedBy store state
      (ofCommand collection.schema fresh (.delete argument))
      (collection.ShowsChange store state .delete id (collection.perform (.destroy (.document document))))
  ddl : ∃ preview, ofCommand collection.schema fresh .ddl = .ok preview ∧
    collection.define.Performs store state (preview.executions collection.session) ()
  /-- A table that is altered is described first, and here there is none. -/
  migrate : ∀ mode, ∃ preview, ofCommand collection.schema fresh (.migrate mode) = .ok preview ∧
    (mode ≠ .alter → (collection.migrate mode).Performs store state (preview.executions collection.session)
      preview.steps.length) ∧
    (mode = .alter → ∀ keyspace, collection.session.keyspace = some keyspace →
      let describe : Call := .execute collection.session (TableDescription.query keyspace collection.schema.table)
      (store describe state).1 = .ok [] →
      (collection.migrate mode).Performs store state (describe :: preview.executions collection.session)
        preview.steps.length)

end Collection

/-! ## Previews and operations side by side -/

theorem PreviewError.refusal?_inj {e other : PreviewError} {refusal : OperationError}
    (he : e.refusal? = some refusal) (ho : other.refusal? = some refusal) : e = other := by
  cases e <;> cases he <;> cases other <;> cases ho <;> rfl

namespace Operation

variable {α β σ : Type} {operation : Operation α} {store : Store σ} {state : σ}

section

variable {preview : Except PreviewError Preview} {expected : Preview → Prop}

theorem previewedBy_of_refused {e : PreviewError} {refusal : OperationError} (hp : preview = .error e)
    (he : e.refusal? = some refusal) (ho : operation.Refuses store state refusal) :
    operation.PreviewedBy store state preview expected := by
  subst hp
  refine ⟨fun other cause hother => ⟨?_, fun h => ?_⟩, ?_, nofun⟩
  · rintro ⟨⟩
    cases he.symm.trans hother
    exact ho
  · cases ho.result_eq.symm.trans h.result_eq
    rw [PreviewError.refusal?_inj he hother]
  · rintro _ ⟨⟩
    rw [he]
    exact Option.some_ne_none _

/-- An operation that makes a call is not refused. -/
theorem previewedBy_of_made {made : Preview} (hp : preview = .ok made)
    (hcalls : calls operation store state ≠ []) (h : expected made) :
    operation.PreviewedBy store state preview expected := by
  subst hp
  refine ⟨fun _ _ _ => ⟨nofun, fun hr => absurd hr.calls_eq hcalls⟩, nofun, ?_⟩
  rintro _ ⟨⟩
  exact h

end

/-! ## Operations step by step -/

section

variable {expected : List Call} {value : α}

theorem Performs.bind_pure (h : operation.Performs store state expected value) (f : α → β) :
    (operation >>= fun given => pure (f given)).Performs store state expected (f value) := by
  constructor
  · intro hu
    have hsame : operation.Unfailing store state := by rwa [Unfailing, exchanges_bind_pure] at hu
    rw [result_bind_pure, h.of_unfailing hsame]
    rfl
  · intro given hgiven
    rw [result_bind_pure] at hgiven
    obtain ⟨a, ha, rfl⟩ := map_eq_ok_iff.1 hgiven
    obtain ⟨hcalls, rfl⟩ := h.of_ok a ha
    exact ⟨(calls_bind_pure ..).trans hcalls, rfl⟩

theorem Performs.ask_bind {question : Call} {read : question.Answer → Except OperationError β} {answer : β}
    (ha : read (store question state).1 = .ok answer) {next : β → Operation α}
    (h : (next answer).Performs store (store question state).2 expected value) :
    (ask question read >>= next).Performs store state (question :: expected) value := by
  constructor
  · intro hu
    rw [Unfailing, exchanges_ask_bind_of_ok store state ha] at hu
    rw [result_ask_bind_of_ok store state ha]
    exact h.of_unfailing fun exchange hm => hu exchange (List.mem_cons_of_mem _ hm)
  · intro given hgiven
    rw [result_ask_bind_of_ok store state ha] at hgiven
    rw [calls_ask_bind_of_ok store state ha]
    obtain ⟨hcalls, hvalue⟩ := h.of_ok given hgiven
    exact ⟨congrArg _ hcalls, hvalue⟩

end

end Operation

namespace Collection

open Operation Preview

variable {α β σ : Type} {collection : Collection} {store : Store σ} {state : σ}

/-! ## Criteria -/

theorem readCriteria_of_document {schema : Schema} {argument : Option String} {document : Json}
    (h : criteriaDocument? argument = some document) :
    Preview.readCriteria schema argument = (Criteria.read schema.partition.attr document).mapError .request := by
  unfold criteriaDocument? at h
  unfold Preview.readCriteria
  rw [h]

/-- The preview of a request whose criteria are compiled, by what is made of
the criteria and of what they compile to. -/
def previewFor (schema : Schema) (argument : Option String) (compile : Criteria → Except CompileError β)
    (make : Criteria → β → Preview) : Except PreviewError Preview := do
  let criteria ← Preview.readCriteria schema argument
  let compiled ← (compile criteria).mapError .compile
  return make criteria compiled

/-- A preview and an operation that compile the same criteria in the same way
agree if they do when the criteria compile. -/
theorem previewedBy_criteria {argument : Option String} {document : Json}
    (hdocument : criteriaDocument? argument = some document) {compile : Criteria → Except CompileError β}
    {make : Criteria → β → Preview} {run : Criteria → Operation α} {expected : Operation α → Preview → Prop}
    (herror : ∀ {criteria cause}, compile criteria = .error cause →
      run criteria = Operation.ofExcept (.error (.compile cause)))
    (hmade : ∀ {criteria compiled}, compile criteria = .ok compiled →
      calls (run criteria) store state ≠ [] ∧ expected (run criteria) (make criteria compiled)) :
    (Operation.ofExcept (collection.criteriaOf (.document document)) >>= run).PreviewedBy store state
      (previewFor collection.schema argument compile make)
      (expected (Operation.ofExcept (collection.criteriaOf (.document document)) >>= run)) := by
  unfold previewFor criteriaOf Collection.readCriteria
  rw [readCriteria_of_document hdocument]
  dsimp only
  cases Criteria.read collection.schema.partition.attr document with
  | error cause => exact previewedBy_of_refused rfl rfl (refuses_ofExcept _)
  | ok criteria =>
    change PreviewedBy (run criteria) _ _
      ((compile criteria).mapError .compile >>= fun compiled => pure (make criteria compiled)) (expected (run criteria))
    cases hcompile : compile criteria with
    | error cause =>
      rw [herror hcompile]
      exact previewedBy_of_refused rfl rfl (refuses_ofExcept _)
    | ok compiled =>
      obtain ⟨hcalls, hexpected⟩ := hmade hcompile
      exact previewedBy_of_made rfl hcalls hexpected

/-! ## Reading -/

theorem query_of_pinnedKey_error {schema : Schema} {criteria : Criteria} {cause : CompileError}
    (h : schema.pinnedKey criteria = .error cause) (head : String) (sort : List Ordering) (limit : Option Nat) :
    schema.query head criteria sort limit = .error cause := by
  unfold Schema.query
  rw [h]
  rfl

/-- How a read reaches the store. -/
def readPlan (schema : Schema) (criteria : Criteria) : PlanKind :=
  match schema.pinnedKey criteria with
  | .ok (some _) => .direct
  | _ => .query

/-- That the key is looked at before the statement is compiled changes no
failure. -/
theorem ofCommand_select (schema : Schema) (fresh : Uuid) (argument : Option String) :
    ofCommand schema fresh (.select argument) = previewFor schema argument schema.select fun criteria statement =>
      { plan := readPlan schema criteria, steps := [⟨.select, statement⟩] } := by
  unfold previewFor ofCommand
  dsimp only
  cases Preview.readCriteria schema argument with
  | error e => rfl
  | ok criteria =>
    dsimp only [Except.bind, bind, readPlan]
    cases hpinned : schema.pinnedKey criteria with
    | error cause =>
      have hselect : schema.select criteria = .error cause := query_of_pinnedKey_error hpinned _ _ _
      rw [hselect]
      rfl
    | ok pinned =>
      cases schema.select criteria <;> cases pinned <;> rfl

theorem ofCommand_count (schema : Schema) (fresh : Uuid) (argument : Option String) :
    ofCommand schema fresh (.count argument) = previewFor schema argument schema.count fun _ statement =>
      { plan := .query, steps := [⟨.count, statement⟩] } := rfl

/-- The preview of one statement shows the operation that executes it. -/
theorem showsRead {role : StepRole} {operation : Operation α} {statement : Statement}
    (h : operation.AsksOnce store state (.execute collection.session statement)) (preview : Preview)
    (hsteps : preview.steps = [⟨role, statement⟩]) :
    calls operation store state ≠ [] ∧ collection.ShowsRead store state role operation preview := by
  rw [ShowsRead, h.calls_eq]
  exact ⟨List.cons_ne_nil _ _, statement, hsteps, rfl⟩

/-! ## Inserting -/

theorem ofCommand_insert (schema : Schema) (fresh : Uuid) {argument : String} {record : Record}
    (h : Json.read? argument = some (.object record)) :
    ofCommand schema fresh (.insert argument) = (do
      let insertion ← (schema.insert fresh record).mapError .compile
      return { plan := .batch, steps := [⟨.insert, insertion.statement⟩], record := some insertion.record }) := by
  have hrecord : readRecord "record" argument = .ok record := by rw [readRecord, h]
  unfold ofCommand
  dsimp only
  rw [hrecord]
  rfl

/-- Both inserts compile or neither does, with the same failure. -/
theorem previewedBy_insert (hs : collection.schema.Coherent) {fresh other : Uuid} (hf : fresh.version = 1)
    (ho : other.version = 1) {argument : String} {record : Record}
    (h : Json.read? argument = some (.object record)) :
    (collection.perform (.create other record)).PreviewedBy store state
      (ofCommand collection.schema fresh (.insert argument))
      (collection.ShowsInsert store state other (collection.perform (.create other record))) := by
  have hother := Schema.insert_withKey hs hf ho record
  rw [ofCommand_insert _ _ h]
  cases hinsert : collection.schema.insert fresh record with
  | error cause =>
    rw [hinsert] at hother
    refine previewedBy_of_refused rfl rfl ?_
    rw [perform, create_of_error hother]
    exact refuses_ofExcept _
  | ok insertion =>
    rw [hinsert] at hother
    have hsubmits : (collection.perform (.create other record)).Submits store state _ _ _ := submits_create hother
    refine previewedBy_of_made rfl ?_ ⟨insertion, rfl, rfl, hsubmits⟩
    rw [hsubmits.calls_eq]
    exact List.cons_ne_nil _ _

/-! ## Changing -/

theorem ofCommand_update (schema : Schema) (fresh : Uuid) (argument : Option String) {assigned : String}
    {values : Record} (h : Json.read? assigned = some (.object values)) :
    ofCommand schema fresh (.update argument assigned) =
      previewFor schema argument (schema.update · values) fun _ update => ofMutation .update update.plan := by
  have hvalues : readRecord "values" assigned = .ok values := by rw [readRecord, h]
  unfold previewFor ofCommand
  dsimp only
  cases Preview.readCriteria schema argument with
  | error e => rfl
  | ok criteria =>
    dsimp only [Except.bind, bind]
    rw [hvalues]

theorem ofCommand_delete (schema : Schema) (fresh : Uuid) (argument : Option String) :
    ofCommand schema fresh (.delete argument) =
      previewFor schema argument schema.delete fun _ plan => ofMutation .delete plan := rfl

/-- A statement that is bound to a row is that of the template with the values
of the key. -/
theorem exists_keys_of_bind {template : MutationTemplate} {row : Row} {statement : Statement}
    (h : template.bind row = .ok statement) :
    ∃ keys, statement = { template.unbound with params := template.unbound.params ++ keys } := by
  obtain ⟨keys, -, rfl⟩ := map_eq_ok_iff.1 h
  exact ⟨keys, rfl⟩

/-- All that follows a key select is one batch of statements that begin like
the template. -/
theorem calls_change_twoPhase (collection : Collection) (store : Store σ) (state : σ) (select : Statement)
    (template : MutationTemplate) :
    calls (collection.change (.twoPhase select template)) store state = [.execute collection.session select] ∨
      ∃ statements, calls (collection.change (.twoPhase select template)) store state =
          [.execute collection.session select, .batch collection.session statements] ∧
        ∀ statement ∈ statements, ∃ keys,
          statement = { template.unbound with params := template.unbound.params ++ keys } := by
  rcases change_twoPhase_cases collection store state select template with
    hasks | ⟨rows, -, -, honly⟩ | ⟨statements, hboth, -, rows, hbind⟩
  · exact .inl hasks.calls_eq
  · exact .inl honly
  · refine .inr ⟨statements, hboth, fun statement hm => ?_⟩
    obtain ⟨row, -, hrow⟩ := exists_item_of_mapM hbind hm
    exact exists_keys_of_bind hrow

/-- The preview of a plan shows how the plan is carried out. -/
theorem showsChange {role : StepRole} {kind : StatementKind} (hkind : kind.isMutation = true) {head : String}
    {params : List Json} {criteria : Criteria} {plan : MutationPlan}
    (h : collection.schema.mutation kind head params criteria = .ok plan) {record : Record → Record}
    {operation : Operation (List Record)}
    (hcalls : calls operation store state = calls (collection.change plan) store state)
    (hresult : result operation store state =
      (result (collection.change plan) store state).map fun keys => keys.map record) :
    calls operation store state ≠ [] ∧
      collection.ShowsChange store state role record operation (ofMutation role plan) := by
  cases plan with
  | direct statement key =>
    have hwrites : statement.kind.isMutation = true := by
      rcases Schema.mutation_eq_ok_iff.1 h with ⟨pinned, -, hplan⟩ | ⟨-, _, -, hplan⟩
      · cases hplan
        exact hkind
      · cases hplan
    rw [change_direct, calls_bind_pure, calls_ask] at hcalls
    rw [change_direct, result_bind_pure, result_ask, except_map_map] at hresult
    refine ⟨by rw [hcalls]; exact List.cons_ne_nil _ _, ⟨?_, ?_, ?_⟩⟩
    · exact ⟨fun _ => ⟨statement, hwrites, hcalls⟩, fun _ => rfl⟩
    · exact fun _ => ⟨statement, key, rfl, rfl, hcalls, hresult⟩
    · exact fun hne => absurd rfl hne
  | twoPhase select template =>
    have hselects := (template_of_mutation h).1
    have hcarried := calls_change_twoPhase collection store state select template
    rw [← hcalls] at hcarried
    have hfirst : ∃ rest, calls operation store state = .execute collection.session select :: rest := by
      rcases hcarried with hone | ⟨statements, htwo, -⟩
      · exact ⟨_, hone⟩
      · exact ⟨_, htwo⟩
    obtain ⟨rest, hrest⟩ := hfirst
    refine ⟨by rw [hrest]; exact List.cons_ne_nil _ _, ⟨⟨nofun, ?_⟩, nofun, ?_⟩⟩
    · -- the first call does not write
      rintro ⟨statement, hwrites, hdirect⟩
      cases hrest.symm.trans hdirect
      rw [hselects] at hwrites
      cases hwrites
    · exact fun _ => ⟨rfl, select, template.unbound, rfl, hcarried⟩

/-! ## Migrating -/

theorem performs_runSteps (steps : List MigrationStep) :
    (collection.runSteps steps).Performs store state (collection.executions steps) () := by
  refine ⟨fun h => (runSteps_of_unfailing h).2, fun given hgiven => ?_⟩
  rcases collection.runSteps_cases store state steps with ⟨hcalls, -⟩ | ⟨_, _, _, _, -, -, -, -, hresult⟩
  · exact ⟨hcalls, rfl⟩
  · cases hresult.symm.trans hgiven

theorem performs_migrate_of_ne_alter {mode : MigrationMode} (h : mode ≠ .alter) :
    (collection.migrate mode).Performs store state (collection.executions (collection.schema.migration mode none))
      (collection.schema.migration mode none).length := by
  rw [migrate_of_ne_alter h]
  exact (performs_runSteps _).bind_pure fun _ => (collection.schema.migration mode none).length

/-- A table that has no description is created. -/
theorem performs_migrate_alter {keyspace : String} (hkeyspace : collection.session.keyspace = some keyspace)
    (h : (store (.execute collection.session (TableDescription.query keyspace collection.schema.table)) state).1 =
      .ok []) :
    (collection.migrate .alter).Performs store state
      (.execute collection.session (TableDescription.query keyspace collection.schema.table) ::
        collection.executions (collection.schema.migration .alter none))
      (collection.schema.migration .alter none).length := by
  have hread : Except.mapError OperationError.store
      (store (.execute collection.session (TableDescription.query keyspace collection.schema.table)) state).1 =
        .ok [] := by
    rw [h]
    rfl
  rw [migrate_alter hkeyspace]
  exact .ask_bind hread ((performs_runSteps _).bind_pure fun _ => (collection.stepsFor []).length)

theorem executions_steps (steps : List MigrationStep) (plan : PlanKind) :
    ({ plan, steps := steps.map fun step => ⟨.schema, step.statement⟩ } : Preview).executions collection.session =
      collection.executions steps := List.map_map

/-! ## All commands -/

/-- For all schemas that compile, previews show what the requests of the
collection send, and fail exactly if the requests are refused. -/
theorem previews_show_what_is_sent {model : Model} (hc : Schema.compile model = .ok collection.schema) {fresh : Uuid}
    (hf : fresh.version = 1) (store : Store σ) (state : σ) : collection.ShownByPreviews fresh store state := by
  have hs := Schema.coherent_of_compile hc
  constructor
  case select =>
    intro argument document hdocument
    rw [ofCommand_select]
    exact previewedBy_criteria hdocument find_of_error fun h => showsRead (asksOnce_find h) _ rfl
  case count =>
    intro argument document hdocument
    rw [ofCommand_count]
    exact previewedBy_criteria hdocument count_of_error fun h => showsRead (asksOnce_count h) _ rfl
  case insert => exact fun argument record other hrecord ho => previewedBy_insert hs hf ho hrecord
  case update =>
    intro argument document assigned values hdocument hvalues
    rw [ofCommand_update _ _ _ hvalues]
    refine previewedBy_criteria hdocument update_of_error ?_
    intro criteria plan h
    obtain ⟨-, _, mutation, -, hmutation, rfl⟩ := Schema.update_eq_ok_iff.1 h
    refine showsChange rfl hmutation ?_ ?_
    · rw [update_of_ok h, calls_bind_pure]
    · rw [update_of_ok h, result_bind_pure]
  case delete =>
    intro argument document hdocument
    rw [ofCommand_delete]
    refine previewedBy_criteria hdocument destroy_of_error ?_
    intro criteria plan h
    refine showsChange rfl h ?_ ?_
    · rw [destroy_of_ok h]
    · rw [destroy_of_ok h]
      cases result (collection.change plan) store state with
      | error e => rfl
      | ok keys => exact congrArg Except.ok (List.map_id keys).symm
  case ddl =>
    have hsteps : collection.schema.definition.map (⟨.schema, ·⟩) =
        collection.schema.creation.map fun step => (⟨.schema, step.statement⟩ : PreviewStep) := by
      rw [Schema.creation, List.map_map]
      rfl
    refine ⟨_, rfl, ?_⟩
    rw [hsteps, executions_steps]
    exact performs_runSteps _
  case migrate =>
    refine fun mode => ⟨_, rfl, fun hne => ?_, fun halter keyspace hkeyspace hanswer => ?_⟩
    · rw [executions_steps, List.length_map]
      exact performs_migrate_of_ne_alter hne
    · subst halter
      rw [executions_steps, List.length_map]
      exact performs_migrate_alter hkeyspace hanswer

/-- A user with a given key is deleted by the statement that is shown, those
below an age are updated by one that begins like the one shown, and a table
that is not there is created by the statements shown. -/
theorem previews_show_what_is_sent_sample :
    let users : Collection := { schema := .sample, session := { id := 0, keyspace := some "app" } }
    let store : ScriptedStore := { script := { replies := [.ok [[("id", .text "k")]]] } }
    let young : Json := .object [("age", .object [("<", .ofInt64 3)])]
    let updating : Command := .update (some "\x7b\"age\":\x7b\"<\":3\x7d\x7d") "\x7b\"age\":4\x7d"
    (∃ preview statement, ofCommand users.schema (Uuid.timeBased 1 2 0) (.delete (some "\"k\"")) = .ok preview ∧
      preview.steps = [⟨.delete, statement⟩] ∧ preview.record = some [("id", .string "k")] ∧
      calls (users.perform (.destroy (.document (.string "k")))) ScriptedStore.answer store =
        [.execute users.session statement]) ∧
    (∃ preview select change keys, ofCommand users.schema (Uuid.timeBased 1 2 0) updating = .ok preview ∧
      preview.steps = [⟨.select, select⟩, ⟨.update, change⟩] ∧
      calls (users.perform (.update (.document young) [("age", .ofInt64 4)])) ScriptedStore.answer store =
        [.execute users.session select,
          .batch users.session [{ change with params := change.params ++ keys }]]) ∧
    ∃ preview, ofCommand users.schema (Uuid.timeBased 1 2 0) (.migrate .alter) = .ok preview ∧
      calls (users.migrate .alter) ScriptedStore.answer {} =
        .execute users.session (TableDescription.query "app" users.schema.table) ::
          preview.executions users.session := by
  intro users store young updating
  have hc : Schema.compile .sample = .ok users.schema := Schema.compile_sample
  have hf : (Uuid.timeBased 1 2 0).version = 1 := rfl
  have h := previews_show_what_is_sent hc hf ScriptedStore.answer store
  refine ⟨?_, ?_, ?_⟩
  · have hdelete := h.delete (some "\"k\"") (.string "k") rfl
    obtain ⟨statement, key, hsteps, -, hcalls, -⟩ := (hdelete.of_ok _ rfl).direct rfl
    exact ⟨_, statement, rfl, hsteps, rfl, hcalls⟩
  · have hcriteria : criteriaDocument? (some "\x7b\"age\":\x7b\"<\":3\x7d\x7d") = some young := rfl
    have hvalues : Json.read? "\x7b\"age\":4\x7d" = some (.object [("age", .ofInt64 4)]) := rfl
    obtain ⟨made, hmade, hplan⟩ : ∃ made, ofCommand users.schema (Uuid.timeBased 1 2 0) updating = .ok made ∧
        made.plan = .selectThenBatch := by
      rw [ofCommand_update _ _ _ hvalues, previewFor, readCriteria_of_document hcriteria]
      exact ⟨_, rfl, rfl⟩
    have hupdate := (h.update _ _ _ _ hcriteria hvalues).of_ok made hmade
    obtain ⟨-, select, change, hsteps, hcalls⟩ := hupdate.twoPhase (by rw [hplan]; nofun)
    obtain ⟨first, second, hboth⟩ : ∃ first second,
        calls (users.perform (.update (.document young) [("age", .ofInt64 4)])) ScriptedStore.answer store =
          [.execute users.session first, .batch users.session [second]] := ⟨_, _, rfl⟩
    rw [hboth] at hcalls ⊢
    obtain hcalls | ⟨statements, hcalls, hbegin⟩ := hcalls
    · cases hcalls
    · cases hcalls
      obtain ⟨keys, rfl⟩ := hbegin second List.mem_cons_self
      exact ⟨made, _, change, keys, hmade, hsteps, rfl⟩
  · obtain ⟨preview, hpreview, -, halter⟩ :=
      (previews_show_what_is_sent hc hf ScriptedStore.answer {}).migrate .alter
    have hperforms := halter rfl "app" rfl rfl
    exact ⟨preview, hpreview, (hperforms.of_ok _ rfl).1⟩

end Collection
end WideColumn
