import WideColumn.Collection.Table
import WideColumn.Proofs.Store.Exchange
import WideColumn.Proofs.Store.Operation
/-!
# Running migrations

The steps of a migration are executed one by one up to the first that fails.
`runSteps_cases` says what is executed and what comes of it for all answers
of the store; to alter a table its description is read before that.
-/

namespace WideColumn

/-- The failure that the store answers with, if it does. -/
def Exchange.failure? : Exchange → Option StoreError
  | ⟨.connect _, .error cause⟩ | ⟨.execute _ _, .error cause⟩ | ⟨.batch _ _, .error cause⟩
  | ⟨.stream _ _, .error cause⟩ | ⟨.shutdown _, .error cause⟩ => some cause
  | _ => none

/-- A step fails only with what the store answers. -/
theorem MigrationStep.outcome_eq_error {step : MigrationStep} {answer : Except StoreError (List Row)}
    {e : OperationError} (h : step.outcome answer = .error e) :
    ∃ cause, answer = .error cause ∧ e = .store cause := by
  cases answer with
  | ok rows => cases h
  | error cause =>
    rw [outcome] at h
    split at h
    · cases h
    · exact ⟨cause, rfl, (Except.error.inj h).symm⟩

namespace Operation

variable {α β σ : Type}

/-- The calls that an operation makes with a store, with their answers. -/
def exchanges (operation : Operation α) (store : Store σ) (state : σ) : List Exchange :=
  Dialogue.exchanges store operation.run state

/-- The store fails none of the calls of an operation. -/
def Unfailing (operation : Operation α) (store : Store σ) (state : σ) : Prop :=
  ∀ exchange ∈ exchanges operation store state, exchange.failure? = none

variable (store : Store σ) (state : σ)

theorem exchanges_bind_pure (operation : Operation α) (f : α → β) :
    exchanges (operation >>= fun value => pure (f value)) store state = exchanges operation store state := by
  change Dialogue.exchanges store (Dialogue.bind operation.run _) state = _
  rw [Dialogue.exchanges_bind]
  unfold exchanges
  cases (Dialogue.run store operation.run state).1 with
  | ok value => exact List.append_nil _
  | error e => exact List.append_nil _

section

variable {question : Call} {read : question.Answer → Except OperationError α}

theorem exchanges_ask_bind_of_ok {value : α} (h : read (store question state).1 = .ok value)
    (next : α → Operation β) :
    exchanges (ask question read >>= next) store state =
      ⟨question, (store question state).1⟩ :: exchanges (next value) store (store question state).2 := by
  change _ :: Dialogue.exchanges store (Dialogue.bind (.done (read _)) _) _ = _
  rw [h]
  rfl

theorem exchanges_ask_bind_of_error {e : OperationError} (h : read (store question state).1 = .error e)
    (next : α → Operation β) :
    exchanges (ask question read >>= next) store state = [⟨question, (store question state).1⟩] := by
  change _ :: Dialogue.exchanges store (Dialogue.bind (.done (read _)) _) _ = _
  rw [h]
  rfl

end

end Operation

namespace Collection

open Operation

variable (collection : Collection) {σ : Type} (store : Store σ) (state : σ)

/-! ## Steps -/

def executions (steps : List MigrationStep) : List Call :=
  steps.map fun step => .execute collection.session step.statement

theorem runSteps_cons (step : MigrationStep) (steps : List MigrationStep) :
    collection.runSteps (step :: steps) =
      ask (.execute collection.session step.statement) step.outcome >>= fun _ => collection.runSteps steps := rfl

/-- All steps are executed, or those up to the first whose failure is not
tolerated. -/
theorem runSteps_cases (steps : List MigrationStep) :
    (calls (collection.runSteps steps) store state = collection.executions steps ∧
      result (collection.runSteps steps) store state = .ok ()) ∨
    ∃ ran step rest cause, steps = ran ++ step :: rest ∧
      calls (collection.runSteps steps) store state = collection.executions (ran ++ [step]) ∧
      (exchanges (collection.runSteps steps) store state).getLast? =
        some ⟨.execute collection.session step.statement, .error cause⟩ ∧
      step.outcome (.error cause) = .error (.store cause) ∧
      result (collection.runSteps steps) store state = .error (.store cause) := by
  induction steps generalizing state with
  | nil => exact .inl ⟨rfl, rfl⟩
  | cons step steps ih =>
    rw [runSteps_cons]
    cases houtcome : step.outcome (store (.execute collection.session step.statement) state).1 with
    | error e =>
      obtain ⟨cause, hanswer, rfl⟩ := MigrationStep.outcome_eq_error houtcome
      refine .inr ⟨[], step, steps, cause, rfl, calls_ask_bind_of_error store state houtcome _, ?_, ?_,
        result_ask_bind_of_error store state houtcome _⟩
      · rw [exchanges_ask_bind_of_error store state houtcome, hanswer]
        rfl
      · rw [← hanswer, houtcome]
    | ok value =>
      rw [calls_ask_bind_of_ok store state houtcome, result_ask_bind_of_ok store state houtcome,
        exchanges_ask_bind_of_ok store state houtcome]
      rcases ih (store (.execute collection.session step.statement) state).2 with
        ⟨hcalls, hresult⟩ | ⟨ran, failed, rest, cause, rfl, hcalls, hlast, hfailed, hresult⟩
      · refine .inl ⟨?_, hresult⟩
        rw [hcalls]
        rfl
      · refine .inr ⟨step :: ran, failed, rest, cause, rfl, ?_, ?_, hfailed, hresult⟩
        · rw [hcalls]
          rfl
        · rw [List.getLast?_cons, hlast]
          rfl

variable {collection store state}

/-- A store that fails nothing is asked for all steps. -/
theorem runSteps_of_unfailing {steps : List MigrationStep}
    (h : (collection.runSteps steps).Unfailing store state) :
    calls (collection.runSteps steps) store state = collection.executions steps ∧
      result (collection.runSteps steps) store state = .ok () := by
  rcases collection.runSteps_cases store state steps with hall | ⟨_, _, _, cause, -, -, hlast, -, -⟩
  · exact hall
  · have hnone := h _ (List.mem_of_getLast? hlast)
    cases hnone

/-! ## Migrations -/

/-- The steps of a migration whose table is described by rows. -/
def stepsFor (collection : Collection) (rows : List Row) : List MigrationStep :=
  collection.schema.migration .alter (TableDescription.ofRows? collection.schema rows)

theorem migrate_of_ne_alter {mode : MigrationMode} (h : mode ≠ .alter) :
    collection.migrate mode = collection.runSteps (collection.schema.migration mode none) >>= fun _ =>
      pure (collection.schema.migration mode none).length := by
  unfold migrate migrationSteps
  rw [if_neg h]
  rfl

/-- To alter a table, its description is read first. -/
theorem migrate_alter {keyspace : String} (h : collection.session.keyspace = some keyspace) :
    collection.migrate .alter =
      ask (.execute collection.session (TableDescription.query keyspace collection.schema.table))
          (Except.mapError .store) >>= fun rows =>
        collection.runSteps (collection.stepsFor rows) >>= fun _ => pure (collection.stepsFor rows).length := by
  unfold migrate migrationSteps describe
  rw [if_pos rfl, h]
  refine congrArg (fun next => ExceptT.mk (Dialogue.call _ next)) (funext fun answer => ?_)
  cases answer with
  | ok rows => rfl
  | error cause => rfl

end Collection
end WideColumn
