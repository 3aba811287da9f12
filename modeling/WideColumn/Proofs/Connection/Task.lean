import WideColumn.Connection.Registry
import WideColumn.Proofs.Collection.Dispatch
import WideColumn.Proofs.Store.Exchange
/-!
# Tasks and sessions

A task is anything that a collection can be asked to do. Whatever the store
answers, a task only uses the session of its collection, and so does the
migration of a new registration.
-/

namespace WideColumn

open Operation

inductive Task where
  | perform (request : Request)
  | streamTo (target : Target) (capacity : Option Nat)
  | query (text : String) (params : List Json)
  | queryBatch (statements : List (String × List Json))
  | describe
  | define
  | drop
  | migrate (mode : MigrationMode)

abbrev Task.Reply : Task → Type
  | .perform request => request.Reply
  | .streamTo _ _ => Delivery
  | .query _ _ | .queryBatch _ => List Record
  | .describe => Option TableDescription
  | .define | .drop => Unit
  | .migrate _ => Nat

namespace Collection

variable (collection : Collection)

def carryOut : (task : Task) → Operation task.Reply
  | .perform request => collection.perform request
  | .streamTo target capacity =>
    Operation.ofExcept (collection.criteriaOf target) >>= fun criteria =>
      ExceptT.lift (collection.streamTo criteria capacity)
  | .query text params => collection.query text params
  | .queryBatch statements => collection.queryBatch statements
  | .describe => collection.describe
  | .define => collection.define
  | .drop => collection.dropTable
  | .migrate mode => collection.migrate mode

/-! ## Tables -/

theorem within_runStep (step : MigrationStep) : (collection.runStep step).Within (Call.Uses collection.session) := by
  unfold runStep
  exact ⟨rfl, fun _ => trivial⟩

theorem within_runSteps (steps : List MigrationStep) :
    (collection.runSteps steps).Within (Call.Uses collection.session) := by
  induction steps with
  | nil => trivial
  | cons step steps ih => exact Within.bind (collection.within_runStep step) fun _ => ih

theorem within_describe : collection.describe.Within (Call.Uses collection.session) := by
  unfold describe
  split
  · trivial
  · exact Within.bind (collection.session.within_execute _) fun _ => trivial

theorem within_migrate (mode : MigrationMode) : (collection.migrate mode).Within (Call.Uses collection.session) := by
  refine Within.bind ?_ fun steps => Within.bind (collection.within_runSteps steps) fun _ => trivial
  unfold migrationSteps
  split
  · exact Within.bind collection.within_describe fun _ => trivial
  · trivial

/-! ## Records -/

theorem within_change (plan : MutationPlan) : (collection.change plan).Within (Call.Uses collection.session) := by
  cases plan with
  | direct statement key => exact Within.bind (collection.session.within_execute _) fun _ => trivial
  | twoPhase select template =>
    refine Within.bind (collection.session.within_execute select) fun rows => ?_
    split
    · trivial
    · exact Within.bind (within_ofExcept _) fun statements =>
        Within.bind (collection.session.within_batch statements) fun _ => trivial

theorem within_stream (criteria : Criteria) : (collection.stream criteria).Within (Call.Uses collection.session) := by
  refine Within.bind (within_ofExcept _) fun statement => Within.bind (within_ofExcept _) fun pinned =>
    Within.bind (collection.session.within_stream statement) fun items => ?_
  split <;> trivial

theorem within_createEach (fresh : Nat → Uuid) (records : List Record) :
    (collection.createEach fresh records).Within (Call.Uses collection.session) := by
  unfold createEach
  split
  · trivial
  · exact Within.bind (within_ofExcept _) fun insertions =>
      Within.bind (collection.session.within_batch _) fun _ => trivial

theorem within_perform (request : Request) :
    (collection.perform request).Within (Call.Uses collection.session) := by
  cases request with
  | create fresh record =>
    exact Within.bind (within_ofExcept _) fun insertion =>
      Within.bind (collection.session.within_batch _) fun _ => trivial
  | createEach fresh records => exact collection.within_createEach fresh records
  | find target =>
    exact Within.bind (within_ofExcept _) fun criteria =>
      Within.bind (within_ofExcept _) fun statement => Within.bind (within_ofExcept _) fun pinned =>
        Within.bind (collection.session.within_execute statement) fun _ => trivial
  | count target =>
    exact Within.bind (within_ofExcept _) fun criteria =>
      Within.bind (within_ofExcept _) fun statement =>
        Within.bind (collection.session.within_execute statement) fun _ => trivial
  | update target values =>
    exact Within.bind (within_ofExcept _) fun criteria =>
      Within.bind (within_ofExcept _) fun plan => Within.bind (collection.within_change plan.plan) fun _ => trivial
  | destroy target =>
    exact Within.bind (within_ofExcept _) fun criteria =>
      Within.bind (within_ofExcept _) collection.within_change
  | stream target => exact Within.bind (within_ofExcept _) collection.within_stream

/-! ## Tasks -/

theorem within_carryOut (task : Task) : (collection.carryOut task).Within (Call.Uses collection.session) := by
  cases task with
  | perform request => exact collection.within_perform request
  | streamTo target capacity =>
    refine Within.bind (within_ofExcept _) fun criteria => within_lift ?_
    refine Dialogue.Within.bind (collection.within_stream criteria) fun items => ?_
    cases items <;> trivial
  | query text params => exact Within.bind (collection.session.within_execute _) fun _ => trivial
  | queryBatch statements => exact Within.bind (collection.session.within_batch _) fun _ => trivial
  | describe => exact collection.within_describe
  | define => exact collection.within_runSteps _
  | drop => exact collection.within_runSteps _
  | migrate mode => exact collection.within_migrate mode

end Collection

namespace Registration

theorem within_migrateAll (session : Session) (mode : MigrationMode) (schemas : List Schema) :
    (migrateAll session mode schemas).Within (Call.Uses session) := by
  induction schemas with
  | nil => trivial
  | cons schema schemas ih =>
    let collection : Collection := { schema, session }
    exact Within.bind (collection.within_migrate mode) fun _ => ih

theorem within_migrate (registration : Registration) :
    registration.migrate.Within (Call.Uses registration.connection.session) :=
  within_migrateAll _ _ _

end Registration
end WideColumn
