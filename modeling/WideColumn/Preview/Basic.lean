import WideColumn.Criteria.Reader
import WideColumn.Json.Reader
import WideColumn.Migration.Plan
import WideColumn.Query.Mutation
import WideColumn.Schema.Compile
/-!
# Previews

A preview lists the statements that a command would send to the store, each
with its role, and the record that the command would give back when that is
known beforehand. Models and arguments are texts.
-/

namespace WideColumn

inductive Command where
  | ddl
  | migrate (mode : MigrationMode)
  | select (criteria : Option String)
  | count (criteria : Option String)
  | insert (record : String)
  | update (criteria : Option String) (values : String)
  | delete (criteria : Option String)

inductive PreviewError where
  | unreadable (path cause : String)
  | notJson (what : String)
  | notAnObject (what : String) (document : Json)
  | compile (cause : CompileError)
  | request (cause : RequestError)

def PreviewError.message : PreviewError → String
  | .unreadable path cause => "cannot read " ++ path ++ ": " ++ cause
  | .notJson what => "invalid JSON in " ++ what
  | .notAnObject what document => what ++ " must be a JSON object, got " ++ document.text
  | .compile cause => cause.message
  | .request cause => cause.message

/-- How a command reaches the store. -/
inductive PlanKind where
  | ddl | migrate | direct | query | batch | selectThenBatch
deriving DecidableEq

def PlanKind.name : PlanKind → String
  | .ddl => "ddl"
  | .migrate => "migrate"
  | .direct => "direct"
  | .query => "query"
  | .batch => "batch"
  | .selectThenBatch => "select-then-batch"

inductive StepRole where
  | schema | select | count | insert | update | delete
deriving DecidableEq

def StepRole.name : StepRole → String
  | .schema => "schema"
  | .select => "select"
  | .count => "count"
  | .insert => "insert"
  | .update => "update"
  | .delete => "delete"

structure PreviewStep where
  role : StepRole
  statement : Statement

structure Preview where
  plan : PlanKind
  steps : List PreviewStep
  /-- The record that the command would give back, if it is known. -/
  record : Option Record := none

namespace Preview

def readSchema (text : String) : Except PreviewError Schema :=
  match Json.read? text with
  | none => .error (.notJson "model")
  | some document => ((Model.read document).bind Schema.compile).mapError fun cause => .compile (.schema cause)

/-- The criteria that an argument describes; none are given without it. -/
def readCriteria (schema : Schema) (argument : Option String) : Except PreviewError Criteria :=
  match (argument.map Json.read?).getD (some .null) with
  | none => .error (.notJson "criteria")
  | some document => (Criteria.read schema.partition.attr document).mapError .request

def readRecord (what argument : String) : Except PreviewError Record :=
  match Json.read? argument with
  | none => .error (.notJson what)
  | some (.object fields) => .ok fields
  | some document => .error (.notAnObject what document)

def ofMutation (role : StepRole) : MutationPlan → Preview
  | .direct statement key => { plan := .direct, steps := [⟨role, statement⟩], record := some key }
  | .twoPhase select template =>
    { plan := .selectThenBatch, steps := [⟨.select, select⟩, ⟨role, template.unbound⟩] }

/-- The preview of a command. A generated key would be the fresh identifier. -/
def ofCommand (schema : Schema) (fresh : Uuid) : Command → Except PreviewError Preview
  | .ddl => .ok { plan := .ddl, steps := schema.definition.map (⟨.schema, ·⟩) }
  | .migrate mode =>
    .ok { plan := .migrate, steps := (schema.migration mode none).map fun step => ⟨.schema, step.statement⟩ }
  | .select criteria => do
    let criteria ← readCriteria schema criteria
    let pinned ← (schema.pinnedKey criteria).mapError .compile
    let statement ← (schema.select criteria).mapError .compile
    return { plan := if pinned.isSome then .direct else .query, steps := [⟨.select, statement⟩] }
  | .count criteria => do
    let criteria ← readCriteria schema criteria
    let statement ← (schema.count criteria).mapError .compile
    return { plan := .query, steps := [⟨.count, statement⟩] }
  | .insert record => do
    let record ← readRecord "record" record
    let insertion ← (schema.insert fresh record).mapError .compile
    return { plan := .batch, steps := [⟨.insert, insertion.statement⟩], record := some insertion.record }
  | .update criteria values => do
    let criteria ← readCriteria schema criteria
    let values ← readRecord "values" values
    let update ← (schema.update criteria values).mapError .compile
    return ofMutation .update update.plan
  | .delete criteria => do
    let criteria ← readCriteria schema criteria
    let plan ← (schema.delete criteria).mapError .compile
    return ofMutation .delete plan

end Preview
end WideColumn
