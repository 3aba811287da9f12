import WideColumn.Collection.Basic
import WideColumn.Migration.Plan
/-!
# The tables of collections

A collection can create, drop and describe its table, and bring it in line
with its schema.
-/

namespace WideColumn

def MigrationStep.outcome (step : MigrationStep) : Except StoreError (List Row) → Except OperationError Unit
  | .ok _ => .ok ()
  | .error cause => if step.tolerateAbsent && cause.isAbsent then .ok () else .error (.store cause)

namespace Collection

variable (collection : Collection)

def runStep (step : MigrationStep) : Operation Unit :=
  ExceptT.mk (.call (.execute collection.session step.statement) fun answer => .done (step.outcome answer))

/-- Runs the steps of a migration up to the first that fails. -/
def runSteps : List MigrationStep → Operation Unit
  | [] => return
  | step :: steps => do
    collection.runStep step
    runSteps steps

def define : Operation Unit := collection.runSteps collection.schema.creation

def dropTable : Operation Unit :=
  collection.runSteps [{ statement := collection.schema.dropTable, tolerateAbsent := true }]

def describe : Operation (Option TableDescription) := do
  match collection.session.keyspace with
  | none => throw (.config .keyspaceMissing)
  | some keyspace =>
    let rows ← collection.session.execute (TableDescription.query keyspace collection.schema.table)
    return TableDescription.ofRows? collection.schema rows

/-- The steps of a migration. Only to alter a table it has to be described. -/
def migrationSteps (mode : MigrationMode) : Operation (List MigrationStep) := do
  if mode = .alter then
    let live ← collection.describe
    return collection.schema.migration mode live
  return collection.schema.migration mode none

/-- Brings the table in line with the schema, and gives back the number of
steps. -/
def migrate (mode : MigrationMode) : Operation Nat := do
  let steps ← collection.migrationSteps mode
  collection.runSteps steps
  return steps.length

end Collection
end WideColumn
