import WideColumn.Criteria.Reader
import WideColumn.Query.Decode
import WideColumn.Query.Mutation
import WideColumn.Schema.Compile
import WideColumn.Store.Dialogue
/-!
# Collections

A collection is a schema together with a session. Its operations compile
first and talk to the store only after that. This module has the operations
that write records and those that find them.
-/

namespace WideColumn

structure Collection where
  schema : Schema
  session : Session

namespace Collection

def ofModel (model : Model) (session : Session) : Except OperationError Collection :=
  ((Schema.compile model).mapError fun cause => .compile (.schema cause)).map fun schema => { schema, session }

variable (collection : Collection)

/-- The criteria that a document describes. A bare value is about the
partition key. -/
def readCriteria (document : Json) : Except OperationError Criteria :=
  (Criteria.read collection.schema.partition.attr document).mapError .request

/-! ## Creating -/

/-- Compiles inserts of records, with the identifiers from a number on for
keys that are generated. -/
def insertions (fresh : Nat → Uuid) : Nat → List Record → Except CompileError (List Insertion)
  | _, [] => .ok []
  | n, record :: records => do
    let insertion ← collection.schema.insert (fresh n) record
    let insertions ← insertions fresh (n + 1) records
    return insertion :: insertions

/-- Creates records in one batch, and gives them back as they are stored. -/
def createEach (fresh : Nat → Uuid) (records : List Record) : Operation (List Record) := do
  if records.isEmpty then return []
  let insertions ← Operation.compiled (collection.insertions fresh 0 records)
  collection.session.batch (insertions.map (·.statement))
  return insertions.map (·.record)

/-- Creates a record, and gives it back as it is stored. -/
def create (fresh : Uuid) (record : Record) : Operation Record := do
  let insertion ← Operation.compiled (collection.schema.insert fresh record)
  collection.session.batch [insertion.statement]
  return insertion.record

/-! ## Finding -/

/-- Finds the records that criteria mean. The store is asked for skipped
records as well. -/
def find (criteria : Criteria) : Operation (List Record) := do
  let statement ← Operation.compiled (collection.schema.select criteria)
  let pinned ← Operation.compiled (collection.schema.pinnedKey criteria)
  let rows ← collection.session.execute statement
  let records := rows.map collection.schema.decodeRow
  return if pinned.isSome then records else criteria.page records

/-- The count that the first cell of the first row holds. -/
def countOf (rows : List Row) : Nat :=
  match rows with
  | ((_, cell) :: _) :: _ => (cell.int64?.getD 0).toInt.toNat
  | _ => 0

/-- Counts the records that criteria mean, up to their limit. -/
def count (criteria : Criteria) : Operation Nat := do
  let statement ← Operation.compiled (collection.schema.count criteria)
  let rows ← collection.session.execute statement
  return countOf rows

/-! ## Updating and destroying -/

/-- Carries a plan out, and gives back the keys of the rows that it changes. -/
def change (plan : MutationPlan) : Operation (List Record) :=
  match plan with
  | .direct statement key => do
    let _ ← collection.session.execute statement
    return [key]
  | .twoPhase select template => do
    let rows ← collection.session.execute select
    if rows.isEmpty then return []
    let statements ← Operation.compiled (rows.mapM template.bind)
    collection.session.batch statements
    return rows.map template.keyRecord

/-- Updates the records that criteria mean, and gives back their keys with
the values written. -/
def update (criteria : Criteria) (values : Record) : Operation (List Record) := do
  let plan ← Operation.compiled (collection.schema.update criteria values)
  let keys ← collection.change plan.plan
  return keys.map fun key => mergeRecord key plan.values

/-- Destroys the records that criteria mean, and gives back their keys. -/
def destroy (criteria : Criteria) : Operation (List Record) := do
  let plan ← Operation.compiled (collection.schema.delete criteria)
  collection.change plan

/-! ## Statements of the caller -/

/-- Runs a statement, and gives back its rows by column. -/
def query (text : String) (params : List Json) : Operation (List Record) := do
  let rows ← collection.session.execute (.ofText text params)
  return rows.map Row.toRecord

/-- Runs statements as one batch, which gives no rows. -/
def queryBatch (statements : List (String × List Json)) : Operation (List Record) := do
  collection.session.batch (statements.map fun (text, params) => .ofText text params)
  return []

end Collection
end WideColumn
