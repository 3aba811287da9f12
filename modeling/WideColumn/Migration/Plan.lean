import WideColumn.Migration.Description
import WideColumn.Migration.Mode
import WideColumn.Schema.Definition
/-!
# Planning migrations

The statements that bring a table in line with its schema, given the
description of the table if it exists.
-/

namespace WideColumn

structure MigrationStep where
  statement : Statement
  /-- Whether it is no failure that the statement's target does not exist. -/
  tolerateAbsent : Bool := false

namespace Schema

variable (schema : Schema)

/-- The steps that create the table and its indexes. -/
def creation : List MigrationStep := schema.definition.map fun statement => { statement }

/-- The steps that add the columns that a table lacks. -/
def addition (live : TableDescription) : List MigrationStep :=
  (schema.columns.filter fun column => !live.hasColumn column.name).map fun column =>
    { statement := schema.addColumn column }

def migration (mode : MigrationMode) (live : Option TableDescription) : List MigrationStep :=
  match mode, live with
  | .safe, _ => []
  | .drop, _ => { statement := schema.dropTable, tolerateAbsent := true } :: schema.creation
  | .alter, none => schema.creation
  | .alter, some live => schema.addition live

end Schema
end WideColumn
