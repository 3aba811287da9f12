import WideColumn.Native.Reading
import WideColumn.Query.Insert
import WideColumn.Query.Select
/-!
# Updating and deleting

The store changes rows by their keys only. Criteria that pin the key make one
direct statement. All others make a plan in two phases: a statement that
reads the keys, and a template that is bound to every row it finds.
-/

namespace WideColumn

/-- A statement that changes one row and waits for the row's key. -/
structure MutationTemplate where
  kind : StatementKind
  head : String
  params : List Json
  keys : List Column

namespace MutationTemplate

variable (template : MutationTemplate)

/-- The text of the statement, which is the same for every row. -/
def text : String :=
  template.head ++ " WHERE " ++
    " AND ".intercalate (template.keys.map fun key => quoteName key.name ++ " = ?") ++ ";"

/-- The statement without the key values. -/
def unbound : Statement := { kind := template.kind, text := template.text, params := template.params }

def keyValues (row : Row) : List Column → Except CompileError (List Json)
  | [] => .ok []
  | key :: keys =>
    match row.get? key.name with
    | none => .error (.invalidValue (.keyColumnMissing key.name))
    | some cell => (keyValues row keys).map (cell.toJson :: ·)

def bind (row : Row) : Except CompileError Statement :=
  (keyValues row template.keys).map fun values =>
    { kind := template.kind, text := template.text, params := template.params ++ values }

/-- The key attributes of a row, as far as the row has them. -/
def keyRecord (row : Row) : Record :=
  Fields.ofEntries (template.keys.filterMap fun key =>
    (row.get? key.name).map fun cell => (key.attr, key.decode cell.toJson))

end MutationTemplate

inductive MutationPlan where
  /-- One statement for one row, with the key of the row. -/
  | direct (statement : Statement) (key : Record)
  /-- A statement that reads keys, and one to bind to each of them. -/
  | twoPhase (select : Statement) (template : MutationTemplate)

/-- How an update changes rows, and the values it writes by attribute. -/
structure UpdatePlan where
  plan : MutationPlan
  values : Record

/-- Puts values over the fields of a key. -/
def mergeRecord (key values : Record) : Record := key.insertAll values

namespace Schema

variable (schema : Schema)

/-- The plan for a change, by the beginning of its statement and the values
bound there. -/
def mutation (kind : StatementKind) (head : String) (params : List Json) (criteria : Criteria) :
    Except CompileError MutationPlan := do
  match ← schema.pinnedKey criteria with
  | some key => return .direct (keyedStatement kind head key params) key.record
  | none =>
    let select ← schema.selectKeys criteria
    return .twoPhase select { kind, head, params, keys := schema.keyColumns }

/-- The columns that values assign, with the values to bind. Key columns
cannot be assigned. -/
def assignments : List (String × Json) → Except CompileError (List (Column × Json))
  | [] => .ok []
  | (name, value) :: rest => do
    let column ← schema.resolve name
    if schema.isKey column then throw (.immutableKey name)
    let bound ← column.bind value
    let more ← assignments rest
    return (column, bound) :: more

def valuesByAttribute (values : Record) : Record :=
  Fields.ofEntries (values.filterMap fun (name, value) =>
    (schema.find? name).map fun column => (column.attr, value))

def update (criteria : Criteria) (values : Record) : Except CompileError UpdatePlan := do
  if values.isEmpty then throw (.invalidValue .nothingToUpdate)
  let assigned ← schema.assignments values
  let head := "UPDATE " ++ schema.table ++ " SET " ++
    ", ".intercalate (assigned.map fun (column, _) => quoteName column.name ++ " = ?")
  let plan ← schema.mutation .update head (assigned.map (·.2)) criteria
  return { plan, values := schema.valuesByAttribute values }

def delete (criteria : Criteria) : Except CompileError MutationPlan :=
  schema.mutation .delete ("DELETE FROM " ++ schema.table) [] criteria

end Schema
end WideColumn
