import WideColumn.Query.Clause
import WideColumn.Uuid
/-!
# Inserting records

A record is stored under the attributes that its names resolve to. A
generated key comes first and cannot be given by the caller; defaults stand
in for attributes that the record leaves out.
-/

namespace WideColumn

/-- An insert: its statement, and the record as it will be stored. -/
structure Insertion where
  statement : Statement
  record : Record

/-- A value of a column in the form in which it is bound, if it converts to
the column's type. -/
def Column.bind (column : Column) (value : Json) : Except CompileError Json :=
  match NativeValue.ofJson column.native (column.encode value) with
  | .ok _ => .ok (column.encode value)
  | .error failure => .error (.invalidValue (.unconvertible column.attr failure))

namespace Schema

variable (schema : Schema)

def meansPartition (name : String) : Bool :=
  match schema.find? name with
  | some column => column.name = schema.partition.name
  | none => false

/-- The name under which a record gives a value to the partition key. -/
def suppliedKey? (record : Record) : Option String :=
  (record.find? fun (name, value) => !value.isNull && schema.meansPartition name).map (·.1)

/-- The record of a generated key alone, or an empty one when the key is not
generated. -/
def generatedKey (fresh : Uuid) (record : Record) : Except CompileError Record :=
  if schema.generatesKey then
    match schema.suppliedKey? record with
    | some name => .error (.immutableKey name)
    | none => .ok [(schema.partition.attr, .string (String.ofList fresh.text))]
  else .ok []

/-- Stores the values of a record under their attributes; a generated key
stays as it is. -/
def storeAll (stored : Record) : List (String × Json) → Except CompileError Record
  | [] => .ok stored
  | (name, value) :: rest => do
    let column ← schema.resolve name
    if schema.generatesKey ∧ column.name = schema.partition.name then storeAll stored rest
    else storeAll (stored.insert column.attr value) rest

/-- Stores the defaults of attributes that have no value yet. -/
def storeDefaults (stored : Record) : Record :=
  schema.defaults.foldl
    (fun stored (name, value) => if stored.has name then stored else stored.insert name value) stored

/-- The first key attribute without a value, if there is one. -/
def missingKey? (stored : Record) : Option String :=
  (schema.keyColumns.find? fun column => ((stored.get? column.attr).getD .null).isNull).map (·.attr)

/-- The columns of stored attributes with the values to bind. -/
def bindStored (stored : Record) : Except CompileError (List (Column × Json)) :=
  stored.mapM fun (name, value) =>
    match schema.columnOf? name with
    | some column => (column.bind value).map (column, ·)
    | none => .error (.unknownField name)

def insertStatement (bound : List (Column × Json)) : Statement :=
  { kind := .insert
    text := "INSERT INTO " ++ schema.table ++ " (" ++ quoteNames (bound.map (·.1.name)) ++ ") VALUES (" ++
      ", ".intercalate (bound.map fun _ => "?") ++ ");"
    params := bound.map (·.2) }

/-- Inserts a record, with a fresh identifier for a key that is generated. -/
def insert (fresh : Uuid) (record : Record) : Except CompileError Insertion := do
  let generated ← schema.generatedKey fresh record
  let given ← schema.storeAll generated record
  let stored := schema.storeDefaults given
  match schema.missingKey? stored with
  | some name => throw (.missingKey name)
  | none => return { statement := schema.insertStatement (← schema.bindStored stored), record := stored }

end Schema
end WideColumn
