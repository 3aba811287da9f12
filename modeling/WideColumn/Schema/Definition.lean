import WideColumn.Schema.Basic
import WideColumn.Statement
/-!
# Tables in the store

The statements that create, extend and drop the table of a schema. Column
names are quoted; the table name and the names of indexes are written as they
are.
-/

namespace WideColumn

def indexName (table column : String) : String := "idx__" ++ table ++ "__" ++ column

/-- A column with its type, as a table definition lists it. -/
def Column.definition (column : Column) : String := quoteName column.name ++ " " ++ column.native.name

namespace Schema

variable (schema : Schema)

def projection : String := quoteNames (schema.columns.map (·.name))

def createTable : String :=
  "CREATE TABLE " ++ schema.table ++ " (" ++ String.join (schema.columns.map (·.definition ++ ", ")) ++
    "PRIMARY KEY (" ++ quoteNames (schema.keyColumns.map (·.name)) ++ "));"

def createIndex (column : String) : String :=
  "CREATE INDEX " ++ indexName schema.table column ++ " ON " ++ schema.table ++ " (" ++ quoteName column ++ ");"

/-- The texts that create the indexes, by the names of the indexes. -/
def indexes : List (String × String) :=
  schema.indexed.map fun column => (indexName schema.table column, schema.createIndex column)

/-- The statements that create the table and then every index. -/
def definition : List Statement :=
  Statement.ddl schema.createTable :: schema.indexes.map fun (_, text) => Statement.ddl text

def dropTable : Statement := Statement.ddl ("DROP TABLE " ++ schema.table ++ ";")

def addColumn (column : Column) : Statement :=
  Statement.ddl ("ALTER TABLE " ++ schema.table ++ " ADD " ++ column.definition ++ ";")

end Schema
end WideColumn
