import WideColumn.Native.Value
import WideColumn.Schema.Basic
import WideColumn.Statement
import WideColumn.Text.Case
import WideColumn.Attribute.Type
/-!
# Tables as the store describes them

The store keeps a row for every column of every table.
`TableDescription.ofRows?` turns the rows of one table into a description:
the columns with the attributes that they store, and the attribute of the
partition key.
-/

namespace WideColumn

inductive ColumnRole where
  | partitionKey | clustering | static | regular
deriving DecidableEq

namespace ColumnRole

def name : ColumnRole → String
  | .partitionKey => "partition_key"
  | .clustering => "clustering"
  | .static => "static"
  | .regular => "regular"

/-- The role of a name; columns of other kinds are regular. -/
def ofName (name : String) : ColumnRole :=
  match name with
  | "partition_key" => .partitionKey
  | "clustering" => .clustering
  | "static" => .static
  | _ => .regular

end ColumnRole

structure DescribedColumn where
  column : String
  /-- The attribute that the column stores, if the schema knows the column. -/
  attr : Option String
  role : ColumnRole
  typeName : String
  /-- The type of that name, if it is one. -/
  native : Option NativeType

namespace DescribedColumn

/-- The name of the column for callers: its attribute, or else its own name. -/
def label (described : DescribedColumn) : String := described.attr.getD described.column

def type (described : DescribedColumn) : AttributeType :=
  (described.native.map AttributeType.ofNative).getD .string

end DescribedColumn

structure TableDescription where
  table : String
  columns : List DescribedColumn
  /-- The name for callers of the partition key, if that is a single column. -/
  partition : Option String

namespace TableDescription

/-- The statement that asks for the columns of a table. The store knows
tables by names in lower case. -/
def query (keyspace table : String) : Statement :=
  { kind := .select
    text := "SELECT column_name, kind, type FROM system_schema.columns " ++
      "WHERE keyspace_name = ? AND table_name = ?;"
    params := [.string keyspace, .string (Text.toLower table)] }

def textOf? (row : Row) (column : String) : Option String := (row.get? column).bind NativeValue.string?

/-- The column that a row describes; a row without a name describes none. -/
def describeColumn? (schema : Schema) (row : Row) : Option DescribedColumn :=
  (textOf? row "column_name").map fun column =>
    let typeName := (textOf? row "type").getD ""
    { column
      attr := (schema.column? column).map (·.attr)
      role := ((textOf? row "kind").map ColumnRole.ofName).getD .regular
      typeName
      native := NativeType.read? typeName }

/-- The name for callers of the only column in the partition key. -/
def solePartition? (columns : List DescribedColumn) : Option String :=
  match columns.filter (·.role = .partitionKey) with
  | [described] => some described.label
  | _ => none

/-- The description that the rows of a table give. A table without rows does
not exist. -/
def ofRows? (schema : Schema) (rows : List Row) : Option TableDescription :=
  if rows.isEmpty then none
  else
    let columns := rows.filterMap (describeColumn? schema)
    some { table := schema.table, columns, partition := solePartition? columns }

def hasColumn (description : TableDescription) (column : String) : Bool :=
  description.columns.any (·.column = column)

/-- What callers are told of a column. -/
def columnDocument (description : TableDescription) (described : DescribedColumn) : Json :=
  .object ([("type", .string described.type.name), ("columnName", .string described.column)] ++
    if description.partition = some described.label then [("primaryKey", .bool true)] else [])

/-- What callers are told of the table: its columns under the names that
callers use. -/
def document (description : TableDescription) : Record :=
  Fields.ofEntries (description.columns.map fun described =>
    (described.label, description.columnDocument described))

end TableDescription
end WideColumn
