import WideColumn.Attribute.Codec
import WideColumn.Json.Basic
import WideColumn.Native.Type
/-!
# Schemas

The schema of a table: its columns with the attributes they store, and its
key. A name that a caller gives is looked up among the columns first and
among the attributes second.
-/

namespace WideColumn

structure Column where
  name : String
  /-- The attribute that the column stores. -/
  attr : String
  native : NativeType
  /-- The declared type, when it is a known one. -/
  type : Option AttributeType

namespace Column

/-- The form in which a value of the column's attribute is bound. -/
def encode (column : Column) (value : Json) : Json :=
  match column.type with
  | some type => type.encode value
  | none => value

/-- The value of the column's attribute in what the store hands back. -/
def decode (column : Column) (value : Json) : Json :=
  match column.type with
  | some type => type.decode value
  | none => value

/-- The column of a name among columns: the one called so, or else the one
that stores an attribute of that name. -/
def find? (columns : List Column) (name : String) : Option Column :=
  (columns.find? (·.name = name)).or (columns.find? (·.attr = name))

end Column

structure Schema where
  /-- The identity of the model. -/
  identity : String
  table : String
  /-- The columns in declaration order. -/
  columns : List Column
  partition : Column
  /-- The columns that follow the partition key in the key. -/
  clustering : List Column
  /-- Whether the partition key is generated on insert. -/
  generatesKey : Bool
  /-- Values of attributes that a record leaves out. -/
  defaults : Record
  /-- The columns with an index, in the order in which the indexes are created. -/
  indexed : List String

namespace Schema

/-- The partition key followed by the clustering columns. -/
def keyColumns (schema : Schema) : List Column := schema.partition :: schema.clustering

def isKey (schema : Schema) (column : Column) : Bool := schema.keyColumns.any (·.name = column.name)

/-- The column of a name, without regard to attributes. -/
def column? (schema : Schema) (name : String) : Option Column := schema.columns.find? (·.name = name)

/-- The column that stores an attribute. -/
def columnOf? (schema : Schema) (attr : String) : Option Column :=
  schema.columns.find? (·.attr = attr)

/-- The column that a caller means by a name. -/
def find? (schema : Schema) (name : String) : Option Column := Column.find? schema.columns name

end Schema
end WideColumn
