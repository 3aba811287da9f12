import WideColumn.Schema.Error
import WideColumn.Text.Case
/-!
# Attributes of models

An attribute has a type name, which need not be known, and options for its
column, its part in the key and its indexes. `Attribute.read` takes one entry
of a model document.
-/

namespace WideColumn

structure Attribute where
  name : String
  typeName : String
  columnName : Option String := none
  /-- Whether the attribute is the partition key. -/
  primaryKey : Bool := false
  /-- Whether its value is generated on insert. -/
  autoIncrement : Bool := false
  /-- Attributes or columns that follow in the key. -/
  clusterBy : List String := []
  unique : Bool := false
  index : Bool := false
  /-- The value of a record that leaves the attribute out; null is a value. -/
  default : Option Json := none

namespace Attribute

/-- The column of an attribute, always in lower case. -/
def column (attr : Attribute) : String := Text.toLower (attr.columnName.getD attr.name)

/-- Whether the attribute is one of the time stamps that are kept elsewhere;
they have no defaults. -/
def isAudit (attr : Attribute) : Bool := attr.name = "createdAt" || attr.name = "updatedAt"

/-! ## Reading -/

/-- An option that is a boolean; absent and null mean no. -/
def readFlag (name flag : String) (options : Record) : Except SchemaError Bool :=
  match options.get? flag with
  | none | some .null => .ok false
  | some (.bool b) => .ok b
  | some value => .error (.flagNotBoolean flag name value)

/-- The declared type name; attributes without one are strings. -/
def readType (name : String) (options : Record) : Except SchemaError String :=
  match options.get? "type" with
  | none => .ok "string"
  | some (.string type) => .ok type
  | some value => .error (.typeNotString name value)

def readColumnName (name : String) (options : Record) : Except SchemaError (Option String) :=
  match options.get? "columnName" with
  | none | some .null => .ok none
  | some (.string column) => .ok (some column)
  | some value => .error (.columnNameNotString name value)

def readNames (name : String) : List Json → Except SchemaError (List String)
  | [] => .ok []
  | .string first :: rest => (readNames name rest).map (first :: ·)
  | value :: _ => .error (.clusteringItem name value)

/-- The declared clustering: one name or a list of names. -/
def readClustering (name : String) (options : Record) : Except SchemaError (List String) :=
  match options.get? "clusterBy" with
  | none | some .null => .ok []
  | some (.string single) => .ok [single]
  | some (.array items) => readNames name items
  | some value => .error (.clusteringShape name value)

def ofOptions (name : String) (options : Record) : Except SchemaError Attribute := do
  let typeName ← readType name options
  let columnName ← readColumnName name options
  let primaryKey ← readFlag name "primaryKey" options
  let autoIncrement ← readFlag name "autoIncrement" options
  let unique ← readFlag name "unique" options
  let index ← readFlag name "index" options
  let clusterBy ← readClustering name options
  return { name, typeName, columnName, primaryKey, autoIncrement, clusterBy, unique, index,
           default := options.get? "defaultsTo" }

/-- One entry of a model's attributes: a type name or an object of options.
Other entries are no attributes. -/
def read (name : String) : Json → Except SchemaError (Option Attribute)
  | .string typeName => .ok (some { name, typeName })
  | .object options => (ofOptions name options).map some
  | _ => .ok none

end Attribute
end WideColumn
