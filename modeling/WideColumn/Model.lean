import WideColumn.Attribute.Basic
/-!
# Models

A model is declared as a document with an identity, an optional table name
and attributes in order.
-/

namespace WideColumn

/-- A declared model. The names of attributes need not be distinct. -/
structure Model where
  identity : String
  tableName : Option String := none
  attributes : List Attribute

namespace Model

def attribute? (model : Model) (name : String) : Option Attribute := model.attributes.find? (·.name = name)

def readAttributes : List (String × Json) → Except SchemaError (List Attribute)
  | [] => .ok []
  | (name, definition) :: rest => do
    let attr ← Attribute.read name definition
    let attributes ← readAttributes rest
    return attr.toList ++ attributes

/-- The declared identity, which must not be empty. -/
def readIdentity (fields : Record) : Except SchemaError String :=
  match fields.get? "identity" with
  | some (.string identity) => if identity = "" then .error .identityMissing else .ok identity
  | _ => .error .identityMissing

def readTableName (identity : String) (fields : Record) : Except SchemaError (Option String) :=
  match fields.get? "tableName" with
  | none | some .null => .ok none
  | some (.string table) => .ok (some table)
  | some value => .error (.tableNameNotString identity value)

def read : Json → Except SchemaError Model
  | .object fields => do
    let identity ← readIdentity fields
    let tableName ← readTableName identity fields
    match Fields.get? fields "attributes" with
    | some (.object entries) => return { identity, tableName, attributes := ← readAttributes entries }
    | _ => throw (.attributesMissing identity)
  | _ => .error .modelNotObject

end Model
end WideColumn
