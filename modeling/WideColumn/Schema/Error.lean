import WideColumn.Json.Printer
/-!
# What is wrong with a model

The reasons for which a model is refused, each with its wording.
-/

namespace WideColumn

/-- Why a model, or its place on a connection, is refused. -/
inductive SchemaError where
  | typeNotString (attr : String) (value : Json)
  | columnNameNotString (attr : String) (value : Json)
  | flagNotBoolean (flag attr : String) (value : Json)
  | clusteringItem (attr : String) (value : Json)
  | clusteringShape (attr : String) (value : Json)
  | modelNotObject
  | identityMissing
  | tableNameNotString (model : String) (value : Json)
  | attributesMissing (model : String)
  | attributeTwice (attr model : String)
  | columnShared (column model : String)
  | primaryKeyTwice (model first second : String)
  | generatedOutsideKey (attr : String)
  | clusteringOutsideKey (attr : String)
  | primaryKeyMissing (model : String)
  | clusteringUnknown (name model : String)
  | clusteringInKey (name model : String)
  | modelTwice (model connection : String)
  | modeUnknown (name : String)

def SchemaError.message : SchemaError → String
  | .typeNotString attr value => "attribute '" ++ attr ++ "' has a non-string type: " ++ value.text
  | .columnNameNotString attr value =>
    "'columnName' of attribute '" ++ attr ++ "' must be a string, got " ++ value.text
  | .flagNotBoolean flag attr value =>
    "'" ++ flag ++ "' of attribute '" ++ attr ++ "' must be a boolean, got " ++ value.text
  | .clusteringItem attr value =>
    "clusterBy of '" ++ attr ++ "' must list attribute names, got " ++ value.text
  | .clusteringShape attr value =>
    "clusterBy of '" ++ attr ++ "' must be a name or a list of names, got " ++ value.text
  | .modelNotObject => "model definition must be an object"
  | .identityMissing => "model definition needs an identity"
  | .tableNameNotString model value => "tableName of '" ++ model ++ "' must be a string, got " ++ value.text
  | .attributesMissing model => "model '" ++ model ++ "' has no attributes object"
  | .attributeTwice attr model => "duplicate attribute '" ++ attr ++ "' in model '" ++ model ++ "'"
  | .columnShared column model =>
    "attributes of model '" ++ model ++ "' collide on column '" ++ column ++ "'"
  | .primaryKeyTwice model first second =>
    "duplicate primary key in model '" ++ model ++ "': '" ++ first ++ "' and '" ++ second ++ "'"
  | .generatedOutsideKey attr =>
    "auto-increment attribute '" ++ attr ++ "' is not the primary key"
  | .clusteringOutsideKey attr =>
    "clustering declared on '" ++ attr ++ "', which is not the primary key"
  | .primaryKeyMissing model => "model '" ++ model ++ "' has no primary key"
  | .clusteringUnknown name model =>
    "clustering column '" ++ name ++ "' of model '" ++ model ++ "' does not exist"
  | .clusteringInKey name model =>
    "clustering column '" ++ name ++ "' of model '" ++ model ++ "' is already part of the key"
  | .modelTwice model connection =>
    "model '" ++ model ++ "' is given twice for connection '" ++ connection ++ "'"
  | .modeUnknown name => "unknown migrate mode '" ++ name ++ "'"

end WideColumn
