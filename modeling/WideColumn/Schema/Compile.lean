import WideColumn.Model
import WideColumn.Schema.Basic
/-!
# Compiling a model

`Schema.compile` checks a model and derives the schema of its table. The
attributes are checked in order, each against those before it; then the key
is looked up and its clustering columns are resolved.
-/

namespace WideColumn

/-- The column of an attribute. A generated key is an identifier that is
ordered by time, whatever its declared type. -/
def Attribute.toColumn (attr : Attribute) : Column :=
  { name := attr.column
    attr := attr.name
    native := if attr.autoIncrement then .timeuuid else AttributeType.nativeOf attr.typeName
    type := if attr.autoIncrement then some .string else AttributeType.read? attr.typeName }

namespace Schema

/-- Checks an attribute of a model against the attributes before it. -/
def checkAttribute (model : String) (before : List Attribute) (attr : Attribute) : Except SchemaError Unit :=
  if before.any (·.name = attr.name) then .error (.attributeTwice attr.name model)
  else if before.any (·.column = attr.column) then .error (.columnShared attr.column model)
  else if attr.primaryKey then
    match before.find? (·.primaryKey) with
    | some first => .error (.primaryKeyTwice model first.name attr.name)
    | none => .ok ()
  else if attr.autoIncrement then .error (.generatedOutsideKey attr.name)
  else if attr.clusterBy ≠ [] then .error (.clusteringOutsideKey attr.name)
  else .ok ()

/-- Checks the attributes of a model that follow given ones. -/
def checkAttributes (model : String) (before : List Attribute) : List Attribute → Except SchemaError Unit
  | [] => .ok ()
  | attr :: rest => do
    checkAttribute model before attr
    checkAttributes model (before ++ [attr]) rest

/-- The clustering columns of given names. None of them may be in the key
already. -/
def resolveClustering (model : String) (columns key : List Column) :
    List String → Except SchemaError (List Column)
  | [] => .ok []
  | name :: rest =>
    match Column.find? columns name with
    | none => .error (.clusteringUnknown name model)
    | some column =>
      if key.any (·.name = column.name) then .error (.clusteringInKey name model)
      else (resolveClustering model columns (key ++ [column]) rest).map (column :: ·)

/-- A list without repetitions, in order of first occurrence. -/
def distinct : List String → List String
  | [] => []
  | name :: rest => name :: (distinct rest).filter (· ≠ name)

/-- The columns that attributes ask an index for: those of unique attributes
first. -/
def requestedIndexes (attributes : List Attribute) : List String :=
  (attributes.filter (·.unique) ++ attributes.filter (·.index)).map Attribute.column

def declaredDefaults (attributes : List Attribute) : Record :=
  attributes.filterMap fun attr =>
    if attr.isAudit then none else attr.default.map fun value => (attr.name, value)

def compile (model : Model) : Except SchemaError Schema := do
  checkAttributes model.identity [] model.attributes
  match model.attributes.find? (·.primaryKey) with
  | none => throw (.primaryKeyMissing model.identity)
  | some key =>
    let columns := model.attributes.map Attribute.toColumn
    let partition := key.toColumn
    let clustering ← resolveClustering model.identity columns [partition] key.clusterBy
    let inKey (name : String) : Bool := (partition :: clustering).any (·.name = name)
    return {
      identity := model.identity
      table := model.tableName.getD (Text.toLower model.identity)
      columns
      partition
      clustering
      generatesKey := key.autoIncrement
      defaults := declaredDefaults model.attributes
      indexed := (distinct (requestedIndexes model.attributes)).filter (fun name => !inKey name)
    }

end Schema
end WideColumn
