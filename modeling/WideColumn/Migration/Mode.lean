import WideColumn.Schema.Error
import WideColumn.Text.Blank
/-!
# Migration modes

What a migration may do to a table that exists already.
-/

namespace WideColumn

/-- How a table is brought in line with its schema. -/
inductive MigrationMode where
  /-- The store is left alone. -/
  | safe
  /-- A missing table is created, and missing columns are added. -/
  | alter
  /-- The table is dropped and created again. -/
  | drop
deriving DecidableEq

namespace MigrationMode

def all : List MigrationMode := [.safe, .alter, .drop]

def name : MigrationMode → String
  | .safe => "safe"
  | .alter => "alter"
  | .drop => "drop"

/-- The mode of a name in lower case. -/
def ofName? (name : String) : Option MigrationMode := all.find? fun mode => mode.name = name

/-- The mode of a name, without regard to ASCII case. -/
def read (name : String) : Except SchemaError MigrationMode :=
  match ofName? (String.ofList (Text.lowerAscii name.toList)) with
  | some mode => .ok mode
  | none => .error (.modeUnknown name)

end MigrationMode
end WideColumn
