import WideColumn.Native.Reading
import WideColumn.Schema.Basic
/-!
# Rows as records

A row becomes a record by attribute. Columns that the schema does not know
keep their names and are not decoded.
-/

namespace WideColumn.Schema

def decodeCell (schema : Schema) (column : String) (cell : NativeValue) : String × Json :=
  match schema.column? column with
  | some known => (known.attr, known.decode cell.toJson)
  | none => (column, cell.toJson)

def decodeRow (schema : Schema) (row : Row) : Record :=
  Fields.ofEntries (row.map fun (column, cell) => schema.decodeCell column cell)

end WideColumn.Schema
