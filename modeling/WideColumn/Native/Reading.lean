import WideColumn.Json.Printer
import WideColumn.Native.Value
/-!
# Cells as documents

`NativeValue.toJson` flattens what the store hands back: identifiers,
addresses and points in time become strings, bytes become hexadecimal digits
behind `0x`, and a number that a document cannot hold becomes a string or
null.
-/

namespace WideColumn

/-- The name under which a document is an entry of an object: a string
itself, anything else its text. -/
def Json.plain : Json → String
  | .string s => s
  | document => document.text

namespace NativeValue

/-- The text of bytes. -/
def blobText (bytes : List UInt8) : String := String.ofList ('0' :: 'x' :: Hex.writeBytes bytes)

mutual

def toJson : NativeValue → Json
  | .null => .null
  | .boolean b => .bool b
  | .int n => .ofInt64 n.toInt64
  | .bigint n | .counter n => .ofInt64 n
  | .varint digits => ((Numeral.int64? digits.toList).map Json.ofInt64).getD (.string digits)
  | .decimal digits => .string digits
  | .float x => .ofBinary64 x.toBinary64
  | .double x => .ofBinary64 x
  | .text s | .ascii s => .string s
  | .timestamp instant => .string (String.ofList instant.text)
  | .date day => .string (String.ofList day.text)
  | .uuid u | .timeuuid u => .string (String.ofList u.text)
  | .inet address => .string (String.ofList address.text)
  | .blob bytes => .string (blobText bytes)
  | .list items | .set items => .array (toJsons items)
  | .map entries => .object (Fields.ofEntries (toEntries entries))

def toJsons : List NativeValue → List Json
  | [] => []
  | item :: items => toJson item :: toJsons items

/-- The entries of a map; keys that read alike become one name. -/
def toEntries : List (NativeValue × NativeValue) → List (String × Json)
  | [] => []
  | (key, value) :: entries => ((toJson key).plain, toJson value) :: toEntries entries

end

end NativeValue

def Row.toRecord (row : Row) : Record := Fields.ofEntries (row.map fun (column, cell) => (column, cell.toJson))

end WideColumn
