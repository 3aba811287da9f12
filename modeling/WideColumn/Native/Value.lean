import WideColumn.Binary.Format
import WideColumn.Fields
import WideColumn.Inet
import WideColumn.Time.Instant
import WideColumn.Uuid
/-!
# Cells and rows

The values that the store keeps in its columns, and the rows of a result.
-/

namespace WideColumn

/-- The value of a cell. Numbers of unlimited size are kept in decimal
notation. -/
inductive NativeValue where
  | null
  | boolean (b : Bool)
  | int (n : Int32)
  | bigint (n : Int64)
  | counter (n : Int64)
  | varint (digits : String)
  | decimal (digits : String)
  | float (x : Binary32)
  | double (x : Binary64)
  | text (s : String)
  | ascii (s : String)
  | timestamp (instant : Instant)
  | date (date : Date)
  | uuid (uuid : Uuid)
  | timeuuid (uuid : Uuid)
  | inet (address : Inet)
  | blob (bytes : List UInt8)
  | list (items : List NativeValue)
  | set (items : List NativeValue)
  | map (entries : List (NativeValue × NativeValue))
deriving Inhabited

namespace NativeValue

def isNull : NativeValue → Bool
  | .null => true
  | _ => false

def string? : NativeValue → Option String
  | .text s | .ascii s => some s
  | _ => none

/-- The number of an integer cell, if it fits 64 bits. -/
def int64? : NativeValue → Option Int64
  | .int n => some n.toInt64
  | .bigint n | .counter n => some n
  | .varint digits => Numeral.int64? digits.toList
  | _ => none

def uuid? : NativeValue → Option Uuid
  | .uuid u | .timeuuid u => some u
  | _ => none

end NativeValue

/-- A row: cells under column names, in the order of the store. Of a repeated
column the first cell counts. -/
abbrev Row := Fields NativeValue

end WideColumn
