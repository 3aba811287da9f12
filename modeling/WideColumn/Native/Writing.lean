import WideColumn.Native.Reading
import WideColumn.Native.Type
/-!
# Documents as cells

`NativeValue.ofJson` converts a document to a cell of a given column type, or
says which part of the document does not convert to which type. Null fits
every type.
-/

namespace WideColumn

/-- A document that has no form in a column type. -/
structure Unconvertible where
  value : Json
  type : NativeType

def Unconvertible.message (failure : Unconvertible) : String :=
  "cannot convert " ++ failure.value.text ++ " to " ++ failure.type.name

namespace Json

/-- The document as a signed integer: an integer number, or a string that
reads as one between blanks. -/
def int64? : Json → Option Int64
  | .number n => n.signed?
  | .string s => Numeral.int64? (Text.trim s.toList)
  | _ => none

/-- The document as a double: a number, or a string that reads as one between
blanks. -/
def binary64? : Json → Option Binary64
  | .number n => some n.toBinary64
  | .string s => Numeral.real? (Text.trim s.toList)
  | _ => none

/-- The document as an integer of any size: digits behind an optional minus. -/
def varint? : Json → Option String
  | .number (.integer n _) => some (String.ofList (Numeral.ofInt n))
  | .string s =>
    let digits := match s.toList with
      | '-' :: rest => rest
      | text => text
    (Numeral.natural? digits).map fun _ => s
  | _ => none

/-- The document as a decimal: a number's text, or a string that reads as a
real number. -/
def decimal? : Json → Option String
  | .number n => some (String.ofList n.text)
  | .string s => (Numeral.real? s.toList).map fun _ => s
  | _ => none

def boolean? : Json → Option Bool
  | .bool b => some b
  | .string "true" => some true
  | .string "false" => some false
  | _ => none

/-- The document as a point in time: a number of milliseconds since 1970, or
a text. -/
def instant? : Json → Option Instant
  | .number n => n.signed?.bind fun ms => Instant.ofMilliseconds? ms.toInt
  | .string s => Instant.read? s.toList
  | _ => none

def date? : Json → Option Date
  | .string s => Date.read? s.toList
  | _ => none

def uuid? : Json → Option Uuid
  | .string s => Uuid.read? s.toList
  | _ => none

/-- The document as an identifier that is ordered by time. -/
def timeuuid? (document : Json) : Option Uuid :=
  document.uuid?.bind fun u => if u.version = 1 then some u else none

def inet? : Json → Option Inet
  | .string s => Inet.read? s.toList
  | _ => none

def byte? : Json → Option UInt8
  | .number n => n.unsigned?.bind fun b => if b < 256 then some (UInt8.ofNat b) else none
  | _ => none

/-- The document as bytes: hexadecimal digits behind `0x`, any other string
as it is encoded, or a list of bytes. -/
def blob? : Json → Option (List UInt8)
  | .string s =>
    match s.toList with
    | '0' :: 'x' :: digits => Hex.readBytes? digits
    | text => some (text.flatMap String.utf8EncodeChar)
  | .array items => items.mapM byte?
  | _ => none

def ascii? (document : Json) : Option String :=
  if document.plain.toList.all fun c => c.toNat < 128 then some document.plain else none

def int32? (document : Json) : Option Int32 :=
  document.int64?.bind fun n =>
    if Int32.minValue.toInt ≤ n.toInt ∧ n.toInt ≤ Int32.maxValue.toInt then some n.toInt32 else none

end Json

namespace NativeValue

/-- The cell that a conversion gives, or the failure to convert. -/
def orFail {α : Type} (value : Json) (type : NativeType) (cell : α → NativeValue) :
    Option α → Except Unconvertible NativeValue
  | some x => .ok (cell x)
  | none => .error ⟨value, type⟩

/-- Converts null to null, and anything else as given. -/
def nullOr (convert : Json → Except Unconvertible NativeValue) (value : Json) :
    Except Unconvertible NativeValue :=
  if value.isNull then .ok .null else convert value

/-- Converts an entry of an object to an entry of a map. -/
def entryOf (key value : Json → Except Unconvertible NativeValue) (field : String × Json) :
    Except Unconvertible (NativeValue × NativeValue) := do
  let k ← key (.string field.1)
  let v ← value field.2
  return (k, v)

def ofPresent : NativeType → Json → Except Unconvertible NativeValue
  | .text, value => .ok (.text value.plain)
  | .ascii, value => orFail value .ascii .ascii value.ascii?
  | .bigint, value => orFail value .bigint .bigint value.int64?
  | .counter, value => orFail value .counter .counter value.int64?
  | .int, value => orFail value .int .int value.int32?
  | .varint, value => orFail value .varint .varint value.varint?
  | .decimal, value => orFail value .decimal .decimal value.decimal?
  | .double, value => orFail value .double .double value.binary64?
  | .float, value => orFail value .float .float (value.binary64?.map Binary64.toBinary32)
  | .boolean, value => orFail value .boolean .boolean value.boolean?
  | .timestamp, value => orFail value .timestamp .timestamp value.instant?
  | .date, value => orFail value .date .date value.date?
  | .uuid, value => orFail value .uuid .uuid value.uuid?
  | .timeuuid, value => orFail value .timeuuid .timeuuid value.timeuuid?
  | .inet, value => orFail value .inet .inet value.inet?
  | .blob, value => orFail value .blob .blob value.blob?
  | .list item, .array items => (items.mapM (nullOr (ofPresent item))).map .list
  | .list item, value => .error ⟨value, .list item⟩
  | .set item, .array items => (items.mapM (nullOr (ofPresent item))).map .set
  | .set item, value => .error ⟨value, .set item⟩
  | .map key item, .object fields =>
    (fields.mapM (entryOf (nullOr (ofPresent key)) (nullOr (ofPresent item)))).map .map
  | .map key item, value => .error ⟨value, .map key item⟩

/-- Converts a document to a cell of a column type. -/
def ofJson (type : NativeType) : Json → Except Unconvertible NativeValue := nullOr (ofPresent type)

end NativeValue
end WideColumn
