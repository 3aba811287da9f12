import WideColumn.Native.Type
/-!
# Attribute types

The types in which models declare their attributes, and the column types
behind them.
-/

namespace WideColumn

inductive AttributeType where
  | string | text | json | email | integer | float | boolean | date | datetime | binary | array
deriving DecidableEq

namespace AttributeType

def all : List AttributeType :=
  [.string, .text, .json, .email, .integer, .float, .boolean, .date, .datetime, .binary, .array]

def name : AttributeType → String
  | .string => "string"
  | .text => "text"
  | .json => "json"
  | .email => "email"
  | .integer => "integer"
  | .float => "float"
  | .boolean => "boolean"
  | .date => "date"
  | .datetime => "datetime"
  | .binary => "binary"
  | .array => "array"

/-- The attribute type of a name, without regard to ASCII case. -/
def read? (name : String) : Option AttributeType :=
  let lowered := String.ofList (Text.lowerAscii name.toList)
  all.find? fun type => type.name = lowered

/-- The column type behind an attribute type. -/
def native : AttributeType → NativeType
  | .string | .text | .json => .text
  | .email => .ascii
  | .integer => .bigint
  | .float => .double
  | .boolean => .boolean
  | .date | .datetime => .timestamp
  | .binary => .blob
  | .array => .list .text

/-- The column type behind a type name; an unknown name is stored as text. -/
def nativeOf (name : String) : NativeType := ((read? name).map native).getD .text

/-- The attribute type that describes a column type. -/
def ofNative : NativeType → AttributeType
  | .text | .uuid | .timeuuid | .inet => .string
  | .ascii => .email
  | .bigint | .int | .varint | .counter => .integer
  | .double | .float | .decimal => .float
  | .boolean => .boolean
  | .timestamp => .datetime
  | .date => .date
  | .blob => .binary
  | .list _ | .set _ => .array
  | .map _ _ => .json

end AttributeType
end WideColumn
