import WideColumn.Attribute.Type
import WideColumn.Json.Printer
import WideColumn.Json.Reader
/-!
# Attribute values in their columns

A `json` attribute is kept as text and an `array` attribute as a list of
texts, so their values are encoded before they are bound. Reading decodes the
documents again.
-/

namespace WideColumn.AttributeType

/-- An item of an array attribute: strings and nulls as they are, anything
else as its text. -/
def encodeItem : Json → Json
  | .string s => .string s
  | .null => .null
  | item => .string item.text

/-- The form in which a value of an attribute is bound. -/
def encode : AttributeType → Json → Json
  | _, .null => .null
  | .json, value => .string value.text
  | .array, .array items => .array (items.map encodeItem)
  | _, value => value

/-- The value of an attribute in the form in which it was bound. Text that is
no document comes back as it is. -/
def decode : AttributeType → Json → Json
  | .json, .string s => (Json.read? s).getD (.string s)
  | _, value => value

end WideColumn.AttributeType
