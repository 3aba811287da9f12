import WideColumn.Binary.Format
import WideColumn.Fields
/-!
# Documents

The values that callers hand over and get back: JSON documents whose objects
keep the order of their fields. A number is an integer when it fits 64 bits,
with or without a sign, and a finite double otherwise.
-/

namespace WideColumn

inductive Number where
  | integer (n : Int) (fits : -0x8000000000000000 ≤ n ∧ n < 0x10000000000000000)
  | float (x : Binary64) (finite : x.isFinite = true)
deriving DecidableEq

namespace Number

def ofInt? (n : Int) : Option Number :=
  if h : -0x8000000000000000 ≤ n ∧ n < 0x10000000000000000 then some (.integer n h) else none

def ofBinary64? (x : Binary64) : Option Number :=
  if h : x.isFinite = true then some (.float x h) else none

/-- The number as a signed integer of 64 bits. A float never is one, whatever
its value. -/
def signed? : Number → Option Int64
  | .integer n _ => if n < 0x8000000000000000 then some (Int64.ofInt n) else none
  | .float _ _ => none

def unsigned? : Number → Option Nat
  | .integer n _ => if 0 ≤ n then some n.toNat else none
  | .float _ _ => none

def toBinary64 : Number → Binary64
  | .integer n _ => Binary64.ofInt n
  | .float x _ => x

end Number

inductive Json where
  | null
  | bool (b : Bool)
  | number (n : Number)
  | string (s : String)
  | array (items : List Json)
  | object (fields : List (String × Json))
deriving Inhabited

/-- A record: the values of attributes, in order of first mention. -/
abbrev Record := Fields Json

namespace Json

def ofInt64 (n : Int64) : Json :=
  .number (.integer n.toInt ⟨Int64.le_toInt n, Int.lt_trans (Int64.toInt_lt n) (by decide)⟩)

/-- A double; null when it is not finite. -/
def ofBinary64 (x : Binary64) : Json := ((Number.ofBinary64? x).map Json.number).getD .null

def isNull : Json → Bool
  | .null => true
  | _ => false

/-- Whether the document is a string, a number or a boolean. -/
def isScalar : Json → Bool
  | .string _ | .number _ | .bool _ => true
  | _ => false

end Json
end WideColumn
