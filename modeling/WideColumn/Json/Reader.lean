import WideColumn.Json.Basic
import WideColumn.Numeral
import WideColumn.Text.Blank
import WideColumn.Text.Hex
/-!
# Reading documents

A strict reader: four blanks, no leading zeros, no raw control characters, no
lone surrogates, nothing behind the document. A reading step takes what it
reads off the front of the text and hands on the rest. Arrays and objects may
be nested to a given depth only.
-/

namespace WideColumn

/-! ## Numbers -/

namespace Number

/-- Takes further digits behind a significand as long as it fits 64 bits, and
counts them. -/
def takeDigits (significand : Nat) : List Char → Nat × Nat
  | [] => (significand, 0)
  | c :: rest =>
    let next := 10 * significand + Numeral.value [c]
    if next < UInt64.size then
      let (final, taken) := takeDigits next rest
      (final, taken + 1)
    else (significand, 0)

/-- Divides a magnitude by a power of ten, by `10 ^ 308` at a time while the
exponent is larger. Each step rounds. -/
def divideByTens (magnitude n : Nat) : Nat :=
  let tens (e : Nat) := BinaryFormat.double.ofRatio (powerOfTen e) 1
  if n ≤ 308 then BinaryFormat.double.div magnitude (tens n)
  else if magnitude = 0 then 0
  else divideByTens (BinaryFormat.double.div magnitude (tens 308)) (n - 308)
termination_by n
decreasing_by omega

/-- The magnitude of `significand · 10 ^ exponent`: the nearest double of the
significand, multiplied or divided by the nearest double of the power of ten.
Nothing when that is infinite. -/
def scale? (significand : Nat) (exponent : Int) : Option Nat :=
  let start := BinaryFormat.double.ofRatio significand 1
  if exponent < 0 then some (divideByTens start exponent.natAbs)
  else if significand = 0 then some 0
  else if 308 < exponent then none
  else
    let product := BinaryFormat.double.mul start (BinaryFormat.double.ofRatio (powerOfTen exponent.toNat) 1)
    if product < BinaryFormat.double.infinity then some product else none

/-- The float that a literal denotes. Of its digits only as many count as fit
64 bits, once before the point and once more behind it. -/
def floatLiteral? (negative : Bool) (whole fraction : List Char) (exponent : Int) : Option Number :=
  let (high, takenWhole) := takeDigits 0 whole
  let (significand, takenFraction) := takeDigits high fraction
  let exponent := exponent + ((whole.length - takenWhole : Nat) : Int) - takenFraction
  (scale? significand exponent).bind fun magnitude => ofBinary64? (Binary64.ofMagnitude negative magnitude)

/-- The number that a literal without fraction and exponent denotes: an
integer when it fits. Minus zero is a float. -/
def wholeLiteral? (negative : Bool) (digits : List Char) : Option Number :=
  let n := Numeral.value digits
  if negative ∧ n = 0 then floatLiteral? true digits [] 0
  else
    match ofInt? (if negative then -(n : Int) else n) with
    | some number => some number
    | none => floatLiteral? negative digits [] 0

/-- Reads a number literal off the front of a text. -/
def read? (text : List Char) : Option (Number × List Char) :=
  let (negative, unsigned) : Bool × List Char :=
    match text with
    | '-' :: rest => (true, rest)
    | _ => (false, text)
  let whole := unsigned.takeWhile Char.isDigit
  let rest := unsigned.dropWhile Char.isDigit
  if whole = [] ∨ (whole.head? = some '0' ∧ whole ≠ ['0']) then none
  else
    let pointed : Option (Option (List Char) × List Char) :=
      match rest with
      | '.' :: more =>
        let fraction := more.takeWhile Char.isDigit
        if fraction = [] then none else some (some fraction, more.dropWhile Char.isDigit)
      | _ => some (none, rest)
    pointed.bind fun (fraction, rest) =>
      match rest with
      | c :: more =>
        if c = 'e' ∨ c = 'E' then
          (Numeral.exponent? more).bind fun (exponent, rest) =>
            (floatLiteral? negative whole (fraction.getD []) exponent).map (·, rest)
        else
          match fraction with
          | some fraction => (floatLiteral? negative whole fraction 0).map (·, rest)
          | none => (wholeLiteral? negative whole).map (·, rest)
      | [] =>
        match fraction with
        | some fraction => (floatLiteral? negative whole fraction 0).map (·, [])
        | none => (wholeLiteral? negative whole).map (·, [])

end Number

namespace Json

def isSpace (c : Char) : Bool := c == ' ' || c == '\t' || c == '\n' || c == '\r'

def skipSpace (text : List Char) : List Char := text.dropWhile isSpace

/-! ## Strings -/

def hex4? : List Char → Option (Nat × List Char)
  | a :: b :: c :: d :: rest => (Hex.read? [a, b, c, d]).map (·, rest)
  | _ => none

/-- Reads the digits of a `\u` escape; the first half of a surrogate pair
takes the second half along. -/
def readUnicode? (text : List Char) : Option (Char × List Char) :=
  (hex4? text).bind fun (high, rest) =>
    if 0xD800 ≤ high ∧ high < 0xDC00 then
      match rest with
      | '\\' :: 'u' :: more =>
        (hex4? more).bind fun (low, rest) =>
          if 0xDC00 ≤ low ∧ low < 0xE000 then
            some (Char.ofNat (0x10000 + (high - 0xD800) * 0x400 + (low - 0xDC00)), rest)
          else none
      | _ => none
    else if 0xDC00 ≤ high ∧ high < 0xE000 then none
    else some (Char.ofNat high, rest)

/-- The character that a one-letter escape stands for. -/
def shortEscape? (c : Char) : Option Char :=
  match c with
  | '"' => some '"'
  | '\\' => some '\\'
  | '/' => some '/'
  | 'b' => some '\x08'
  | 'f' => some '\x0c'
  | 'n' => some '\n'
  | 'r' => some '\r'
  | 't' => some '\t'
  | _ => none

def readChar? : List Char → Option (Char × List Char)
  | [] => none
  | '\\' :: 'u' :: rest => readUnicode? rest
  | '\\' :: c :: rest => (shortEscape? c).map (·, rest)
  | ['\\'] => none
  | c :: rest => if c.toNat < 0x20 then none else some (c, rest)

/-- Reads the characters of a string and the closing quote. The fuel bounds
the number of characters. -/
def readChars? : Nat → List Char → Option (List Char × List Char)
  | 0, _ => none
  | fuel + 1, text =>
    match text with
    | '"' :: rest => some ([], rest)
    | _ =>
      (readChar? text).bind fun (c, rest) =>
        (readChars? fuel rest).map fun (chars, rest) => (c :: chars, rest)

/-- Reads a string behind its opening quote. -/
def readString? (text : List Char) : Option (String × List Char) :=
  (readChars? (text.length + 1) text).map fun (chars, rest) => (String.ofList chars, rest)

/-! ## Arrays and objects -/

/-- Reads the items of an array behind the first, up to the closing bracket. -/
def readItems? (item : List Char → Option (Json × List Char)) :
    Nat → List Char → Option (List Json × List Char)
  | 0, _ => none
  | fuel + 1, text =>
    match skipSpace text with
    | ']' :: rest => some ([], rest)
    | ',' :: rest =>
      (item (skipSpace rest)).bind fun (value, rest) =>
        (readItems? item fuel rest).map fun (values, rest) => (value :: values, rest)
    | _ => none

def readField? (item : List Char → Option (Json × List Char)) (text : List Char) :
    Option ((String × Json) × List Char) :=
  match text with
  | '"' :: rest =>
    (readString? rest).bind fun (name, rest) =>
      match skipSpace rest with
      | ':' :: rest => (item (skipSpace rest)).map fun (value, rest) => ((name, value), rest)
      | _ => none
  | _ => none

/-- Reads the fields of an object behind the first, up to the closing brace. -/
def readFields? (item : List Char → Option (Json × List Char)) :
    Nat → List Char → Option (List (String × Json) × List Char)
  | 0, _ => none
  | fuel + 1, text =>
    match skipSpace text with
    | '\x7d' :: rest => some ([], rest)
    | ',' :: rest =>
      (readField? item (skipSpace rest)).bind fun (entry, rest) =>
        (readFields? item fuel rest).map fun (entries, rest) => (entry :: entries, rest)
    | _ => none

/-- Reads an array behind its opening bracket. -/
def readArray? (item : List Char → Option (Json × List Char)) (text : List Char) :
    Option (Json × List Char) :=
  match skipSpace text with
  | ']' :: rest => some (.array [], rest)
  | first =>
    (item first).bind fun (value, rest) =>
      (readItems? item rest.length rest).map fun (values, rest) => (.array (value :: values), rest)

/-- Reads an object behind its opening brace. A repeated name keeps its first
place and its last value. -/
def readObject? (item : List Char → Option (Json × List Char)) (text : List Char) :
    Option (Json × List Char) :=
  match skipSpace text with
  | '\x7d' :: rest => some (.object [], rest)
  | first =>
    (readField? item first).bind fun (entry, rest) =>
      (readFields? item rest.length rest).map fun (entries, rest) =>
        (.object (Fields.ofEntries (entry :: entries)), rest)

/-- Reads a document off the front of a text, with arrays and objects nested
at most `depth` deep. -/
def readValue? : Nat → List Char → Option (Json × List Char)
  | depth, text =>
    match text with
    | 'n' :: 'u' :: 'l' :: 'l' :: rest => some (.null, rest)
    | 't' :: 'r' :: 'u' :: 'e' :: rest => some (.bool true, rest)
    | 'f' :: 'a' :: 'l' :: 's' :: 'e' :: rest => some (.bool false, rest)
    | '"' :: rest => (readString? rest).map fun (s, rest) => (.string s, rest)
    | '[' :: rest =>
      match depth with
      | 0 => none
      | depth + 1 => readArray? (readValue? depth) rest
    | '\x7b' :: rest =>
      match depth with
      | 0 => none
      | depth + 1 => readObject? (readValue? depth) rest
    | _ => (Number.read? text).map fun (n, rest) => (.number n, rest)

/-- Reads a text that holds one document, nested at most `depth` deep, and
white space around it. -/
def readWithin? (depth : Nat) (text : String) : Option Json :=
  match readValue? depth (skipSpace text.toList) with
  | some (document, rest) => if skipSpace rest = [] then some document else none
  | none => none

def maxDepth : Nat := 127

/-- Reads a text that holds one document and white space around it. -/
def read? (text : String) : Option Json := readWithin? maxDepth text

end Json
end WideColumn
