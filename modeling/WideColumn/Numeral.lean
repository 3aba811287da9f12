import WideColumn.Binary.Format
import WideColumn.Text.Blank
/-!
# Numbers as decimal text

Integers are written without leading zeros and read with an optional sign. A
real number is read as digits with an optional point and exponent, or as one
of the words for infinity and for no number.
-/

namespace WideColumn.Numeral

def ofNat (n : Nat) : List Char := Nat.toDigits 10 n

/-- The decimal digits of an integer behind its sign, which only a negative
number has. -/
def ofInt (n : Int) : List Char := if n < 0 then '-' :: ofNat n.natAbs else ofNat n.natAbs

/-- The digits of a natural number, with zeros in front up to a width. -/
def padded (width n : Nat) : List Char :=
  let digits := ofNat n
  List.replicate (width - digits.length) '0' ++ digits

/-- The number that a run of decimal digits denotes. -/
def value (digits : List Char) : Nat := Nat.ofDigitChars 10 digits 0

def natural? (text : List Char) : Option Nat :=
  if text ≠ [] ∧ text.all Char.isDigit then some (value text) else none

/-- Splits off an optional sign; true means minus. -/
def sign : List Char → Bool × List Char
  | '-' :: rest => (true, rest)
  | '+' :: rest => (false, rest)
  | text => (false, text)

/-- Reads an optional sign and one or more digits, and nothing else. -/
def integer? (text : List Char) : Option Int :=
  let (negative, digits) := sign text
  (natural? digits).map fun n => if negative then -(n : Int) else n

def int32? (text : List Char) : Option Int32 :=
  (integer? text).bind fun n =>
    if Int32.minValue.toInt ≤ n ∧ n ≤ Int32.maxValue.toInt then some (Int32.ofInt n) else none

def int64? (text : List Char) : Option Int64 :=
  (integer? text).bind fun n =>
    if Int64.minValue.toInt ≤ n ∧ n ≤ Int64.maxValue.toInt then some (Int64.ofInt n) else none

/-- Reads what follows the letter of an exponent: an optional sign and at
least one digit. What is left of the text comes along. -/
def exponent? (text : List Char) : Option (Int × List Char) :=
  let (negative, rest) := sign text
  let digits := rest.takeWhile Char.isDigit
  if digits = [] then none
  else
    let n : Int := value digits
    some (if negative then -n else n, rest.dropWhile Char.isDigit)

/-- Reads the end of a decimal: nothing, or an exponent. -/
def finalExponent? : List Char → Option Int
  | [] => some 0
  | c :: rest =>
    if c = 'e' ∨ c = 'E' then
      match exponent? rest with
      | some (e, []) => some e
      | _ => none
    else none

/-- Reads the magnitude of a decimal, with digits before or after an optional
point. -/
def decimal? (text : List Char) : Option Nat :=
  let whole := text.takeWhile Char.isDigit
  let rest := text.dropWhile Char.isDigit
  let (fraction, tail) :=
    match rest with
    | '.' :: more => (more.takeWhile Char.isDigit, more.dropWhile Char.isDigit)
    | _ => ([], rest)
  if whole = [] ∧ fraction = [] then none
  else
    (finalExponent? tail).map fun e =>
      BinaryFormat.double.ofDecimal (value (whole ++ fraction)) (e - fraction.length)

/-- Reads the magnitude of a real number: a decimal, or a word in letters of
either case. -/
def magnitude? (text : List Char) : Option Nat :=
  let word := String.ofList (Text.lowerAscii text)
  if word = "inf" ∨ word = "infinity" then some BinaryFormat.double.infinity
  else if word = "nan" then some BinaryFormat.double.nan
  else decimal? text

/-- Reads the double nearest to a real number in text. -/
def real? (text : List Char) : Option Binary64 :=
  let (negative, rest) := sign text
  (magnitude? rest).map (Binary64.ofMagnitude negative)

/-! ## Integers read back -/

theorem isDigit_of_mem_ofNat {n : Nat} {c : Char} (h : c ∈ ofNat n) : c.isDigit = true :=
  Nat.isDigit_of_mem_toDigits (by decide) (by decide) h

end WideColumn.Numeral
