/-!
# Binary floating-point numbers

A finite magnitude of a binary format is `m · 2 ^ q`. The bits of a magnitude
are numbered in the order of the values, so rounding is: find `q`, round the
quotient to the even neighbour on a tie, and add up. All arithmetic is exact
on natural numbers until that one rounding.
-/

namespace WideColumn

def powerOfTen (n : Nat) : Nat := Nat.pow 10 n

/-- A binary format: the bits of the significand, the hidden one included,
and those of the exponent. -/
structure BinaryFormat where
  precision : Nat
  exponentBits : Nat

namespace BinaryFormat

/-- Double precision. -/
def double : BinaryFormat := ⟨53, 11⟩

/-- Single precision. -/
def single : BinaryFormat := ⟨24, 8⟩

variable (format : BinaryFormat)

/-- The exponent `q` of the least positive magnitude. -/
def minExponent : Int := 3 - (1 <<< (format.exponentBits - 1) : Nat) - format.precision

/-- The least significand of a number with a hidden bit. -/
def hiddenBit : Nat := 1 <<< (format.precision - 1)

/-- The bits of infinity. A larger magnitude is no number. -/
def infinity : Nat := (1 <<< format.exponentBits - 1) * format.hiddenBit

/-- The bits that stand for no number where one has to be chosen. -/
def nan : Nat := format.infinity + format.hiddenBit / 2

def signBit : Nat := format.hiddenBit <<< format.exponentBits

/-- The `m` and `q` of a finite magnitude `m · 2 ^ q`. -/
def decode (magnitude : Nat) : Nat × Int :=
  let exponent := magnitude / format.hiddenBit
  let fraction := magnitude % format.hiddenBit
  if exponent = 0 then (fraction, format.minExponent)
  else (format.hiddenBit + fraction, format.minExponent + (exponent - 1 : Int))

end BinaryFormat

/-- The integer nearest to `numerator / denominator`, the even one of two. -/
def roundHalfEven (numerator denominator : Nat) : Nat :=
  let quotient := numerator / denominator
  let twice := 2 * (numerator % denominator)
  if twice < denominator ∨ (twice = denominator ∧ quotient % 2 = 0) then quotient else quotient + 1

/-- `numerator / denominator` in units of `2 ^ exponent`, as a fraction
again. -/
def inUnits (numerator denominator : Nat) (exponent : Int) : Nat × Nat :=
  (numerator <<< (-exponent).toNat, denominator <<< exponent.toNat)

namespace BinaryFormat

variable (format : BinaryFormat)

/-- The exponent in whose units a positive quotient has a significand of full
precision, or the least exponent when the quotient is too small for that. -/
def exponentOf (numerator denominator : Nat) : Int :=
  let low : Int := numerator.log2 - denominator.log2 - format.precision
  let (n, d) := inUnits numerator denominator low
  max (if 1 <<< format.precision ≤ n / d then low + 1 else low) format.minExponent

/-- The magnitude nearest to `numerator / denominator`, with an even
significand on a tie; infinity when the quotient is too large. -/
def ofRatio (numerator denominator : Nat) : Nat :=
  if numerator = 0 then 0
  else
    let exponent := format.exponentOf numerator denominator
    let (n, d) := inUnits numerator denominator exponent
    min (roundHalfEven n d + (exponent - format.minExponent).toNat * format.hiddenBit) format.infinity

/-- The magnitude nearest to `m · 2 ^ q`. -/
def ofScaled (m : Nat) (q : Int) : Nat :=
  format.ofRatio (m <<< q.toNat) (1 <<< (-q).toNat)

/-- The magnitude nearest to `m · 10 ^ e`. Exponents at which every such
number is infinite or zero are not computed. -/
def ofDecimal (m : Nat) (e : Int) : Nat :=
  if m = 0 then 0
  else
    let digits : Int := (Nat.toDigits 10 m).length
    let widest : Int := (1 <<< format.exponentBits : Nat)
    if widest < digits + e then format.infinity
    else if digits + e < -widest then 0
    else format.ofRatio (m * powerOfTen e.toNat) (powerOfTen (-e).toNat)

/-- The magnitude nearest to a product of finite magnitudes. -/
def mul (a b : Nat) : Nat :=
  let (m, q) := format.decode a
  let (n, r) := format.decode b
  format.ofScaled (m * n) (q + r)

/-- The magnitude nearest to a quotient of finite magnitudes. -/
def div (a b : Nat) : Nat :=
  let (m, q) := format.decode a
  let (n, r) := format.decode b
  format.ofRatio (m <<< (q - r).toNat) (n <<< (r - q).toNat)

end BinaryFormat

/-- A double-precision number, by its bits. -/
structure Binary64 where
  bits : UInt64
deriving DecidableEq

namespace Binary64

def isNegative (x : Binary64) : Bool := BinaryFormat.double.signBit ≤ x.bits.toNat

/-- The bits without the sign. -/
def magnitude (x : Binary64) : Nat := x.bits.toNat % BinaryFormat.double.signBit

/-- Whether the number is neither infinite nor not a number. -/
def isFinite (x : Binary64) : Bool := x.magnitude < BinaryFormat.double.infinity

def isNaN (x : Binary64) : Bool := BinaryFormat.double.infinity < x.magnitude

def ofMagnitude (negative : Bool) (magnitude : Nat) : Binary64 :=
  ⟨UInt64.ofNat (magnitude + if negative then BinaryFormat.double.signBit else 0)⟩

def ofInt (n : Int) : Binary64 := ofMagnitude (n < 0) (BinaryFormat.double.ofRatio n.natAbs 1)

end Binary64

structure Binary32 where
  bits : UInt32
deriving DecidableEq

namespace Binary32

def isNegative (x : Binary32) : Bool := BinaryFormat.single.signBit ≤ x.bits.toNat

/-- The bits without the sign. -/
def magnitude (x : Binary32) : Nat := x.bits.toNat % BinaryFormat.single.signBit

def isNaN (x : Binary32) : Bool := BinaryFormat.single.infinity < x.magnitude

def ofMagnitude (negative : Bool) (magnitude : Nat) : Binary32 :=
  ⟨UInt32.ofNat (magnitude + if negative then BinaryFormat.single.signBit else 0)⟩

end Binary32

/-- A magnitude of one format in another: rounded when finite, and otherwise
infinite or no number alike. -/
def BinaryFormat.convert (source target : BinaryFormat) (magnitude : Nat) : Nat :=
  if magnitude < source.infinity then
    let (m, q) := source.decode magnitude
    target.ofScaled m q
  else if magnitude = source.infinity then target.infinity
  else target.nan

def Binary64.toBinary32 (x : Binary64) : Binary32 :=
  Binary32.ofMagnitude x.isNegative (BinaryFormat.double.convert BinaryFormat.single x.magnitude)

def Binary32.toBinary64 (x : Binary32) : Binary64 :=
  Binary64.ofMagnitude x.isNegative (BinaryFormat.single.convert BinaryFormat.double x.magnitude)

end WideColumn
