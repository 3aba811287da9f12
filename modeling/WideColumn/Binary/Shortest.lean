import WideColumn.Binary.Format
/-!
# The shortest decimal of a binary number

A decimal `c · 10 ^ k` reads back as a binary number when it lies in the
interval of the reals that round to that number; the ends belong to it when
the significand is even. `shortest` takes the coarsest decimal grid that has
a point in the interval, and there the point nearest to the number, the even
one of two.
-/

namespace WideColumn.Shortest

/-- The reals that round to a number, in quarters of its last place: the
number itself and the two ends. -/
structure Interval where
  low : Nat
  value : Nat
  high : Nat
  closed : Bool
  /-- The exponent of the unit, which is `2 ^ unit`. -/
  unit : Int

/-- The interval of a positive magnitude. Below a power of two the grid is
twice as fine. -/
def Interval.ofMagnitude (format : BinaryFormat) (magnitude : Nat) : Interval :=
  let (m, q) := format.decode magnitude
  let narrow := m = format.hiddenBit ∧ format.minExponent < q
  { low := if narrow then 4 * m - 1 else 4 * m - 2
    value := 4 * m
    high := 4 * m + 2
    closed := m % 2 = 0
    unit := q - 2 }

namespace Interval

/-- How many units a step `10 ^ k` is, as a fraction. -/
def step (i : Interval) (k : Int) : Nat × Nat :=
  (powerOfTen k.toNat <<< (-i.unit).toNat, powerOfTen (-k).toNat <<< i.unit.toNat)

/-- Whether `c · 10 ^ k` lies in the interval. -/
def holds (i : Interval) (c : Nat) (k : Int) : Bool :=
  let (n, d) := i.step k
  if i.closed then i.low * d ≤ c * n && c * n ≤ i.high * d
  else i.low * d < c * n && c * n < i.high * d

/-- The point of the grid `10 ^ k` that reads back and lies nearest to the
number. -/
def nearest? (i : Interval) (k : Int) : Option Nat :=
  let (n, d) := i.step k
  let below := i.value * d / n
  match i.holds below k, i.holds (below + 1) k with
  | false, false => none
  | true, false => some below
  | false, true => some (below + 1)
  | true, true => some (roundHalfEven (i.value * d) n)

/-- Tries the grids from `10 ^ k` on downwards. -/
def search (i : Interval) : Nat → Int → Nat × Int
  | 0, k => (0, k)
  | tries + 1, k =>
    match i.nearest? k with
    | some c => (c, k)
    | none => search i tries (k - 1)

end Interval

/-- The digits and the exponent of the shortest decimal that reads back as a
positive finite magnitude. The search starts above the number and ends at the
seventeenth digit at the latest. -/
def decimal (format : BinaryFormat) (magnitude : Nat) : Nat × Int :=
  let i := Interval.ofMagnitude format magnitude
  let top := (i.value.log2 + i.unit) * 30103 / 100000 + 2
  i.search 32 top

end WideColumn.Shortest
