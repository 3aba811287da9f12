import WideColumn.Numeral
/-!
# Calendar dates

Dates of the proleptic Gregorian calendar, with a year zero. Days are
numbered from 1970-01-01. Counting years from March puts the leap day last,
so the day number is linear in the year, the month and the day up to floors,
and its inverse works within one cycle of 400 years.
-/

namespace WideColumn

/-- A date, valid or not. -/
structure Date where
  year : Int
  month : Nat
  day : Nat
deriving DecidableEq

namespace Date

/-- The first and the last year that are supported. -/
def firstYear : Int := -262143
def lastYear : Int := 262142

def isLeapYear (year : Int) : Bool := year % 4 = 0 ∧ (year % 100 ≠ 0 ∨ year % 400 = 0)

def daysInMonth (year : Int) (month : Nat) : Nat :=
  if month = 2 then if isLeapYear year then 29 else 28
  else if month = 4 ∨ month = 6 ∨ month = 9 ∨ month = 11 then 30
  else 31

/-- Whether a date is in the calendar and in a supported year. -/
def isValid (date : Date) : Bool :=
  firstYear ≤ date.year && date.year ≤ lastYear && 1 ≤ date.month && date.month ≤ 12 && 1 ≤ date.day &&
    date.day ≤ daysInMonth date.year date.month

/-- Days from 0000-03-01 to 1970-01-01. -/
def epoch : Int := 719468

/-- Days in 400 years. -/
def cycle : Int := 146097

/-- The number of days since 1970-01-01. -/
def dayNumber (date : Date) : Int :=
  let year := if date.month ≤ 2 then date.year - 1 else date.year
  let month : Int := if date.month ≤ 2 then date.month + 9 else date.month - 3
  365 * year + year / 4 - year / 100 + year / 400 + (153 * month + 2) / 5 + date.day - 1 - epoch

def ofDayNumber (number : Int) : Date :=
  let shifted := number + epoch
  let inCycle := shifted % cycle
  let year := (inCycle - inCycle / 1460 + inCycle / 36524 - inCycle / 146096) / 365
  let inYear := inCycle - (365 * year + year / 4 - year / 100)
  let month := (5 * inYear + 2) / 153
  let day := inYear - (153 * month + 2) / 5 + 1
  { year := year + 400 * (shifted / cycle) + if month < 10 then 0 else 1
    month := (if month < 10 then month + 3 else month - 9).toNat
    day := day.toNat }

/-! ## Text -/

/-- A year: four digits from 0 to 9999, and a sign and at least four digits
otherwise. -/
def yearText (year : Int) : List Char :=
  if 0 ≤ year ∧ year ≤ 9999 then Numeral.padded 4 year.toNat
  else (if year < 0 then '-' else '+') :: Numeral.padded 4 year.natAbs

/-- Year, month and day with hyphens between. -/
def text (date : Date) : List Char :=
  yearText date.year ++ '-' :: (Numeral.padded 2 date.month ++ '-' :: Numeral.padded 2 date.day)

/-- Reads at least one and at most `most` digits off the front of a text. -/
def takeNumber? (most : Nat) (text : List Char) : Option (Nat × List Char) :=
  let digits := (text.take most).takeWhile Char.isDigit
  if digits = [] then none else some (Numeral.value digits, text.drop digits.length)

/-- Reads a year off the front of a text: four digits at most, or any number
of them behind a sign. -/
def readYear? (text : List Char) : Option (Int × List Char) :=
  match text with
  | '-' :: rest => (takeNumber? rest.length rest).map fun (n, rest) => (-(n : Int), rest)
  | '+' :: rest => (takeNumber? rest.length rest).map fun (n, rest) => ((n : Int), rest)
  | _ => (takeNumber? 4 text).map fun (n, rest) => ((n : Int), rest)

/-- Reads a hyphen and then one or two digits, with blanks allowed between. -/
def readPart? : List Char → Option (Nat × List Char)
  | '-' :: rest => takeNumber? 2 (Text.trimStart rest)
  | _ => none

/-- Reads a date; each number may have blanks before it, and nothing may
follow. -/
def read? (text : List Char) : Option Date := do
  let (year, rest) ← readYear? (Text.trimStart text)
  let (month, rest) ← readPart? rest
  let (day, rest) ← readPart? rest
  let date : Date := ⟨year, month, day⟩
  if rest = [] ∧ date.isValid then some date else none

end Date
end WideColumn
