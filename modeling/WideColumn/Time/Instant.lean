import WideColumn.Time.Date
/-!
# Points in time

An instant is a number of seconds since 1970-01-01 and nanoseconds; a
thousand million nanoseconds or more stand for the leap second after the
second. Texts follow RFC 3339.
-/

namespace WideColumn

structure Instant where
  seconds : Int
  nanos : Nat
deriving DecidableEq

namespace Instant

def daySeconds : Int := 86400

def secondNanos : Nat := 1000000000

/-- The instants that are supported, in milliseconds. -/
def firstMillisecond : Int := -8334601228800000
def lastMillisecond : Int := 8210266876799999

/-- The instant a number of milliseconds after 1970, if it is supported. -/
def ofMilliseconds? (n : Int) : Option Instant :=
  if firstMillisecond ≤ n ∧ n ≤ lastMillisecond then some ⟨n / 1000, (n % 1000).toNat * 1000000⟩ else none

/-- The beginning of a day in universal time. -/
def ofDate (date : Date) : Instant := ⟨date.dayNumber * daySeconds, 0⟩

/-! ## Text -/

/-- Date and time of day in universal time, with milliseconds; smaller parts
are cut off. -/
def text (instant : Instant) : List Char :=
  let date := Date.ofDayNumber (instant.seconds / daySeconds)
  let inDay := (instant.seconds % daySeconds).toNat
  let second := inDay % 60 + instant.nanos / secondNanos
  let millis := instant.nanos % secondNanos / 1000000
  date.text ++ 'T' :: (Numeral.padded 2 (inDay / 3600) ++ ':' :: (Numeral.padded 2 (inDay / 60 % 60) ++
    ':' :: (Numeral.padded 2 second ++ '.' :: (Numeral.padded 3 millis ++ ['Z']))))

/-- Reads exactly `width` digits off the front of a text. -/
def takeDigits? (width : Nat) (text : List Char) : Option (Nat × List Char) :=
  let digits := text.take width
  if digits.length = width ∧ digits.all Char.isDigit then some (Numeral.value digits, text.drop width) else none

def takeChar? (c : Char) : List Char → Option (List Char)
  | d :: rest => if d = c then some rest else none
  | [] => none

/-- Reads the offset from universal time, in seconds, and the end of the
text. -/
def readOffset? : List Char → Option Int
  | ['Z'] | ['z'] => some 0
  | sign :: rest => do
    let factor : Int ← if sign = '+' then some 1 else if sign = '-' ∨ sign = '−' then some (-1) else none
    let (hours, rest) ← takeDigits? 2 rest
    let rest ← takeChar? ':' rest
    let (minutes, rest) ← takeDigits? 2 rest
    if rest = [] ∧ hours ≤ 23 ∧ minutes ≤ 59 then some (factor * (hours * 3600 + minutes * 60)) else none
  | [] => none

/-- Reads an optional fraction of a second, in nanoseconds; digits after the
ninth are dropped. -/
def readFraction? : List Char → Option (Nat × List Char)
  | '.' :: rest =>
    let digits := rest.takeWhile Char.isDigit
    let kept := digits.take 9
    if digits = [] then none
    else some (Numeral.value kept * powerOfTen (9 - kept.length), rest.dropWhile Char.isDigit)
  | text => some (0, text)

/-- Reads the instant that a date and a time of day with an offset denote.
Second 60 is the leap second after second 59. -/
def readTimestamp? (text : List Char) : Option Instant := do
  let (year, rest) ← takeDigits? 4 text
  let rest ← takeChar? '-' rest
  let (month, rest) ← takeDigits? 2 rest
  let rest ← takeChar? '-' rest
  let (day, rest) ← takeDigits? 2 rest
  let rest ←
    match rest with
    | c :: rest => if c = 'T' ∨ c = 't' ∨ c = ' ' then some rest else none
    | [] => none
  let (hour, rest) ← takeDigits? 2 rest
  let rest ← takeChar? ':' rest
  let (minute, rest) ← takeDigits? 2 rest
  let rest ← takeChar? ':' rest
  let (second, rest) ← takeDigits? 2 rest
  let (nanos, rest) ← readFraction? rest
  let offset ← readOffset? rest
  let date : Date := ⟨year, month, day⟩
  if date.isValid ∧ hour ≤ 23 ∧ minute ≤ 59 ∧ second ≤ 60 then
    let leap := second = 60
    let inDay := hour * 3600 + minute * 60 + if leap then 59 else second
    some
      { seconds := date.dayNumber * daySeconds + inDay - offset
        nanos := if leap then secondNanos + nanos else nanos }
  else none

/-- Reads an instant: a date with a time of day, or a date alone, which is
its beginning. -/
def read? (text : List Char) : Option Instant :=
  match readTimestamp? text with
  | some instant => some instant
  | none => (Date.read? text).map ofDate

end Instant
end WideColumn
