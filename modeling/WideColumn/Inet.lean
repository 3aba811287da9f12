import WideColumn.Numeral
import WideColumn.Text.Hex
/-!
# Network addresses

Addresses of version 4 are four decimal bytes. Those of version 6 are eight
groups of hexadecimal digits, in which one run of zero groups may be left
out, and the last two groups may be written as four bytes.
-/

namespace WideColumn

inductive Inet where
  | v4 (a b c d : UInt8)
  | v6 (groups : Vector UInt16 8)
deriving DecidableEq

namespace Inet

/-! ## Reading -/

/-- Reads a decimal byte without leading zeros. -/
def readByte? (text : List Char) : Option UInt8 :=
  if text.length ≤ 3 ∧ (text.head? ≠ some '0' ∨ text = ['0']) then
    (Numeral.natural? text).bind fun n => if n < 256 then some (UInt8.ofNat n) else none
  else none

def readBytes? (text : List Char) : Option (UInt8 × UInt8 × UInt8 × UInt8) :=
  match Text.pieces '.' text with
  | [a, b, c, d] => do return (← readByte? a, ← readByte? b, ← readByte? c, ← readByte? d)
  | _ => none

def readGroup? (text : List Char) : Option UInt16 :=
  if text ≠ [] ∧ text.length ≤ 4 then (Hex.read? text).map UInt16.ofNat else none

def group (high low : UInt8) : UInt16 := UInt16.ofNat (256 * high.toNat + low.toNat)

/-- Reads groups, of which the last two may be written as four bytes if
`tail` holds. -/
def readGroups? (tail : Bool) : List (List Char) → Option (List UInt16)
  | [] => some []
  | [last] =>
    match readGroup? last with
    | some g => some [g]
    | none => if tail then (readBytes? last).map fun (a, b, c, d) => [group a b, group c d] else none
  | first :: rest => do return (← readGroup? first) :: (← readGroups? tail rest)

/-- The groups of a text without an omission; an empty text has none. -/
def readPart? (tail : Bool) (text : List Char) : Option (List UInt16) :=
  if text = [] then some [] else readGroups? tail (Text.pieces ':' text)

/-- The text before the first two colons in a row and the text after them. -/
def splitOmission? : List Char → Option (List Char × List Char)
  | ':' :: ':' :: rest => some ([], rest)
  | c :: rest => (splitOmission? rest).map fun (before, after) => (c :: before, after)
  | [] => none

def ofGroups? (groups : List UInt16) : Option Inet :=
  if h : groups.length = 8 then some (.v6 ⟨groups.toArray, by simpa using h⟩) else none

/-- Reads an address of version 6. An omission stands for at least one group. -/
def readV6? (text : List Char) : Option Inet :=
  match splitOmission? text with
  | some (before, after) => do
    let front ← readPart? false before
    let back ← readPart? true after
    if front.length + back.length ≤ 7 then
      ofGroups? (front ++ List.replicate (8 - front.length - back.length) 0 ++ back)
    else none
  | none => (readGroups? true (Text.pieces ':' text)).bind ofGroups?

def read? (text : List Char) : Option Inet :=
  match readBytes? text with
  | some (a, b, c, d) => some (.v4 a b c d)
  | none => readV6? text

/-! ## Writing -/

def bytesText (a b c d : UInt8) : List Char :=
  Numeral.ofNat a.toNat ++ '.' :: (Numeral.ofNat b.toNat ++ '.' :: (Numeral.ofNat c.toNat ++
    '.' :: Numeral.ofNat d.toNat))

/-- A group without leading zeros. -/
def groupText (g : UInt16) : List Char := Nat.toDigits 16 g.toNat

def groupsText (groups : List UInt16) : List Char := [':'].intercalate (groups.map groupText)

/-- The length of the run of zeros at the front. -/
def zeroRun (groups : List UInt16) : Nat := (groups.takeWhile (· == 0)).length

/-- Where the first longest run of zeros starts among groups, and its length. -/
def longestZeroRun : List UInt16 → Nat × Nat
  | [] => (0, 0)
  | g :: rest =>
    let here := zeroRun (g :: rest)
    let (start, length) := longestZeroRun rest
    if length ≤ here then (0, here) else (start + 1, length)

/-- The text of an address: lower case, the first longest run of two or more
zero groups left out, and an address of version 4 in one of version 6 as four
bytes. -/
def text : Inet → List Char
  | .v4 a b c d => bytesText a b c d
  | .v6 groups =>
    match groups.toList with
    | [0, 0, 0, 0, 0, 0xFFFF, high, low] =>
      [':', ':', 'f', 'f', 'f', 'f', ':'] ++
        bytesText (UInt8.ofNat (high.toNat / 256)) (UInt8.ofNat high.toNat) (UInt8.ofNat (low.toNat / 256))
          (UInt8.ofNat low.toNat)
    | groups =>
      let (start, length) := longestZeroRun groups
      if length < 2 then groupsText groups
      else groupsText (groups.take start) ++ ':' :: ':' :: groupsText (groups.drop (start + length))

end Inet
end WideColumn
