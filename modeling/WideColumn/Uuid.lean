import WideColumn.Text.Blank
import WideColumn.Text.Hex
/-!
# Universally unique identifiers

Identifiers of 128 bits. They are written as 32 lower-case digits in five
groups; the groups may be read in braces or behind the URN of identifiers, or
the digits without hyphens.
-/

namespace WideColumn

structure Uuid where
  bits : BitVec 128
deriving DecidableEq

namespace Uuid

/-- The version, which the high half of the seventh byte holds. Version 1 is
ordered by time. -/
def version (uuid : Uuid) : Nat := (uuid.bits >>> 76).toNat % 16

/-- A version 1 identifier, from a count of 100 nanoseconds since 1582-10-15,
a clock sequence and a node. -/
def timeBased (ticks clock node : Nat) : Uuid :=
  let low := BitVec.ofNat 32 ticks
  let mid := BitVec.ofNat 16 (ticks >>> 32)
  let high := BitVec.ofNat 12 (ticks >>> 48)
  ⟨low ++ mid ++ 1#4 ++ high ++ 2#2 ++ BitVec.ofNat 14 clock ++ BitVec.ofNat 48 node⟩

/-- Puts hyphens between the groups of 8, 4, 4, 4 and 12 digits. -/
def hyphenate (digits : List Char) : List Char :=
  digits.take 8 ++ '-' :: ((digits.drop 8).take 4 ++ '-' :: ((digits.drop 12).take 4 ++
    '-' :: ((digits.drop 16).take 4 ++ '-' :: digits.drop 20)))

/-- The digits in their groups. -/
def text (uuid : Uuid) : List Char := hyphenate (Hex.write 32 uuid.bits.toNat)

def readDigits? (digits : List Char) : Option Uuid :=
  if digits.length = 32 then (Hex.read? digits).map fun n => ⟨BitVec.ofNat 128 n⟩ else none

def readGroups? (text : List Char) : Option Uuid :=
  let digits := text.filter (· ≠ '-')
  if text = hyphenate digits then readDigits? digits else none

def urn : List Char := ['u', 'r', 'n', ':', 'u', 'u', 'i', 'd', ':']

/-- Reads an identifier in any of its forms, in letters of either case. -/
def read? (text : List Char) : Option Uuid :=
  if text.length = 32 then readDigits? text
  else if text.length = 36 then readGroups? text
  else if text.length = 38 ∧ text.head? = some '\x7b' ∧ text.getLast? = some '\x7d' then
    readGroups? (text.drop 1).dropLast
  else if text.length = 45 ∧ Text.lowerAscii (text.take 9) = urn then readGroups? (text.drop 9)
  else none

end Uuid
end WideColumn
