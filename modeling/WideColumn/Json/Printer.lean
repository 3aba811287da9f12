import WideColumn.Binary.Shortest
import WideColumn.Json.Basic
import WideColumn.Numeral
import WideColumn.Text.Hex
/-!
# Documents as text

`Json.text` is the compact form: no blanks, fields in order. `Json.indented`
puts every item and every field on a line of its own. Neither form ever holds
a raw control character.
-/

namespace WideColumn

/-- The digits of a float behind the letter of its exponent; the sign is
always written. -/
private def exponentText (exponent : Int) : List Char :=
  (if exponent < 0 then '-' else '+') :: Numeral.ofNat exponent.natAbs

/-- The text of `c · 10 ^ k`: positional with at least one fraction digit
from `0.00001` up to sixteen whole digits, and with one digit before the
point and an exponent otherwise. -/
def decimalText (c : Nat) (k : Int) : List Char :=
  let digits := Numeral.ofNat c
  let point := digits.length + k
  if 0 ≤ k ∧ point ≤ 16 then digits ++ List.replicate k.toNat '0' ++ ['.', '0']
  else if 0 < point ∧ point ≤ 16 then digits.take point.toNat ++ '.' :: digits.drop point.toNat
  else if -5 < point ∧ point ≤ 0 then '0' :: '.' :: (List.replicate (-point).toNat '0' ++ digits)
  else
    let fraction := if digits.length = 1 then [] else '.' :: digits.drop 1
    digits.take 1 ++ fraction ++ 'e' :: exponentText (point - 1)

/-- The text of a finite double: its sign and its shortest decimal. -/
def Binary64.text (x : Binary64) : List Char :=
  let magnitude :=
    if x.magnitude = 0 then ['0', '.', '0']
    else
      let (c, k) := Shortest.decimal BinaryFormat.double x.magnitude
      decimalText c k
  if x.isNegative then '-' :: magnitude else magnitude

def Number.text : Number → List Char
  | .integer n _ => Numeral.ofInt n
  | .float x _ => x.text

namespace Json

def escape (c : Char) : List Char :=
  if c = '"' then ['\\', '"']
  else if c = '\\' then ['\\', '\\']
  else if c = '\x08' then ['\\', 'b']
  else if c = '\x0c' then ['\\', 'f']
  else if c = '\n' then ['\\', 'n']
  else if c = '\r' then ['\\', 'r']
  else if c = '\t' then ['\\', 't']
  else if c.toNat < 0x20 then '\\' :: 'u' :: Hex.write 4 c.toNat
  else [c]

def quoted (s : String) : List Char := '"' :: (s.toList.flatMap escape ++ ['"'])

mutual

def write : Json → List Char
  | .null => ['n', 'u', 'l', 'l']
  | .bool true => ['t', 'r', 'u', 'e']
  | .bool false => ['f', 'a', 'l', 's', 'e']
  | .number n => n.text
  | .string s => quoted s
  | .array [] => ['[', ']']
  | .array (item :: items) => '[' :: (write item ++ writeItems items)
  | .object [] => ['\x7b', '\x7d']
  | .object ((name, value) :: fields) => '\x7b' :: (quoted name ++ ':' :: (write value ++ writeFields fields))

/-- The items after the first, and the closing bracket. -/
def writeItems : List Json → List Char
  | [] => [']']
  | item :: items => ',' :: (write item ++ writeItems items)

/-- The fields after the first, and the closing brace. -/
def writeFields : List (String × Json) → List Char
  | [] => ['\x7d']
  | (name, value) :: fields => ',' :: (quoted name ++ ':' :: (write value ++ writeFields fields))

end

def text (document : Json) : String := String.ofList document.write

/-- A new line, indented by two blanks per level. -/
def newLine (level : Nat) : List Char := '\n' :: List.replicate (2 * level) ' '

mutual

/-- The text of a document that starts at a level of indentation. -/
def writeIndented (level : Nat) : Json → List Char
  | .array [] => ['[', ']']
  | .array (item :: items) =>
    '[' :: (newLine (level + 1) ++ writeIndented (level + 1) item ++ writeItemsIndented level items)
  | .object [] => ['\x7b', '\x7d']
  | .object ((name, value) :: fields) =>
    '\x7b' :: (newLine (level + 1) ++ quoted name ++ ':' :: ' ' :: (writeIndented (level + 1) value ++
      writeFieldsIndented level fields))
  | .null => write .null
  | .bool b => write (.bool b)
  | .number n => write (.number n)
  | .string s => write (.string s)

/-- The items after the first, and the closing bracket on a line of its own. -/
def writeItemsIndented (level : Nat) : List Json → List Char
  | [] => newLine level ++ [']']
  | item :: items =>
    ',' :: (newLine (level + 1) ++ writeIndented (level + 1) item ++ writeItemsIndented level items)

/-- The fields after the first, and the closing brace on a line of its own. -/
def writeFieldsIndented (level : Nat) : List (String × Json) → List Char
  | [] => newLine level ++ ['\x7d']
  | (name, value) :: fields =>
    ',' :: (newLine (level + 1) ++ quoted name ++ ':' :: ' ' :: (writeIndented (level + 1) value ++
      writeFieldsIndented level fields))

end

/-- The text of a document with a line for every item and every field. -/
def indented (document : Json) : String := String.ofList (document.writeIndented 0)

end Json
end WideColumn
