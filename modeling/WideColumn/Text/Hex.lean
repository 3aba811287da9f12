/-!
# Hexadecimal digits

Numbers of a fixed width and byte strings as hexadecimal digits: lower case
is written, either case is read.
-/

namespace WideColumn.Hex

def digit (value : Nat) : Char :=
  if value < 10 then Char.ofNat (0x30 + value) else Char.ofNat (0x57 + value)

/-- The value of a digit of either case. -/
def value? (c : Char) : Option Nat :=
  let n := c.toNat
  if 0x30 ≤ n ∧ n ≤ 0x39 then some (n - 0x30)
  else if 0x61 ≤ n ∧ n ≤ 0x66 then some (n - 0x57)
  else if 0x41 ≤ n ∧ n ≤ 0x46 then some (n - 0x37)
  else none

/-- The last `width` digits of a number. -/
def write : Nat → Nat → List Char
  | 0, _ => []
  | width + 1, number => write width (number / 16) ++ [digit (number % 16)]

/-- Reads further digits behind the number read so far. -/
def readFrom (number : Nat) : List Char → Option Nat
  | [] => some number
  | c :: rest => (value? c).bind fun v => readFrom (16 * number + v) rest

/-- The number that digits denote; nothing but digits is accepted. -/
def read? (digits : List Char) : Option Nat := readFrom 0 digits

def writeBytes (bytes : List UInt8) : List Char := bytes.flatMap fun byte => write 2 byte.toNat

def readBytes? : List Char → Option (List UInt8)
  | [] => some []
  | [_] => none
  | high :: low :: rest => do
    let byte ← read? [high, low]
    let bytes ← readBytes? rest
    return UInt8.ofNat byte :: bytes

theorem value?_digit {value : Nat} (h : value < 16) : value? (digit value) = some value := by
  have : ∀ v : Fin 16, value? (digit v.val) = some v.val := by decide
  exact this ⟨value, h⟩

theorem readFrom_append (number : Nat) (front back : List Char) :
    readFrom number (front ++ back) = (readFrom number front).bind fun n => readFrom n back := by
  induction front generalizing number with
  | nil => rfl
  | cons c front ih =>
    simp only [List.cons_append, readFrom]
    cases value? c <;> simp [ih]

theorem readFrom_write (number width value : Nat) :
    readFrom number (write width value) = some (Nat.pow 16 width * number + value % Nat.pow 16 width) := by
  induction width generalizing value with
  | zero => simp [write, readFrom, Nat.mod_one]
  | succ width ih =>
    rw [write, readFrom_append, ih]
    simp only [Option.bind_some, readFrom, value?_digit (Nat.mod_lt _ (by decide : 16 > 0))]
    congr 1
    have h0 : Nat.pow 16 (width + 1) = 16 * Nat.pow 16 width := Nat.mul_comm _ _
    have h1 : value % (16 * Nat.pow 16 width) = 16 * (value / 16 % Nat.pow 16 width) + value % 16 := by
      rw [Nat.mod_mul]; omega
    rw [h0, h1, Nat.mul_add, ← Nat.mul_assoc]
    omega

theorem length_write (width value : Nat) : (write width value).length = width := by
  induction width generalizing value with
  | zero => rfl
  | succ width ih => simp [write, ih]

theorem read?_write {width value : Nat} (h : value < Nat.pow 16 width) :
    read? (write width value) = some value := by
  rw [read?, readFrom_write, Nat.mod_eq_of_lt h, Nat.mul_zero, Nat.zero_add]

end WideColumn.Hex
