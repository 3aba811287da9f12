/-!
# Blanks, words and pieces

White space is the class of the Unicode property of that name. Trimming drops
it at the ends of a text, `words` cuts a text at it, and `pieces` cuts a text
at one given character.
-/

namespace WideColumn.Text

/-- The characters with the property White_Space. -/
def isBlank (c : Char) : Bool :=
  let n := c.toNat
  (0x9 ≤ n && n ≤ 0xD) || n == 0x20 || n == 0x85 || n == 0xA0 || n == 0x1680 || (0x2000 ≤ n && n ≤ 0x200A) ||
    n == 0x2028 || n == 0x2029 || n == 0x202F || n == 0x205F || n == 0x3000

def trimStart (text : List Char) : List Char := text.dropWhile isBlank

def trimEnd (text : List Char) : List Char := (text.reverse.dropWhile isBlank).reverse

def trim (text : List Char) : List Char := trimEnd (trimStart text)

/-- The maximal runs of characters that are not blank. -/
def words : List Char → List (List Char)
  | [] => []
  | c :: rest =>
    if isBlank c then words rest
    else
      match rest, words rest with
      | next :: _, word :: more => if isBlank next then [c] :: word :: more else (c :: word) :: more
      | _, found => [c] :: found

/-- The parts between the occurrences of a separator: one more than there are
separators. -/
def pieces (separator : Char) : List Char → List (List Char)
  | [] => [[]]
  | c :: rest =>
    if c = separator then [] :: pieces separator rest
    else
      match pieces separator rest with
      | piece :: more => (c :: piece) :: more
      | [] => [[c]]

/-- The text before the first occurrence of a character, and the text after
it. -/
def splitFirst (separator : Char) : List Char → Option (List Char × List Char)
  | [] => none
  | c :: rest =>
    if c = separator then some ([], rest)
    else (splitFirst separator rest).map fun (before, after) => (c :: before, after)

/-- Letters of ASCII in lower case, all else unchanged. -/
def lowerAscii (text : List Char) : List Char := text.map Char.toLower

/-- Letters of ASCII in upper case, all else unchanged. -/
def upperAscii (text : List Char) : List Char := text.map Char.toUpper

theorem pieces_ne_nil (separator : Char) (text : List Char) : pieces separator text ≠ [] := by
  cases text with
  | nil => simp [pieces]
  | cons c rest =>
    simp only [pieces]
    split
    · simp
    · split <;> simp

end WideColumn.Text
