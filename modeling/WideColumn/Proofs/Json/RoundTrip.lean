import WideColumn.Json.Printer
import WideColumn.Json.Reader
import WideColumn.Proofs.Fields
import WideColumn.Proofs.Numeral
/-!
# Documents read back from their text

The compact text of a document is read as that document, whatever follows it,
as long as its numbers are integers, its objects name nothing twice and it is
not nested too deep. `read?_text` is the whole text, `readValue?_write` a
document in front of other text, which is how arrays and objects are taken
apart.
-/

namespace WideColumn

/-- What may follow a number: nothing, a comma or a closing bracket. -/
def Delimits (rest : List Char) : Prop :=
  rest = [] ∨ ∃ c more, rest = c :: more ∧ (c = ',' ∨ c = ']' ∨ c = '\x7d')

/-! ## Numbers -/

theorem Delimits.not_digit {rest : List Char} (h : Delimits rest) :
    rest.takeWhile Char.isDigit = [] ∧ rest.dropWhile Char.isDigit = rest := by
  rcases h with rfl | ⟨c, more, rfl, rfl | rfl | rfl⟩ <;> exact ⟨rfl, rfl⟩

namespace Number

theorem wholeLiteral?_ofNat (negative : Bool) (k : Nat) (hk : negative = true → k ≠ 0) {n : Int}
    (hn : n = if negative then -(k : Int) else k)
    (fits : -0x8000000000000000 ≤ n ∧ n < 0x10000000000000000) :
    wholeLiteral? negative (Numeral.ofNat k) = some (.integer n fits) := by
  subst hn
  have hv := Numeral.value_ofNat k
  simp only [wholeLiteral?, hv]
  rw [if_neg (fun h => hk h.1 h.2)]
  simp only [ofInt?, dif_pos fits]

/-- Behind the sign: digits of a number in front of a delimiter. -/
theorem read?_unsigned {text : List Char} (negative : Bool) (k : Nat) {rest : List Char}
    (h : Delimits rest)
    (hsign : text = (if negative then ['-'] else []) ++ (Numeral.ofNat k ++ rest)) :
    read? text = (wholeLiteral? negative (Numeral.ofNat k)).map (·, rest) := by
  have htake : (Numeral.ofNat k ++ rest).takeWhile Char.isDigit = Numeral.ofNat k := by
    rw [List.takeWhile_append_of_pos (List.all_eq_true.1 (Numeral.all_isDigit_ofNat k)), h.not_digit.1,
      List.append_nil]
  have hdrop : (Numeral.ofNat k ++ rest).dropWhile Char.isDigit = rest := by
    rw [List.dropWhile_append_of_pos (List.all_eq_true.1 (Numeral.all_isDigit_ofNat k)), h.not_digit.2]
  have hwhole :
      ¬(Numeral.ofNat k = [] ∨ (Numeral.ofNat k).head? = some '0' ∧ Numeral.ofNat k ≠ ['0']) := by
    rintro (he | ⟨hz, hne⟩)
    · exact Numeral.ofNat_ne_nil k he
    · exact hne (Numeral.ofNat_eq_zero_of_head? hz)
  unfold read?
  split
  next sign unsigned heq =>
    have hparts : sign = negative ∧ unsigned = Numeral.ofNat k ++ rest := by
      subst hsign
      -- without a minus the text begins with a digit, so the sign is not read
      cases negative with
      | true =>
        cases heq
        exact ⟨rfl, rfl⟩
      | false =>
        split at heq
        · next more he =>
          exact absurd he (Numeral.ofNat_append_ne_cons (by decide) k rest more)
        · cases heq
          exact ⟨rfl, rfl⟩
    obtain ⟨rfl, rfl⟩ := hparts
    simp only [htake, hdrop, if_neg hwhole]
    -- no delimiter begins a fraction or an exponent
    rcases h with rfl | ⟨c, more, rfl, rfl | rfl | rfl⟩ <;> rfl

/-- The text of an integer is read as that integer. -/
theorem read?_ofInt {n : Int} (fits : -0x8000000000000000 ≤ n ∧ n < 0x10000000000000000)
    {rest : List Char}
    (h : Delimits rest) : read? (Numeral.ofInt n ++ rest) = some (.integer n fits, rest) := by
  by_cases hn : n < 0
  · have habs : n = if true then -(n.natAbs : Int) else n.natAbs := by
      rw [if_pos rfl]
      omega
    have hsign : Numeral.ofInt n ++ rest = ['-'] ++ (Numeral.ofNat n.natAbs ++ rest) := by
      rw [Numeral.ofInt, if_pos hn]
      rfl
    rw [read?_unsigned true n.natAbs h hsign,
      wholeLiteral?_ofNat true n.natAbs (fun _ => by omega) habs fits]
    rfl
  · have habs : n = if false = true then -(n.natAbs : Int) else n.natAbs := by
      rw [if_neg Bool.false_ne_true]
      omega
    have hsign : Numeral.ofInt n ++ rest = [] ++ (Numeral.ofNat n.natAbs ++ rest) := by
      rw [Numeral.ofInt, if_neg hn]
      rfl
    rw [read?_unsigned false n.natAbs h hsign, wholeLiteral?_ofNat false n.natAbs (by simp) habs fits]
    rfl

end Number

namespace Json

/-! ## Strings -/

theorem hex4?_write {n : Nat} (h : n < 0x10000) (rest : List Char) :
    hex4? (Hex.write 4 n ++ rest) = some (n, rest) := by
  have hread : Hex.read? (Hex.write 4 n) = some n := Hex.read?_write h
  simp only [Hex.write, List.nil_append, List.cons_append] at hread ⊢
  simp only [hex4?, hread, Option.map_some]

/-- A control character is written with four digits. -/
theorem readUnicode?_write {c : Char} (h : c.toNat < 0x20) (rest : List Char) :
    readUnicode? (Hex.write 4 c.toNat ++ rest) = some (c, rest) := by
  have hhigh : ¬(0xD800 ≤ c.toNat ∧ c.toNat < 0xDC00) := by omega
  have hlow : ¬(0xDC00 ≤ c.toNat ∧ c.toNat < 0xE000) := by omega
  rw [readUnicode?, hex4?_write (by omega), Option.bind_some]
  simp only [if_neg hhigh, if_neg hlow, Char.ofNat_toNat]

theorem readChar?_escape (c : Char) (rest : List Char) :
    readChar? (escape c ++ rest) = some (c, rest) := by
  unfold escape
  split
  · next h => subst h; rfl
  split
  · next h => subst h; rfl
  split
  · next h => subst h; rfl
  split
  · next h => subst h; rfl
  split
  · next h => subst h; rfl
  split
  · next h => subst h; rfl
  split
  · next h => subst h; rfl
  split
  · next h => exact readUnicode?_write h rest
  · next hslash _ _ _ _ _ hcontrol =>
    -- an unescaped character is neither a quote nor a backslash
    simp only [List.cons_append, List.nil_append]
    unfold readChar?
    split <;> simp_all

/-- What stands for a character never begins with a quote, so it cannot end
the string. -/
theorem escape_ne_quote (c : Char) (rest more : List Char) : escape c ++ rest ≠ '"' :: more := by
  unfold escape
  repeat' split
  all_goals simp_all

theorem length_escape_pos (c : Char) : 0 < (escape c).length := by
  unfold escape
  repeat' split
  all_goals simp

theorem readChars?_escape (chars : List Char) (rest : List Char) {fuel : Nat}
    (h : chars.length < fuel) :
    readChars? fuel (chars.flatMap escape ++ '"' :: rest) = some (chars, rest) := by
  induction chars generalizing fuel with
  | nil =>
    -- one step is left for the closing quote
    obtain ⟨fuel, rfl⟩ : ∃ f, fuel = f + 1 := ⟨fuel - 1, by omega⟩
    rfl
  | cons c chars ih =>
    obtain ⟨fuel, rfl⟩ : ∃ f, fuel = f + 1 := ⟨fuel - 1, by omega⟩
    have hrest := @ih fuel (by simpa using h)
    rw [List.flatMap_cons, List.append_assoc, readChars?]
    · rw [readChar?_escape, Option.bind_some]
      simp only [hrest, Option.map_some]
    · intro more
      exact escape_ne_quote c _ more

theorem length_le_flatMap_escape (chars : List Char) :
    chars.length ≤ (chars.flatMap escape).length := by
  induction chars with
  | nil => exact Nat.le_refl 0
  | cons c chars ih =>
    have := length_escape_pos c
    simp only [List.flatMap_cons, List.length_append, List.length_cons]
    omega

/-- A string in quotes is read up to its closing quote. -/
theorem readString?_escape (s : String) (rest : List Char) :
    readString? (s.toList.flatMap escape ++ '"' :: rest) = some (s, rest) := by
  have := length_le_flatMap_escape s.toList
  rw [readString?, readChars?_escape _ _ (by simp only [List.length_append]; omega)]
  simp only [Option.map_some, String.ofList_toList]

/-! ## Documents that read back -/

mutual

/-- How deep arrays and objects are nested. -/
def depth : Json → Nat
  | .array items => depthOfItems items + 1
  | .object fields => depthOfFields fields + 1
  | _ => 0

/-- How deep the deepest item is nested. -/
def depthOfItems : List Json → Nat
  | [] => 0
  | item :: items => max (depth item) (depthOfItems items)

/-- How deep the deepest field is nested. -/
def depthOfFields : List (String × Json) → Nat
  | [] => 0
  | (_, value) :: fields => max (depth value) (depthOfFields fields)

end

mutual

/-- Whether all numbers are integers and no object names anything twice. -/
def isExact : Json → Bool
  | .number (.float _ _) => false
  | .array items => areExact items
  | .object fields => decide (Fields.names fields).Nodup && haveExact fields
  | _ => true

/-- Whether all items are exact. -/
def areExact : List Json → Bool
  | [] => true
  | item :: items => isExact item && areExact items

/-- Whether the values of all fields are exact. -/
def haveExact : List (String × Json) → Bool
  | [] => true
  | (_, value) :: fields => isExact value && haveExact fields

end

/-! ## Documents -/

theorem not_space_of_sign_or_digit {c : Char} (h : c = '-' ∨ c.isDigit = true) :
    isSpace c = false ∧ c ≠ ']' := by
  refine ⟨?_, ?_⟩
  · cases hs : isSpace c with
    | false => rfl
    | true =>
      simp only [isSpace, Bool.or_eq_true, beq_iff_eq] at hs
      rcases hs with ((rfl | rfl) | rfl) | rfl <;> revert h <;> decide
  · rintro rfl
    revert h
    decide

/-- A document is written from a character on that is neither white space nor
a closing bracket. -/
theorem write_eq_cons {document : Json} (h : document.isExact = true) :
    ∃ c more, document.write = c :: more ∧ isSpace c = false ∧ c ≠ ']' := by
  cases document with
  | null => exact ⟨_, _, rfl, by decide, by decide⟩
  | bool b => cases b <;> exact ⟨_, _, rfl, by decide, by decide⟩
  | number n =>
    cases n with
    | integer n fits =>
      obtain ⟨c, more, he, hc⟩ := Numeral.ofInt_eq_cons n
      exact ⟨c, more, he, not_space_of_sign_or_digit hc⟩
    | float x finite => cases h
  | string s => exact ⟨_, _, rfl, by decide, by decide⟩
  | array items => cases items <;> exact ⟨_, _, rfl, by decide, by decide⟩
  | object fields =>
    rcases fields with _ | ⟨⟨name, value⟩, fields⟩ <;> exact ⟨_, _, rfl, by decide, by decide⟩

theorem delimits_writeItems (items : List Json) (rest : List Char) :
    Delimits (writeItems items ++ rest) := by
  cases items with
  | nil => exact .inr ⟨']', rest, rfl, .inr (.inl rfl)⟩
  | cons item items => exact .inr ⟨',', _, rfl, .inl rfl⟩

theorem delimits_writeFields (fields : List (String × Json)) (rest : List Char) :
    Delimits (writeFields fields ++ rest) := by
  cases fields with
  | nil => exact .inr ⟨'\x7d', rest, rfl, .inr (.inr rfl)⟩
  | cons field fields => exact .inr ⟨',', _, rfl, .inl rfl⟩

theorem length_lt_writeItems (items : List Json) : items.length < (writeItems items).length := by
  induction items with
  | nil => exact Nat.one_pos
  | cons item items ih =>
    simp only [writeItems, List.length_cons, List.length_append]
    omega

theorem length_lt_writeFields (fields : List (String × Json)) :
    fields.length < (writeFields fields).length := by
  induction fields with
  | nil => exact Nat.one_pos
  | cons field fields ih =>
    simp only [writeFields, List.length_cons, List.length_append]
    omega

/-- A document stands where white space ends, and no closing bracket does. -/
theorem skipSpace_write {document : Json} (h : document.isExact = true) (rest : List Char) :
    skipSpace (document.write ++ rest) = document.write ++ rest ∧
      ∀ more, document.write ++ rest ≠ ']' :: more := by
  obtain ⟨c, chars, he, hs, hne⟩ := write_eq_cons h
  rw [he, List.cons_append]
  refine ⟨by rw [skipSpace, List.dropWhile_cons_of_neg (by simp [hs])], fun more heq => ?_⟩
  cases heq
  exact hne rfl

theorem readValue?_number {depth : Nat} {c : Char} {more : List Char} (h : c = '-' ∨ c.isDigit = true) :
    readValue? depth (c :: more) =
      (Number.read? (c :: more)).map fun (n, rest) => (.number n, rest) := by
  rw [readValue?] <;> (rintro _ ⟨⟩; revert h; decide)

/-! ### One step of reading -/

section Steps

variable {item : List Char → Option (Json × List Char)} {text rest after : List Char} {value : Json}
variable {values : List Json} {name : String} {entries : List (String × Json)}

/-- An array is read by its first item and the items behind it. -/
theorem readArray?_first (hskip : skipSpace text = text) (hfirst : ∀ more, text ≠ ']' :: more) :
    readArray? item text = (item text).bind fun (value, rest) =>
      (readItems? item rest.length rest).map fun (values, rest) => (.array (value :: values), rest) := by
  rw [readArray?, hskip]
  split
  · next more => exact absurd rfl (hfirst more)
  · rfl

theorem readItems?_comma {fuel : Nat} (hskip : skipSpace text = text) :
    readItems? item (fuel + 1) (',' :: text) = (item text).bind fun (value, rest) =>
      (readItems? item fuel rest).map fun (values, rest) => (value :: values, rest) := by
  have hcomma : skipSpace (',' :: text) = ',' :: text := rfl
  simp only [readItems?, hcomma, hskip]

theorem readField?_colon (hskip : skipSpace text = text) :
    readField? item (quoted name ++ ':' :: text) =
      (item text).map fun (value, rest) => ((name, value), rest) := by
  have hcolon : skipSpace (':' :: text) = ':' :: text := rfl
  simp only [quoted, List.cons_append, List.append_assoc, List.nil_append, readField?,
    readString?_escape, Option.bind_some, hcolon, hskip]

theorem readFields?_comma {fuel : Nat} (hskip : skipSpace text = text) :
    readFields? item (fuel + 1) (',' :: (quoted name ++ ':' :: text)) =
      (item text).bind fun (value, rest) =>
        (readFields? item fuel rest).map fun (entries, rest) => ((name, value) :: entries, rest) := by
  have hcomma :
      skipSpace (',' :: (quoted name ++ ':' :: text)) = ',' :: (quoted name ++ ':' :: text) := rfl
  have hquote : skipSpace (quoted name ++ ':' :: text) = quoted name ++ ':' :: text := rfl
  simp only [readFields?, hcomma, hquote, readField?_colon hskip, Option.bind_map]
  rfl

/-- An object is read by its first field and the fields behind it. -/
theorem readObject?_first (hskip : skipSpace text = text) :
    readObject? item (quoted name ++ ':' :: text) = (item text).bind fun (value, rest) =>
      (readFields? item rest.length rest).map fun (entries, rest) =>
        (.object (Fields.ofEntries ((name, value) :: entries)), rest) := by
  have hquote : skipSpace (quoted name ++ ':' :: text) = quoted name ++ ':' :: text := rfl
  rw [readObject?, hquote]
  split
  · next heq => cases heq
  · simp only [readField?_colon hskip, Option.bind_map]
    rfl

theorem readArray?_cons (hskip : skipSpace text = text) (hfirst : ∀ more, text ≠ ']' :: more)
    (hvalue : item text = some (value, rest))
    (hvalues : readItems? item rest.length rest = some (values, after)) :
    readArray? item text = some (.array (value :: values), after) := by
  rw [readArray?_first hskip hfirst, hvalue, Option.bind_some]
  simp only [hvalues, Option.map_some]

theorem readItems?_cons {fuel : Nat} (hskip : skipSpace text = text)
    (hvalue : item text = some (value, rest))
    (hvalues : readItems? item fuel rest = some (values, after)) :
    readItems? item (fuel + 1) (',' :: text) = some (value :: values, after) := by
  rw [readItems?_comma hskip, hvalue, Option.bind_some]
  simp only [hvalues, Option.map_some]

theorem readFields?_cons {fuel : Nat} (hskip : skipSpace text = text)
    (hvalue : item text = some (value, rest))
    (hentries : readFields? item fuel rest = some (entries, after)) :
    readFields? item (fuel + 1) (',' :: (quoted name ++ ':' :: text)) =
      some ((name, value) :: entries, after) := by
  rw [readFields?_comma hskip, hvalue, Option.bind_some]
  simp only [hentries, Option.map_some]

theorem readObject?_cons (hskip : skipSpace text = text) (hvalue : item text = some (value, rest))
    (hentries : readFields? item rest.length rest = some (entries, after))
    (hnames : (Fields.names ((name, value) :: entries)).Nodup) :
    readObject? item (quoted name ++ ':' :: text) =
      some (.object ((name, value) :: entries), after) := by
  rw [readObject?_first hskip, hvalue, Option.bind_some]
  simp only [hentries, Option.map_some, Fields.ofEntries_eq_self hnames]

end Steps

/-! ### Whole documents -/

mutual

/-- A document in front of a delimiter is read as it was written. -/
theorem readValue?_write :
    ∀ (document : Json) (depth : Nat) (rest : List Char), document.isExact = true →
    document.depth ≤ depth → Delimits rest →
      readValue? depth (document.write ++ rest) = some (document, rest)
  | .null, _, _, _, _, _ => by simp [write, readValue?]
  | .bool true, _, _, _, _, _ => by simp [write, readValue?]
  | .bool false, _, _, _, _, _ => by simp [write, readValue?]
  | .number (.integer n fits), _, rest, _, _, hr => by
    obtain ⟨c, more, he, hc⟩ := Numeral.ofInt_eq_cons n
    have hread := Number.read?_ofInt fits hr
    simp only [write, Number.text]
    rw [he, List.cons_append] at hread ⊢
    rw [readValue?_number hc, hread, Option.map_some]
  | .string s, _, rest, _, _, _ => by
    simp [write, readValue?, quoted, readString?_escape]
  | .array [], depth + 1, rest, _, _, _ => by
    simp [write, readValue?, readArray?, skipSpace, isSpace]
  | .array (item :: items), depth + 1, rest, he, hd, _ => by
    simp only [isExact, areExact, Bool.and_eq_true] at he
    simp only [Json.depth, depthOfItems] at hd
    -- a comma or the closing bracket delimits the first item
    have hlength := length_lt_writeItems items
    have hitem := readValue?_write item depth _ he.1 (by omega) (delimits_writeItems items rest)
    have hitems := readItems?_write items depth (writeItems items ++ rest).length rest
      he.2 (by omega) (by rw [List.length_append]; omega)
    obtain ⟨hskip, hfirst⟩ := skipSpace_write he.1 (writeItems items ++ rest)
    simp only [write, List.cons_append, List.append_assoc, readValue?]
    exact readArray?_cons hskip hfirst hitem hitems
  | .object [], depth + 1, rest, _, _, _ => by
    simp [write, readValue?, readObject?, skipSpace, isSpace]
  | .object ((name, value) :: fields), depth + 1, rest, he, hd, _ => by
    simp only [isExact, haveExact, Bool.and_eq_true, decide_eq_true_eq] at he
    simp only [Json.depth, depthOfFields] at hd
    have hlength := length_lt_writeFields fields
    have hvalue := readValue?_write value depth _ he.2.1 (by omega) (delimits_writeFields fields rest)
    have hfields := readFields?_write fields depth (writeFields fields ++ rest).length rest
      he.2.2 (by omega) (by rw [List.length_append]; omega)
    obtain ⟨hskip, -⟩ := skipSpace_write he.2.1 (writeFields fields ++ rest)
    simp only [write, List.cons_append, List.append_assoc, readValue?]
    exact readObject?_cons hskip hvalue hfields he.1
  -- a document that is nested has some depth left
  | .array _, 0, _, _, hd, _ => by simp [Json.depth] at hd
  | .object _, 0, _, _, hd, _ => by simp [Json.depth] at hd

theorem readItems?_write :
    ∀ (items : List Json) (depth fuel : Nat) (rest : List Char), areExact items = true →
    depthOfItems items ≤ depth → items.length < fuel →
    readItems? (readValue? depth) fuel (writeItems items ++ rest) = some (items, rest)
  | [], _, fuel + 1, rest, _, _, _ => by simp [writeItems, readItems?, skipSpace, isSpace]
  | item :: items, depth, fuel + 1, rest, he, hd, hf => by
    simp only [areExact, Bool.and_eq_true] at he
    simp only [depthOfItems] at hd
    have hitem := readValue?_write item depth _ he.1 (by omega) (delimits_writeItems items rest)
    have hitems := readItems?_write items depth fuel rest he.2 (by omega)
      (by simpa using hf)
    obtain ⟨hskip, -⟩ := skipSpace_write he.1 (writeItems items ++ rest)
    simp only [writeItems, List.cons_append, List.append_assoc]
    exact readItems?_cons hskip hitem hitems
  | _ :: _, _, 0, _, _, _, hf => by cases hf

theorem readFields?_write : ∀ (fields : List (String × Json)) (depth fuel : Nat) (rest : List Char),
    haveExact fields = true → depthOfFields fields ≤ depth → fields.length < fuel →
    readFields? (readValue? depth) fuel (writeFields fields ++ rest) = some (fields, rest)
  | [], _, fuel + 1, rest, _, _, _ => by simp [writeFields, readFields?, skipSpace, isSpace]
  | (name, value) :: fields, depth, fuel + 1, rest, he, hd, hf => by
    simp only [haveExact, Bool.and_eq_true] at he
    simp only [depthOfFields] at hd
    have hvalue := readValue?_write value depth _ he.1 (by omega) (delimits_writeFields fields rest)
    have hfields := readFields?_write fields depth fuel rest he.2 (by omega)
      (by simpa using hf)
    obtain ⟨hskip, -⟩ := skipSpace_write he.1 (writeFields fields ++ rest)
    simp only [writeFields, List.cons_append, List.append_assoc]
    exact readFields?_cons hskip hvalue hfields
  | _ :: _, _, 0, _, _, _, hf => by cases hf

end

/-- The text of a document is read as that document. -/
theorem read?_text {document : Json} (he : document.isExact = true) (hd : document.depth ≤ maxDepth) :
    read? document.text = some document := by
  obtain ⟨hskip, -⟩ := skipSpace_write he []
  have hread := readValue?_write document maxDepth [] he hd (.inl rfl)
  rw [List.append_nil] at hskip hread
  rw [read?, readWithin?, text, String.toList_ofList, hskip, hread]
  rfl

end Json
end WideColumn
