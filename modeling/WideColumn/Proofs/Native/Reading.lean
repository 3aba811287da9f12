import WideColumn.Native.Writing
import WideColumn.Proofs.Json.RoundTrip
import WideColumn.Proofs.Success
import WideColumn.Proofs.Time.Timestamp
import WideColumn.Schema.Basic
/-!
# Values read back from their cells

A value that is bound to a column, converted to a cell and read again need
not come back as it was: numbers are parsed out of strings and dates get a
time of day. Each attribute type has a form in which its values are read, and
a value that is given in this form comes back unchanged.
-/

namespace WideColumn

/-! ## Hexadecimal digits -/

namespace Hex

/-- The digits that are written. -/
def IsLowerDigit (c : Char) : Prop := 0x30 ≤ c.toNat ∧ c.toNat ≤ 0x39 ∨ 0x61 ≤ c.toNat ∧ c.toNat ≤ 0x66

theorem IsLowerDigit.exists_digit {c : Char} (h : IsLowerDigit c) : ∃ v < 16, digit v = c := by
  rcases h with ⟨h0, h1⟩ | ⟨h0, h1⟩
  · refine ⟨c.toNat - 0x30, by omega, ?_⟩
    rw [digit, if_pos (by omega), Nat.add_sub_cancel' h0, Char.ofNat_toNat]
  · refine ⟨c.toNat - 0x57, by omega, ?_⟩
    rw [digit, if_neg (by omega), Nat.add_sub_cancel' (by omega), Char.ofNat_toNat]

theorem digit_ne_hyphen {v : Nat} (h : v < 16) : digit v ≠ '-' := by
  have : ∀ v : Fin 16, digit v.val ≠ '-' := by decide
  exact this ⟨v, h⟩

theorem hyphen_not_mem_write (width n : Nat) : '-' ∉ write width n := by
  induction width generalizing n with
  | zero => simp [write]
  | succ width ih =>
    rw [write, List.mem_append, List.mem_singleton]
    rintro (h | h)
    · exact ih _ h
    · exact digit_ne_hyphen (Nat.mod_lt n (by decide)) h.symm

theorem write_pair {high low : Nat} (hh : high < 16) (hl : low < 16) :
    write 2 (16 * high + low) = [digit high, digit low] := by
  have hhigh : (16 * high + low) / 16 % 16 = high := by omega
  have hlow : (16 * high + low) % 16 = low := by omega
  simp only [write, hhigh, hlow, List.nil_append, List.cons_append]

theorem readBytes?_writeBytes (bytes : List UInt8) : readBytes? (writeBytes bytes) = some bytes := by
  induction bytes with
  | nil => rfl
  | cons byte bytes ih =>
    have hbyte : read? (write 2 byte.toNat) = some byte.toNat := read?_write byte.toNat_lt
    simp only [write, List.nil_append, List.cons_append] at hbyte
    simp only [writeBytes, List.flatMap_cons, write, List.nil_append, List.cons_append,
      readBytes?] at ih ⊢
    simp [hbyte, ih]

/-- Pairs of digits are the text of bytes. -/
theorem exists_writeBytes :
    ∀ {digits : List Char}, digits.length % 2 = 0 → (∀ c ∈ digits, IsLowerDigit c) →
    ∃ bytes, writeBytes bytes = digits
  | [], _, _ => ⟨[], rfl⟩
  | [_], h, _ => by cases h
  | high :: low :: rest, h, hd => by
    have heven : rest.length % 2 = 0 := by
      simp only [List.length_cons] at h
      omega
    obtain ⟨bytes, rfl⟩ :=
      exists_writeBytes heven fun c hc => hd c (List.mem_cons_of_mem _ (List.mem_cons_of_mem _ hc))
    obtain ⟨v, hv, rfl⟩ := (hd high List.mem_cons_self).exists_digit
    obtain ⟨w, hw, rfl⟩ := (hd low (List.mem_cons_of_mem _ List.mem_cons_self)).exists_digit
    refine ⟨UInt8.ofNat (16 * v + w) :: bytes, ?_⟩
    have hbyte : (UInt8.ofNat (16 * v + w)).toNat = 16 * v + w :=
      UInt8.toNat_ofNat_of_lt' (by simp [UInt8.size]; omega)
    rw [writeBytes, List.flatMap_cons, hbyte, write_pair hv hw]
    rfl

end Hex

/-! ## Identifiers -/

namespace Uuid

theorem filter_hyphenate {digits : List Char} (h : '-' ∉ digits) :
    (hyphenate digits).filter (· ≠ '-') = digits := by
  have hkeep {part : List Char} (hp : ∀ c ∈ part, c ∈ digits) : part.filter (· ≠ '-') = part :=
    List.filter_eq_self.2 fun c hc => decide_eq_true fun he => h (he ▸ hp c hc)
  have h8 := hkeep fun c hc => List.mem_of_mem_take (i := 8) hc
  have h12 := hkeep fun c hc => List.mem_of_mem_drop (i := 8) (List.mem_of_mem_take (i := 4) hc)
  have h16 := hkeep fun c hc => List.mem_of_mem_drop (i := 12) (List.mem_of_mem_take (i := 4) hc)
  have h20 := hkeep fun c hc => List.mem_of_mem_drop (i := 16) (List.mem_of_mem_take (i := 4) hc)
  have hend := hkeep fun c hc => List.mem_of_mem_drop (i := 20) hc
  simp only [hyphenate, List.filter_append, List.filter_cons_of_neg, ne_eq, not_true_eq_false,
    decide_false, Bool.false_eq_true, not_false_eq_true] at h8 h12 h16 h20 hend ⊢
  rw [h8, h12, h16, h20, hend]
  -- the groups, put together again from the last to the first
  have join (n m : Nat) : (digits.drop n).take m ++ digits.drop (n + m) = digits.drop n := by
    rw [← List.drop_drop, List.take_append_drop]
  rw [join 16 4, join 12 4, join 8 4, List.take_append_drop]

/-- The text of an identifier is read as that identifier. -/
theorem read?_text (uuid : Uuid) : read? uuid.text = some uuid := by
  have hlen : (Hex.write 32 uuid.bits.toNat).length = 32 := Hex.length_write 32 _
  have htext : uuid.text.length = 36 := by
    simp [text, hyphenate, hlen]
  have hdigits : readDigits? (Hex.write 32 uuid.bits.toNat) = some uuid := by
    have hread : Hex.read? (Hex.write 32 uuid.bits.toNat) = some uuid.bits.toNat :=
      Hex.read?_write uuid.bits.isLt
    rw [readDigits?, if_pos hlen, hread, Option.map_some, BitVec.ofNat_toNat, BitVec.setWidth_eq]
  rw [read?, if_neg (by omega), if_pos htext, readGroups?, text,
    filter_hyphenate (Hex.hyphen_not_mem_write 32 _), if_pos rfl, hdigits]

end Uuid

/-! ## Forms that are read back -/

/-- The form in which the values of an attribute type are read. A float has
none: its text may be rounded. -/
def AttributeType.ReadingForm : AttributeType → Json → Prop
  | .string, value | .text, value | .email, value => ∃ s, value = .string s
  | .integer, value => ∃ n, value = .ofInt64 n
  | .boolean, value => ∃ b, value = .bool b
  | .array, value =>
    ∃ items, value = .array items ∧ ∀ item ∈ items, item = .null ∨ ∃ s, item = .string s
  | .binary, value => ∃ digits, value = .string (String.ofList ('0' :: 'x' :: digits)) ∧
      digits.length % 2 = 0 ∧ ∀ c ∈ digits, Hex.IsLowerDigit c
  | .date, value | .datetime, value =>
    ∃ moment : Moment, moment.IsValid ∧ value = .string (String.ofList moment.text)
  | .json, value => value.isExact = true ∧ value.depth ≤ Json.maxDepth
  | .float, _ => False

/-- The form in which the values of a column are read. An attribute of
unknown type holds strings. -/
def Column.ReadingForm (column : Column) (value : Json) : Prop :=
  value = .null ∨ (column.type.getD .string).ReadingForm value

/-! ## Cells -/

theorem Json.int64?_ofInt64 (n : Int64) : (ofInt64 n).int64? = some n := by
  have hlt : n.toInt < 0x8000000000000000 := Int64.toInt_lt n
  simp only [ofInt64, int64?, Number.signed?, if_pos hlt, Int64.ofInt_toInt]

theorem Json.blob?_blobText (bytes : List UInt8) :
    (Json.string (NativeValue.blobText bytes)).blob? = some bytes := by
  simp only [blob?, NativeValue.blobText, String.toList_ofList, Hex.readBytes?_writeBytes]

namespace NativeValue

theorem orFail_eq_ok {α : Type} {value : Json} {type : NativeType} {make : α → NativeValue}
    {cell : NativeValue} (read : Option α) (h : orFail value type make read = .ok cell) :
    ∃ x, read = some x ∧ make x = cell := by
  cases read with
  | none => cases h
  | some x => exact ⟨x, rfl, Except.ok.inj h⟩

theorem toJson_ascii {s : String} {cell : NativeValue} (h : ofJson .ascii (.string s) = .ok cell) :
    cell.toJson = .string s := by
  obtain ⟨text, htext, rfl⟩ := orFail_eq_ok (Json.string s).ascii? h
  rw [Json.ascii?] at htext
  split at htext
  · cases htext
    rfl
  · cases htext

theorem toJson_bigint {n : Int64} {cell : NativeValue} (h : ofJson .bigint (.ofInt64 n) = .ok cell) :
    cell.toJson = .ofInt64 n := by
  obtain ⟨m, hm, rfl⟩ := orFail_eq_ok (Json.ofInt64 n).int64? h
  cases (Json.int64?_ofInt64 n).symm.trans hm
  rfl

theorem toJson_blob {bytes : List UInt8} {cell : NativeValue}
    (h : ofJson .blob (.string (blobText bytes)) = .ok cell) :
    cell.toJson = .string (blobText bytes) := by
  obtain ⟨read, hr, rfl⟩ := orFail_eq_ok (Json.string (blobText bytes)).blob? h
  cases (Json.blob?_blobText bytes).symm.trans hr
  rfl

theorem toJson_timestamp {moment : Moment} (hvalid : moment.IsValid) {cell : NativeValue}
    (h : ofJson .timestamp (.string (String.ofList moment.text)) = .ok cell) :
    cell.toJson = .string (String.ofList moment.text) := by
  generalize hs : String.ofList moment.text = s at h ⊢
  obtain ⟨instant, hread, rfl⟩ := orFail_eq_ok (Instant.read? s.toList) h
  rw [← hs, String.toList_ofList, Instant.read?_text hvalid] at hread
  cases hread
  exact congrArg Json.string ((congrArg String.ofList (Instant.text_instant hvalid)).trans hs)

theorem toJson_timeuuid {uuid : Uuid} {cell : NativeValue}
    (h : ofJson .timeuuid (.string (String.ofList uuid.text)) = .ok cell) :
    cell.toJson = .string (String.ofList uuid.text) := by
  generalize hs : String.ofList uuid.text = s at h ⊢
  obtain ⟨read, hread, rfl⟩ := orFail_eq_ok (Json.string s).timeuuid? h
  rw [Json.timeuuid?, Json.uuid?, ← hs, String.toList_ofList, Uuid.read?_text,
    Option.bind_some] at hread
  split at hread
  · cases hread
    exact congrArg Json.string hs
  · cases hread

/-- Strings and nulls as cells of a list, and as items again. -/
theorem toJsons_of_mapM {items : List Json}
    (hitems : ∀ item ∈ items, item = .null ∨ ∃ s, item = .string s)
    {cells : List NativeValue} (h : items.mapM (nullOr (ofPresent .text)) = .ok cells) :
    toJsons cells = items := by
  induction items generalizing cells with
  | nil =>
    cases h
    rfl
  | cons item items ih =>
    obtain ⟨cell, hcell, hread⟩ :
        ∃ cell, nullOr (ofPresent .text) item = .ok cell ∧ toJson cell = item := by
      rcases hitems item List.mem_cons_self with rfl | ⟨s, rfl⟩
      · exact ⟨.null, rfl, rfl⟩
      · exact ⟨.text s, rfl, rfl⟩
    obtain ⟨first, rest, hfirst, hrest, rfl⟩ := mapM_cons_eq_ok_iff.1 h
    cases hcell.symm.trans hfirst
    rw [toJsons, hread, ih (fun item hm => hitems item (List.mem_cons_of_mem _ hm)) hrest]

theorem toJson_list {items : List Json}
    (hitems : ∀ item ∈ items, item = .null ∨ ∃ s, item = .string s) {cell : NativeValue}
    (h : ofJson (.list .text) (.array items) = .ok cell) : cell.toJson = .array items := by
  obtain ⟨cells, hcells, rfl⟩ := map_eq_ok_iff.1 h
  exact congrArg Json.array (toJsons_of_mapM hitems hcells)

end NativeValue

namespace AttributeType

open NativeValue

theorem encode_array {items : List Json}
    (hitems : ∀ item ∈ items, item = .null ∨ ∃ s, item = .string s) :
    array.encode (.array items) = .array items := by
  have hitem : ∀ item ∈ items, encodeItem item = id item := by
    intro item hm
    rcases hitems item hm with rfl | ⟨s, rfl⟩ <;> rfl
  exact congrArg Json.array ((List.map_congr_left hitem).trans (List.map_id items))

theorem encode_null (type : AttributeType) : type.encode .null = .null := by cases type <;> rfl

theorem decode_null (type : AttributeType) : type.decode .null = .null := by cases type <;> rfl

theorem encode_json {value : Json} (h : value.isNull = false) :
    json.encode value = .string value.text := by
  cases value with
  | null => cases h
  | _ => rfl

/-- A value in the form of its type comes back from the cell that it is
converted to. -/
theorem decode_toJson {type : AttributeType} {value : Json} (hv : type.ReadingForm value)
    {cell : NativeValue}
    (h : ofJson type.native (type.encode value) = .ok cell) : type.decode cell.toJson = value := by
  cases type with
  | string | text =>
    obtain ⟨s, rfl⟩ := hv
    cases h
    rfl
  | email =>
    obtain ⟨s, rfl⟩ := hv
    exact congrArg (decode .email) (toJson_ascii h)
  | integer =>
    obtain ⟨n, rfl⟩ := hv
    exact congrArg (decode .integer) (toJson_bigint h)
  | boolean =>
    obtain ⟨b, rfl⟩ := hv
    cases h
    rfl
  | array =>
    obtain ⟨items, rfl, hitems⟩ := hv
    rw [encode_array hitems] at h
    exact congrArg (decode .array) (toJson_list hitems h)
  | binary =>
    obtain ⟨digits, rfl, heven, hdigits⟩ := hv
    obtain ⟨bytes, rfl⟩ := Hex.exists_writeBytes heven hdigits
    exact congrArg (decode .binary) (toJson_blob h)
  | date =>
    obtain ⟨moment, hvalid, rfl⟩ := hv
    exact congrArg (decode .date) (toJson_timestamp hvalid h)
  | datetime =>
    obtain ⟨moment, hvalid, rfl⟩ := hv
    exact congrArg (decode .datetime) (toJson_timestamp hvalid h)
  | json =>
    cases hnull : value.isNull with
    | true =>
      cases value <;> cases hnull
      cases h
      rfl
    | false =>
      -- the document is bound as text, and read from it again
      rw [encode_json hnull] at h
      cases h
      change (Json.read? value.text).getD (.string value.text) = value
      rw [Json.read?_text hv.1 hv.2, Option.getD_some]
  | float => cases hv

end AttributeType

namespace Column

open NativeValue

theorem decode_null (column : Column) : column.decode .null = .null := by
  unfold decode
  cases column.type with
  | none => rfl
  | some type => exact type.decode_null

theorem encode_null (column : Column) : column.encode .null = .null := by
  unfold encode
  cases column.type with
  | none => rfl
  | some type => exact type.encode_null

/-- A value in the form of a declared column comes back from the cell that it
is converted to. -/
theorem decode_toJson {column : Column}
    (hn : column.native = (column.type.map AttributeType.native).getD .text)
    {value : Json} (hv : column.ReadingForm value) {cell : NativeValue}
    (h : ofJson column.native (column.encode value) = .ok cell) :
    column.decode cell.toJson = value := by
  rcases hv with rfl | hv
  · rw [encode_null] at h
    cases h
    exact column.decode_null
  · rw [hn] at h
    unfold encode at h
    unfold decode
    cases ht : column.type with
    | none =>
      rw [ht] at hv h
      obtain ⟨s, rfl⟩ := hv
      cases h
      rfl
    | some type =>
      rw [ht] at hv h
      exact AttributeType.decode_toJson hv h

/-- An identifier comes back from a column of identifiers that are ordered by
time. -/
theorem decode_toJson_timeuuid {column : Column} (hn : column.native = .timeuuid)
    (ht : column.type = some .string) {uuid : Uuid} {cell : NativeValue}
    (h : ofJson column.native (column.encode (.string (String.ofList uuid.text))) = .ok cell) :
    column.decode cell.toJson = .string (String.ofList uuid.text) := by
  unfold encode at h
  rw [hn, ht] at h
  unfold decode
  rw [ht]
  exact congrArg (AttributeType.decode .string) (toJson_timeuuid h)

end Column
end WideColumn
