import WideColumn.Proofs.Fields
import WideColumn.Proofs.Inet
import WideColumn.Proofs.Native.Reading
/-!
# Cells read back from their documents

A cell becomes a document without its type, and the type is enough to get the
cell back: its numbers and strings are those that the type reads, whether they
stand alone or, as the key of a map, as the name of a field. Floats are left
out, as a document does not hold all of them.
-/

namespace WideColumn

/-! ## Types and their values -/

namespace NativeType

/-- Whether the values of a type are single ones. -/
def isScalar : NativeType → Bool
  | .list _ | .set _ | .map _ _ => false
  | _ => true

/-- Whether a type has no floats anywhere and only single values as keys. -/
def isExact : NativeType → Bool
  | .float | .double => false
  | .list item | .set item => item.isExact
  | .map key item => key.isScalar && key.isExact && item.isExact
  | _ => true

end NativeType

/-- A cell of a type, in a form that a document keeps: numbers of any size in
canonical notation, years of four digits, and version 1 where identifiers are
ordered by time. The cell is not null, but cells inside of it may be, except
for the keys of a map, which are distinct. -/
def NativeValue.Fits : NativeType → NativeValue → Prop
  | .ascii, value => ∃ s : String, value = .ascii s ∧ ∀ c ∈ s.toList, c.toNat < 128
  | .bigint, value => ∃ n, value = .bigint n
  | .blob, value => ∃ bytes, value = .blob bytes
  | .boolean, value => ∃ b, value = .boolean b
  | .counter, value => ∃ n, value = .counter n
  | .date, value => ∃ day : Date, value = .date day ∧ day.isValid = true ∧ 0 ≤ day.year ∧ day.year ≤ 9999
  | .decimal, value => ∃ digits : String, value = .decimal digits ∧ Numeral.IsDecimal digits.toList
  | .double, value => ∃ x, value = .double x
  | .float, value => ∃ x, value = .float x
  | .inet, value => ∃ address, value = .inet address
  | .int, value => ∃ n, value = .int n
  | .text, value => ∃ s, value = .text s
  | .timestamp, value => ∃ instant : Instant, value = .timestamp instant ∧ instant.IsWhole
  | .timeuuid, value => ∃ uuid : Uuid, value = .timeuuid uuid ∧ uuid.version = 1
  | .uuid, value => ∃ uuid, value = .uuid uuid
  | .varint, value => ∃ n : Int, value = .varint (String.ofList (Numeral.ofInt n))
  | .list item, value => ∃ items, value = .list items ∧ ∀ x ∈ items, x = .null ∨ x.Fits item
  | .set item, value => ∃ items, value = .set items ∧ ∀ x ∈ items, x = .null ∨ x.Fits item
  | .map key item, value => ∃ entries, value = .map entries ∧ (entries.map Prod.fst).Nodup ∧
      ∀ entry ∈ entries, entry.1.Fits key ∧ (entry.2 = .null ∨ entry.2.Fits item)

/-! ## Single values -/

namespace Json

theorem plain_ofInt64 (n : Int64) : (ofInt64 n).plain = String.ofList (Numeral.ofInt n.toInt) := rfl

/-- An integer is read from its digits as well. -/
theorem int64?_plain (n : Int64) : (Json.string (ofInt64 n).plain).int64? = some n := by
  rw [int64?, plain_ofInt64, String.toList_ofList, Numeral.trim_ofInt, Numeral.int64?_ofInt]

theorem int32?_of_int64? {document : Json} {n : Int32} (h : document.int64? = some n.toInt64) :
    document.int32? = some n := by
  have hlow := Int32.le_toInt n
  have hhigh := Int32.toInt_le n
  rw [int32?, h, Option.bind_some, Int32.toInt_toInt64, if_pos ⟨hlow, hhigh⟩]
  simp

/-- Digits behind an optional minus are read as they are. -/
theorem varint?_string (n : Int) :
    (Json.string (String.ofList (Numeral.ofInt n))).varint? = some (String.ofList (Numeral.ofInt n)) := by
  simp only [varint?, String.toList_ofList]
  unfold Numeral.ofInt
  split
  · simp only [Numeral.natural?_ofNat, Option.map_some]
  · obtain ⟨c, digits, hdigits⟩ := List.exists_cons_of_ne_nil (Numeral.ofNat_ne_nil n.natAbs)
    have hc : c ≠ '-' := fun he =>
      Numeral.not_mem_ofNat (c := '-') (by decide) n.natAbs (he ▸ hdigits ▸ List.mem_cons_self)
    have hread := Numeral.natural?_ofNat n.natAbs
    rw [hdigits] at hread ⊢
    split
    next he => exact absurd (List.cons.inj he).1 hc
    next => rw [hread, Option.map_some]

end Json

namespace NativeValue

/-- A cell that is read back from its document and, as a key, from the name
that it becomes. -/
structure ReadsBack (type : NativeType) (value : NativeValue) : Prop where
  isNull : value.toJson.isNull = false
  document : ofPresent type value.toJson = .ok value
  name : ofPresent type (.string value.toJson.plain) = .ok value

theorem ReadsBack.of_string {type : NativeType} {value : NativeValue} (s : String)
    (hs : value.toJson = .string s) (h : ofPresent type (.string s) = .ok value) : value.ReadsBack type :=
  ⟨by rw [hs]; rfl, by rw [hs, h], by rw [hs]; exact h⟩

theorem orFail_some {α : Type} {value : Json} {type : NativeType} {cell : α → NativeValue} {read : Option α}
    {x : α} (h : read = some x) : orFail value type cell read = .ok (cell x) := by
  rw [h]
  rfl

/-- A cell that becomes an integer. -/
theorem ReadsBack.of_int64 {type : NativeType} {value : NativeValue} (n : Int64)
    (hn : value.toJson = .ofInt64 n)
    (h : ∀ document : Json, document.int64? = some n → ofPresent type document = .ok value) :
    value.ReadsBack type :=
  ⟨by rw [hn]; rfl, by rw [hn]; exact h _ (Json.int64?_ofInt64 n), by rw [hn]; exact h _ (Json.int64?_plain n)⟩

theorem readsBack_ascii {s : String} (h : ∀ c ∈ s.toList, c.toNat < 128) : (ascii s).ReadsBack .ascii := by
  refine .of_string s rfl (orFail_some (if_pos ?_))
  simpa [Json.plain] using h

theorem readsBack_varint (n : Int) : (varint (String.ofList (Numeral.ofInt n))).ReadsBack .varint := by
  have hname : ofPresent .varint (.string (String.ofList (Numeral.ofInt n))) =
      .ok (.varint (String.ofList (Numeral.ofInt n))) := orFail_some (Json.varint?_string n)
  cases hread : Numeral.int64? (Numeral.ofInt n) with
  | none =>
    -- a number of more than 64 bits stays a string
    refine .of_string _ ?_ hname
    simp only [toJson, String.toList_ofList, hread, Option.map_none, Option.getD_none]
  | some m =>
    have hjson : (varint (String.ofList (Numeral.ofInt n))).toJson = .ofInt64 m := by
      simp only [toJson, String.toList_ofList, hread, Option.map_some, Option.getD_some]
    have hm : m.toInt = n := Numeral.toInt_of_int64? hread
    refine ⟨by rw [hjson]; rfl, ?_, ?_⟩
    · rw [hjson, ← hm]
      exact orFail_some rfl
    · rw [hjson, Json.plain_ofInt64, hm]
      exact hname

theorem readsBack_decimal {digits : String} (h : Numeral.IsDecimal digits.toList) :
    (decimal digits).ReadsBack .decimal := by
  obtain ⟨x, hx⟩ := Option.ne_none_iff_exists'.1 h.real?_ne_none
  refine .of_string digits rfl (orFail_some ?_)
  rw [Json.decimal?, hx, Option.map_some]

/-- Single values are read back. -/
theorem Fits.readsBack {type : NativeType} {value : NativeValue} (h : value.Fits type)
    (hscalar : type.isScalar = true) (hexact : type.isExact = true) : value.ReadsBack type := by
  cases type with
  | float | double => cases hexact
  | list | set | map => cases hscalar
  | ascii =>
    obtain ⟨s, rfl, hs⟩ := h
    exact readsBack_ascii hs
  | text =>
    obtain ⟨s, rfl⟩ := h
    exact .of_string s rfl rfl
  | bigint =>
    obtain ⟨n, rfl⟩ := h
    exact .of_int64 n rfl fun _ hn => orFail_some hn
  | counter =>
    obtain ⟨n, rfl⟩ := h
    exact .of_int64 n rfl fun _ hn => orFail_some hn
  | int =>
    obtain ⟨n, rfl⟩ := h
    exact .of_int64 n.toInt64 rfl fun _ hn => orFail_some (Json.int32?_of_int64? hn)
  | varint =>
    obtain ⟨n, rfl⟩ := h
    exact readsBack_varint n
  | decimal =>
    obtain ⟨digits, rfl, hdigits⟩ := h
    exact readsBack_decimal hdigits
  | boolean =>
    obtain ⟨b, rfl⟩ := h
    cases b <;> exact ⟨rfl, rfl, rfl⟩
  | timestamp =>
    obtain ⟨instant, rfl, hinstant⟩ := h
    refine .of_string _ rfl (orFail_some ?_)
    rw [Json.instant?, String.toList_ofList, hinstant.read?_text]
  | date =>
    obtain ⟨day, rfl, hvalid, hyear⟩ := h
    refine .of_string _ rfl (orFail_some ?_)
    rw [Json.date?, String.toList_ofList, Date.read?_text hvalid hyear]
  | uuid =>
    obtain ⟨u, rfl⟩ := h
    refine .of_string _ rfl (orFail_some ?_)
    rw [Json.uuid?, String.toList_ofList, Uuid.read?_text]
  | timeuuid =>
    obtain ⟨u, rfl, hu⟩ := h
    refine .of_string _ rfl (orFail_some ?_)
    rw [Json.timeuuid?, Json.uuid?, String.toList_ofList, Uuid.read?_text, Option.bind_some, if_pos hu]
  | inet =>
    obtain ⟨address, rfl⟩ := h
    refine .of_string _ rfl (orFail_some ?_)
    rw [Json.inet?, String.toList_ofList, Inet.read?_text]
  | blob =>
    obtain ⟨bytes, rfl⟩ := h
    exact .of_string _ rfl (orFail_some (Json.blob?_blobText bytes))

/-! ## Collections -/

theorem toJsons_eq_map (items : List NativeValue) : toJsons items = items.map toJson := by
  induction items with
  | nil => rfl
  | cons item items ih => rw [toJsons, ih, List.map_cons]

theorem toEntries_eq_map (entries : List (NativeValue × NativeValue)) :
    toEntries entries = entries.map fun entry => (entry.1.toJson.plain, entry.2.toJson) := by
  induction entries with
  | nil => rfl
  | cons entry entries ih => rw [toEntries, ih, List.map_cons]

theorem mapM_toJsons {type : NativeType} {items : List NativeValue}
    (h : ∀ item ∈ items, ofJson type item.toJson = .ok item) :
    (toJsons items).mapM (ofJson type) = .ok items := by
  rw [toJsons_eq_map, mapM_eq_ok_iff_map, List.map_map]
  exact List.map_congr_left h

/-- Distinct keys become distinct names. -/
theorem ofEntries_toEntries {key : NativeType} {entries : List (NativeValue × NativeValue)}
    (hnodup : (entries.map Prod.fst).Nodup) (hkeys : ∀ entry ∈ entries, entry.1.ReadsBack key) :
    Fields.ofEntries (toEntries entries) = toEntries entries := by
  refine Fields.ofEntries_eq_self ?_
  have hnames : Fields.names (toEntries entries) = (entries.map Prod.fst).map fun k => k.toJson.plain := by
    rw [toEntries_eq_map, Fields.names, List.map_map, List.map_map]
    rfl
  rw [hnames, List.Nodup, List.pairwise_map]
  refine List.Pairwise.imp_of_mem ?_ hnodup
  intro left right hl hr hne he
  obtain ⟨entry, hentry, rfl⟩ := List.mem_map.1 hl
  obtain ⟨other, hother, rfl⟩ := List.mem_map.1 hr
  have hread := (hkeys entry hentry).name
  rw [he, (hkeys other hother).name] at hread
  exact hne (Except.ok.inj hread).symm

theorem mapM_toEntries {key item : NativeType} {entries : List (NativeValue × NativeValue)}
    (hkeys : ∀ entry ∈ entries, entry.1.ReadsBack key)
    (hitems : ∀ entry ∈ entries, ofJson item entry.2.toJson = .ok entry.2) :
    (toEntries entries).mapM (entryOf (ofJson key) (ofJson item)) = .ok entries := by
  rw [toEntries_eq_map, mapM_eq_ok_iff_map, List.map_map]
  refine List.map_congr_left fun entry hm => ?_
  have hkey : ofJson key (.string entry.1.toJson.plain) = .ok entry.1 := (hkeys entry hm).name
  simp only [Function.comp_apply, entryOf, hkey, hitems entry hm]
  rfl

/-- A cell that fits its type, or null, is read back from its document. -/
theorem ofJson_toJson {type : NativeType} (htype : type.isExact = true) {value : NativeValue}
    (h : value = .null ∨ value.Fits type) : ofJson type value.toJson = .ok value := by
  induction type generalizing value with
  | list item ih =>
    rcases h with rfl | ⟨items, rfl, hitems⟩
    · rfl
    have hread := mapM_toJsons fun x hx => ih htype (hitems x hx)
    exact congrArg (Except.map list) hread
  | set item ih =>
    rcases h with rfl | ⟨items, rfl, hitems⟩
    · rfl
    have hread := mapM_toJsons fun x hx => ih htype (hitems x hx)
    exact congrArg (Except.map set) hread
  | map key item _ ih =>
    rcases h with rfl | ⟨entries, rfl, hnodup, hentries⟩
    · rfl
    simp only [NativeType.isExact, Bool.and_eq_true] at htype
    obtain ⟨⟨hscalar, hkey⟩, hitem⟩ := htype
    have hkeys : ∀ entry ∈ entries, entry.1.ReadsBack key := fun entry hm =>
      (hentries entry hm).1.readsBack hscalar hkey
    have hread := mapM_toEntries hkeys fun entry hm => ih hitem (hentries entry hm).2
    rw [← ofEntries_toEntries hnodup hkeys] at hread
    exact congrArg (Except.map map) hread
  | _ =>
    rcases h with rfl | h
    · rfl
    have hread := h.readsBack rfl htype
    simp only [ofJson, nullOr, hread.isNull, Bool.false_eq_true, if_false, hread.document]

/-- Lists of points in time by decimals, under numbers of any size. -/
def sampleType : NativeType := .map .varint (.list (.map .decimal .timestamp))

/-- Two numbers that differ in sign, one with more than 64 bits, and nulls
wherever they may be. -/
def sampleCell : NativeValue :=
  .map [
    (.varint "-92233720368547758080", .list [
      .null,
      .map [(.decimal "-0.50", .timestamp ⟨-1, 999000000⟩), (.decimal "12", .null)]]),
    (.varint "7", .null)]

/-- The cell fits its type, so nothing of it is lost. -/
theorem ofJson_toJson_sample :
    sampleType.isExact = true ∧ (sampleCell = .null ∨ sampleCell.Fits sampleType) ∧
      ofJson sampleType sampleCell.toJson = .ok sampleCell := by
  have hbig : Fits .varint (.varint "-92233720368547758080") := ⟨-92233720368547758080, rfl⟩
  have hsmall : Fits .varint (.varint "7") := ⟨7, rfl⟩
  have hfraction : Fits .decimal (.decimal "-0.50") :=
    ⟨_, rfl, ['-'], ['0'], ['.', '5', '0'], rfl, .inr rfl, by decide, .inr ⟨_, rfl, by decide⟩⟩
  have hwhole : Fits .decimal (.decimal "12") := ⟨_, rfl, [], ['1', '2'], [], rfl, .inl rfl, by decide, .inl rfl⟩
  have hinstant : Fits .timestamp (.timestamp ⟨-1, 999000000⟩) := ⟨_, rfl, by decide, by decide, by decide⟩
  have hfits : sampleCell.Fits sampleType := by
    refine ⟨_, rfl, by simp, ?_⟩
    simp only [List.forall_mem_cons, List.not_mem_nil, false_implies, implies_true, and_true]
    refine ⟨⟨hbig, .inr ⟨_, rfl, ?_⟩⟩, hsmall, .inl trivial⟩
    simp only [List.forall_mem_cons, List.not_mem_nil, false_implies, implies_true, and_true]
    refine ⟨.inl trivial, .inr ⟨_, rfl, by simp, ?_⟩⟩
    simp only [List.forall_mem_cons, List.not_mem_nil, false_implies, implies_true, and_true]
    exact ⟨⟨hfraction, .inr hinstant⟩, hwhole, .inl trivial⟩
  exact ⟨rfl, .inr hfits, ofJson_toJson rfl (.inr hfits)⟩

end NativeValue
end WideColumn
