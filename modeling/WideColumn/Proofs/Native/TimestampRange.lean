import WideColumn.Proofs.Native.RoundTrip
import WideColumn.Proofs.Text
/-!
# Points in time that are written and not read back

A timestamp can be given as a number of milliseconds, over all the years that
are supported. Its text has four digits for the year from 0 to 9999 and a sign
otherwise, and a year with a sign is read neither in front of a time of day nor
as part of a date alone, behind which nothing may follow. So a timestamp comes
back from its text exactly if it is in those years.
-/

namespace WideColumn

/-! ## Years and day numbers -/

namespace Date

/-- Later years have at least as many leap days before them. -/
theorem leapDays_mono {y z : Int} (h : y ≤ z) : y / 4 - y / 100 + y / 400 ≤ z / 4 - z / 100 + z / 400 := by
  have hcenturies : y / 100 = y / 4 / 25 ∧ z / 100 = z / 4 / 25 := by omega
  have hcycles : y / 400 ≤ z / 400 := by omega
  rcases Int.lt_or_eq_of_le (show y / 4 ≤ z / 4 by omega) with hlater | hsame
  · omega
  · omega

/-- Counted from March, a year comes to its January after ten months. -/
theorem InMonth.month_lt_ten_iff {m d : Int} (h : InMonth m d) : m < 10 ↔ dayOfYear m d < 306 := by
  have hmonth := h.month_of_dayOfYear
  omega

/-- A day is in a year or in a later one exactly if it is not before the first
of January of that year. -/
theorem le_year_ofDayNumber_iff (year n : Int) :
    year ≤ (ofDayNumber n).year ↔ (⟨year, 1, 1⟩ : Date).dayNumber ≤ n := by
  obtain ⟨y, m, d, hm, -, hdate, hn⟩ := exists_ofMarch n
  obtain ⟨hs0, hs1, -⟩ := hm.dayOfYear_bounds
  have hten := hm.month_lt_ten_iff
  generalize dayOfYear m d = s at hs0 hs1 hten hn
  have hfirst : (⟨year, 1, 1⟩ : Date).dayNumber =
      365 * (year - 1) + (year - 1) / 4 - (year - 1) / 100 + (year - 1) / 400 + 306 - epoch := by
    simp only [dayNumber]
    omega
  have hyear : (ofDayNumber n).year = y + if m < 10 then 0 else 1 := by rw [hdate, ofMarch]
  rw [hfirst, hyear, hn]
  -- the year before, counted from March, is after that of the day or it is not
  rcases lt_or_ge y (year - 1) with hafter | hbefore
  · have hleap := leapDays_mono (show y ≤ year - 1 by omega)
    split <;> omega
  · have hleap := leapDays_mono hbefore
    split <;> omega

/-! ## Texts that are no dates -/

/-- The characters that stand in dates: digits, signs, and blanks before
numbers. -/
def StandsInDates (c : Char) : Prop := c.isDigit = true ∨ Text.isBlank c = true ∨ c = '-' ∨ c = '+'

section Refusal

variable {c : Char} {most n : Nat} {year : Int} {text rest : List Char}

theorem mem_rest_of_takeNumber? (hc : c.isDigit = false) (hm : c ∈ text)
    (h : takeNumber? most text = some (n, rest)) : c ∈ rest := by
  rw [takeNumber?] at h
  split at h
  · cases h
  · cases h
    -- the digits are the beginning of the text
    have hprefix : (text.take most).takeWhile Char.isDigit <+: text :=
      (List.takeWhile_prefix _).trans (List.take_prefix _ _)
    rw [← List.prefix_iff_eq_append.1 hprefix, List.mem_append] at hm
    rcases hm with hm | hm
    · exact absurd (List.mem_takeWhile_imp hm) (by simp [hc])
    · exact hm

theorem mem_rest_of_readPart? (hc : ¬StandsInDates c) (hm : c ∈ text)
    (h : readPart? text = some (n, rest)) : c ∈ rest := by
  simp only [StandsInDates, not_or, Bool.not_eq_true] at hc
  unfold readPart? at h
  split at h
  · next more =>
    have hmore : c ∈ more := (List.mem_cons.1 hm).resolve_left hc.2.2.1
    exact mem_rest_of_takeNumber? hc.1 (Text.mem_trimStart hc.2.1 hmore) h
  · cases h

theorem mem_rest_of_readYear? (hc : ¬StandsInDates c) (hm : c ∈ text)
    (h : readYear? text = some (year, rest)) : c ∈ rest := by
  simp only [StandsInDates, not_or, Bool.not_eq_true] at hc
  unfold readYear? at h
  split at h
  · next more =>
    obtain ⟨⟨n, after⟩, hnumber, he⟩ := Option.map_eq_some_iff.1 h
    cases he
    exact mem_rest_of_takeNumber? hc.1 ((List.mem_cons.1 hm).resolve_left hc.2.2.1) hnumber
  · next more =>
    obtain ⟨⟨n, after⟩, hnumber, he⟩ := Option.map_eq_some_iff.1 h
    cases he
    exact mem_rest_of_takeNumber? hc.1 ((List.mem_cons.1 hm).resolve_left hc.2.2.2) hnumber
  · obtain ⟨⟨n, after⟩, hnumber, he⟩ := Option.map_eq_some_iff.1 h
    cases he
    exact mem_rest_of_takeNumber? hc.1 hm hnumber

/-- A text with a character that stands in no date is none: no step of reading
takes it, and nothing may be left. -/
theorem read?_eq_none_of_mem (hc : ¬StandsInDates c) (hm : c ∈ text) : read? text = none := by
  cases hread : read? text with
  | none => rfl
  | some date =>
    simp only [read?, Option.bind_eq_bind, Option.bind_eq_some_iff] at hread
    obtain ⟨⟨year, afterYear⟩, hyear, ⟨month, afterMonth⟩, hmonth, ⟨day, afterDay⟩, hday, hend⟩ := hread
    have hblank : Text.isBlank c = false := by
      simp only [StandsInDates, not_or, Bool.not_eq_true] at hc
      exact hc.2.1
    have hleft := mem_rest_of_readPart? hc
      (mem_rest_of_readPart? hc (mem_rest_of_readYear? hc (Text.mem_trimStart hblank hm) hyear) hmonth) hday
    split at hend
    · next hdone =>
      have hnil : afterDay = [] := hdone.1
      rw [hnil] at hleft
      cases hleft
    · cases hend

end Refusal

theorem yearText_of_signed {year : Int} (h : ¬(0 ≤ year ∧ year ≤ 9999)) :
    ∃ sign digits, yearText year = sign :: digits ∧ sign.isDigit = false := by
  rw [yearText, if_neg h]
  refine ⟨_, _, rfl, ?_⟩
  split <;> rfl

end Date

/-! ## Instants -/

namespace Instant

/-- The year in universal time. -/
def year (instant : Instant) : Int := (Date.ofDayNumber (instant.seconds / daySeconds)).year

/-- A time of day follows a year of four digits only. -/
theorem readTimestamp?_eq_none {c : Char} (hc : c.isDigit = false) (text : List Char) :
    readTimestamp? (c :: text) = none := by
  have hdigits : takeDigits? 4 (c :: text) = none := by
    simp [takeDigits?, hc]
  rw [readTimestamp?, hdigits]
  rfl

theorem read?_text_of_signed {instant : Instant} (h : ¬(0 ≤ instant.year ∧ instant.year ≤ 9999)) :
    read? instant.text = none := by
  obtain ⟨sign, digits, hyear, hsign⟩ := Date.yearText_of_signed h
  have hmark : 'T' ∈ instant.text := by
    simp [text]
  have hdate : Date.read? instant.text = none :=
    Date.read?_eq_none_of_mem (by unfold Date.StandsInDates; decide) hmark
  have htimestamp : readTimestamp? instant.text = none := by
    unfold year at hyear
    simp only [text, Date.text, hyear, List.cons_append]
    exact readTimestamp?_eq_none hsign _
  rw [read?, htimestamp, hdate]
  rfl

/-- The first and the last millisecond of the years that are written without a
sign. -/
def firstUnsigned : Int := -62167219200000
def lastUnsigned : Int := 253402300799999

theorem year_of_milliseconds (n : Int) (nanos : Nat) :
    0 ≤ year ⟨n / 1000, nanos⟩ ∧ year ⟨n / 1000, nanos⟩ ≤ 9999 ↔ firstUnsigned ≤ n ∧ n ≤ lastUnsigned := by
  have hfirst := Date.le_year_ofDayNumber_iff 0 (n / 1000 / daySeconds)
  have hlast := Date.le_year_ofDayNumber_iff 10000 (n / 1000 / daySeconds)
  have hdays : (⟨0, 1, 1⟩ : Date).dayNumber = -719528 ∧ (⟨10000, 1, 1⟩ : Date).dayNumber = 2932897 := by decide
  rw [hdays.1] at hfirst
  rw [hdays.2] at hlast
  simp only [year, firstUnsigned, lastUnsigned]
  unfold daySeconds at hfirst hlast ⊢
  omega

/-- A number of milliseconds within those years is read back from its text, and
any other is not. -/
theorem read?_text_of_milliseconds {n : Int} {instant : Instant} (h : ofMilliseconds? n = some instant) :
    read? instant.text = if firstUnsigned ≤ n ∧ n ≤ lastUnsigned then some instant else none := by
  rw [ofMilliseconds?] at h
  split at h
  · cases h
    have hyear := year_of_milliseconds n ((n % 1000).toNat * 1000000)
    by_cases hn : firstUnsigned ≤ n ∧ n ≤ lastUnsigned
    · have hwhole : IsWhole ⟨n / 1000, (n % 1000).toNat * 1000000⟩ := by
        refine ⟨hyear.2 hn, ?_, ?_⟩
        · unfold secondNanos
          dsimp only
          omega
        · exact Nat.mul_mod_left _ _
      rw [if_pos hn, hwhole.read?_text]
    · rw [if_neg hn, read?_text_of_signed (mt hyear.1 hn)]
  · cases h

end Instant

/-! ## Cells -/

theorem Json.instant?_ofInt64 (n : Int64) : (ofInt64 n).instant? = Instant.ofMilliseconds? n.toInt := by
  have hlt : n.toInt < 0x8000000000000000 := Int64.toInt_lt n
  simp only [ofInt64, instant?, Number.signed?, if_pos hlt, Option.bind_some, Int64.ofInt_toInt]

namespace NativeValue

theorem ofJson_ofInt64 (n : Int64) :
    ofJson .timestamp (.ofInt64 n) =
      orFail (.ofInt64 n) .timestamp .timestamp (Instant.ofMilliseconds? n.toInt) :=
  congrArg (orFail (.ofInt64 n) .timestamp .timestamp) (Json.instant?_ofInt64 n)

/-- A timestamp is written back by reading its text. -/
theorem ofJson_toJson_timestamp (instant : Instant) :
    ofJson .timestamp (toJson (.timestamp instant)) =
      orFail (toJson (.timestamp instant)) .timestamp .timestamp (Instant.read? instant.text) := by
  have hread : (toJson (.timestamp instant)).instant? = Instant.read? instant.text := by
    rw [toJson, Json.instant?, String.toList_ofList]
  rw [← hread]
  rfl

/-- A number of milliseconds is written as a timestamp exactly if it is in the
supported range. The text of the timestamp is written as the same timestamp
again if its year is one from 0 to 9999, and is refused otherwise. -/
theorem timestamps_read_back (n : Int64) :
    ((∃ cell, ofJson .timestamp (.ofInt64 n) = .ok cell) ↔
      Instant.firstMillisecond ≤ n.toInt ∧ n.toInt ≤ Instant.lastMillisecond) ∧
    ∀ cell, ofJson .timestamp (.ofInt64 n) = .ok cell →
      (Instant.firstUnsigned ≤ n.toInt ∧ n.toInt ≤ Instant.lastUnsigned →
        ofJson .timestamp cell.toJson = .ok cell) ∧
      (¬(Instant.firstUnsigned ≤ n.toInt ∧ n.toInt ≤ Instant.lastUnsigned) →
        ofJson .timestamp cell.toJson = .error ⟨cell.toJson, .timestamp⟩) := by
  rw [ofJson_ofInt64]
  constructor
  · unfold Instant.ofMilliseconds?
    split
    · next hn => exact ⟨fun _ => hn, fun _ => ⟨_, rfl⟩⟩
    · next hn =>
      constructor
      · rintro ⟨_, ⟨⟩⟩
      · exact fun h => absurd h hn
  · intro cell hcell
    obtain ⟨instant, hinstant, rfl⟩ := orFail_eq_ok _ hcell
    rw [ofJson_toJson_timestamp, Instant.read?_text_of_milliseconds hinstant]
    constructor
    · intro hn
      rw [if_pos hn, orFail]
    · intro hn
      rw [if_neg hn, orFail]

/-- The last millisecond of 9999 is written back, and the next one is refused,
as is the last before the year 0. -/
theorem timestamps_read_back_sample :
    (∃ cell, ofJson .timestamp (.ofInt64 253402300799999) = .ok cell ∧ ofJson .timestamp cell.toJson = .ok cell) ∧
    (∃ cell, ofJson .timestamp (.ofInt64 253402300800000) = .ok cell ∧
      ofJson .timestamp cell.toJson = .error ⟨cell.toJson, .timestamp⟩) ∧
    ∃ cell, ofJson .timestamp (.ofInt64 (-62167219200001)) = .ok cell ∧
      ofJson .timestamp cell.toJson = .error ⟨cell.toJson, .timestamp⟩ := by
  refine ⟨?_, ?_, ?_⟩
  · obtain ⟨cell, hcell⟩ := (timestamps_read_back 253402300799999).1.2 (by decide)
    exact ⟨cell, hcell, ((timestamps_read_back _).2 cell hcell).1 (by decide)⟩
  · obtain ⟨cell, hcell⟩ := (timestamps_read_back 253402300800000).1.2 (by decide)
    exact ⟨cell, hcell, ((timestamps_read_back _).2 cell hcell).2 (by decide)⟩
  · obtain ⟨cell, hcell⟩ := (timestamps_read_back (-62167219200001)).1.2 (by decide)
    exact ⟨cell, hcell, ((timestamps_read_back _).2 cell hcell).2 (by decide)⟩

/-- Not every timestamp is written back: the text of the first of January 10000
has a sign. -/
theorem not_every_timestamp_reads_back :
    ¬∀ (n : Int64) (cell : NativeValue), ofJson .timestamp (.ofInt64 n) = .ok cell →
      ofJson .timestamp cell.toJson = .ok cell := by
  intro h
  have hinstant : Instant.ofMilliseconds? 253402300800000 = some ⟨253402300800, 0⟩ := by decide
  have hback := h 253402300800000 (.timestamp ⟨253402300800, 0⟩) rfl
  rw [ofJson_toJson_timestamp, Instant.read?_text_of_milliseconds hinstant, if_neg (by decide)] at hback
  cases hback

end NativeValue
end WideColumn
