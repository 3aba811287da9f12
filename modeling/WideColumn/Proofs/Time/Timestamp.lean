import WideColumn.Proofs.Numeral
import WideColumn.Proofs.Time.Calendar
import WideColumn.Time.Instant
/-!
# Points in time read back from their text

Instants are written in one form: a date, `T`, a time of day with
milliseconds, and `Z`. Reading that form gives the instant that it denotes,
and writing this instant gives the same text again. A date by itself is read
back from its text as well.
-/

namespace WideColumn

/-- A date with a time of day in universal time, to the millisecond. -/
structure Moment where
  date : Date
  hour : Nat
  minute : Nat
  second : Nat
  milli : Nat

namespace Moment

/-- A moment of a year that is written in four digits, and not within a leap
second. -/
structure IsValid (moment : Moment) : Prop where
  date : moment.date.isValid = true
  year : 0 ≤ moment.date.year ∧ moment.date.year ≤ 9999
  hour : moment.hour ≤ 23
  minute : moment.minute ≤ 59
  second : moment.second ≤ 59
  milli : moment.milli ≤ 999

/-- The form `YYYY-MM-DDTHH:MM:SS.mmmZ`. -/
def text (moment : Moment) : List Char :=
  Numeral.padded 4 moment.date.year.toNat ++ '-' :: (Numeral.padded 2 moment.date.month ++ '-' ::
    (Numeral.padded 2 moment.date.day ++ 'T' :: (Numeral.padded 2 moment.hour ++ ':' ::
      (Numeral.padded 2 moment.minute ++ ':' :: (Numeral.padded 2 moment.second ++ '.' ::
        (Numeral.padded 3 moment.milli ++ ['Z']))))))

/-- The point in time that a moment denotes. -/
def instant (moment : Moment) : Instant :=
  { seconds := moment.date.dayNumber * Instant.daySeconds +
      (moment.hour * 3600 + moment.minute * 60 + moment.second : Nat)
    nanos := moment.milli * 1000000 }

end Moment

namespace Instant

theorem takeDigits?_padded {width n : Nat} (hw : 0 < width) (h : n < 10 ^ width) (rest : List Char) :
    takeDigits? width (Numeral.padded width n ++ rest) = some (n, rest) := by
  have hlen := Numeral.length_padded hw h
  have htake : (Numeral.padded width n ++ rest).take width = Numeral.padded width n :=
    List.take_left' hlen
  have hdrop : (Numeral.padded width n ++ rest).drop width = rest := List.drop_left' hlen
  simp only [takeDigits?, htake, hdrop, hlen, Numeral.all_isDigit_padded, Numeral.value_padded,
    and_self, if_true]

theorem bind_takeDigits? {β : Type} (width n : Nat) (hw : 0 < width) (h : n < 10 ^ width)
    (rest : List Char) (next : Nat × List Char → Option β) :
    (takeDigits? width (Numeral.padded width n ++ rest) >>= next) = next (n, rest) := by
  rw [takeDigits?_padded hw h, Option.bind_eq_bind, Option.bind_some]

theorem bind_takeChar? {β : Type} (c : Char) (rest : List Char) (next : List Char → Option β) :
    (takeChar? c (c :: rest) >>= next) = next rest := by
  rw [takeChar?, if_pos rfl, Option.bind_eq_bind, Option.bind_some]

theorem readFraction?_millis {n : Nat} (h : n ≤ 999) :
    readFraction? ('.' :: (Numeral.padded 3 n ++ ['Z'])) = some (n * 1000000, ['Z']) := by
  have hlen : (Numeral.padded 3 n).length = 3 :=
    Numeral.length_padded (by decide) (show n < 1000 by omega)
  have htake : (Numeral.padded 3 n ++ ['Z']).takeWhile Char.isDigit = Numeral.padded 3 n := by
    rw [List.takeWhile_append_of_pos (List.all_eq_true.1 (Numeral.all_isDigit_padded 3 n))]
    exact List.append_nil _
  have hdrop : (Numeral.padded 3 n ++ ['Z']).dropWhile Char.isDigit = ['Z'] :=
    List.dropWhile_append_of_pos (List.all_eq_true.1 (Numeral.all_isDigit_padded 3 n))
  have hkept : (Numeral.padded 3 n).take 9 = Numeral.padded 3 n := List.take_of_length_le (by omega)
  have hne : Numeral.padded 3 n ≠ [] := List.ne_nil_of_length_eq_add_one hlen
  simp only [readFraction?, htake, hdrop, hkept, if_neg hne, hlen, Numeral.value_padded]
  rfl

/-- Reading the written form of a moment gives its point in time. -/
theorem readTimestamp?_text {moment : Moment} (h : moment.IsValid) :
    readTimestamp? moment.text = some moment.instant := by
  obtain ⟨hdate, ⟨hy0, hy1⟩, hh, hmin, hs, hms⟩ := h
  obtain ⟨-, ⟨hm0, hm1⟩, -, hd1⟩ := Date.isValid_iff.1 hdate
  have hd31 := (Date.daysInMonth_bounds moment.date.year moment.date.month).1
  have two {n : Nat} (hn : n ≤ 99) := bind_takeDigits? (β := Instant) 2 n (by decide) (by omega)
  have hyear := bind_takeDigits? (β := Instant) 4 moment.date.year.toNat (by decide) (by omega)
  have hmonth := two (n := moment.date.month) (by omega)
  have hday := two (n := moment.date.day) (by omega)
  have hhour := two (n := moment.hour) (by omega)
  have hminute := two (n := moment.minute) (by omega)
  have hsecond := two (n := moment.second) (by omega)
  have hoffset : readOffset? ['Z'] = some 0 := rfl
  have hsome {α : Type} (a : α) (next : α → Option Instant) : (some a >>= next) = next a := rfl
  have hsame : (⟨moment.date.year.toNat, moment.date.month, moment.date.day⟩ : Date) = moment.date := by
    rw [Int.toNat_of_nonneg hy0]
  have hleap : moment.second ≠ 60 := by omega
  -- from the outside in: each step is taken before the steps behind it are looked at
  simp only [readTimestamp?, Moment.text, ↓bind_takeChar?, ↓hsome, ↓hyear, ↓hmonth, ↓hday,
    ↓if_pos (show 'T' = 'T' ∨ 'T' = 't' ∨ 'T' = ' ' from .inl rfl), ↓hhour, ↓hminute, ↓hsecond,
    readFraction?_millis hms, hoffset, hsame]
  rw [if_pos ⟨hdate, hh, hmin, by omega⟩, if_neg hleap, if_neg hleap, Moment.instant, Int.sub_zero]

theorem read?_text {moment : Moment} (h : moment.IsValid) :
    read? moment.text = some moment.instant := by
  simp only [read?, readTimestamp?_text h]

/-- A moment is written in its own form. -/
theorem text_instant {moment : Moment} (h : moment.IsValid) : moment.instant.text = moment.text := by
  obtain ⟨hdate, ⟨hy0, hy1⟩, hh, hmin, hs, hms⟩ := h
  generalize hday : moment.hour * 3600 + moment.minute * 60 + moment.second = inDay
  -- the time of day is less than a day, so division takes the two apart
  have hdate' : Date.ofDayNumber (moment.instant.seconds / daySeconds) = moment.date := by
    rw [← Date.ofDayNumber_dayNumber hdate]
    congr 1
    simp only [Moment.instant, daySeconds]
    omega
  have hinDay : (moment.instant.seconds % daySeconds).toNat = inDay := by
    simp only [Moment.instant, daySeconds]
    omega
  have hhour : inDay / 3600 = moment.hour := by omega
  have hminute : inDay / 60 % 60 = moment.minute := by omega
  have hsecond : inDay % 60 + moment.instant.nanos / secondNanos = moment.second := by
    simp only [Moment.instant, secondNanos]
    omega
  have hmilli : moment.instant.nanos % secondNanos / 1000000 = moment.milli := by
    simp only [Moment.instant, secondNanos]
    omega
  simp only [text, hdate', hinDay, hhour, hminute, hsecond, hmilli, Date.text, Date.yearText,
    if_pos (And.intro hy0 hy1), Moment.text, List.append_assoc, List.cons_append]

/-- What the text of an instant keeps: a year of four digits, whole
milliseconds, no leap second. -/
structure IsWhole (instant : Instant) : Prop where
  year : 0 ≤ (Date.ofDayNumber (instant.seconds / daySeconds)).year ∧
    (Date.ofDayNumber (instant.seconds / daySeconds)).year ≤ 9999
  nanos : instant.nanos < secondNanos
  millis : instant.nanos % 1000000 = 0

/-- Such an instant is a date with a time of day. -/
theorem IsWhole.exists_moment {instant : Instant} (h : instant.IsWhole) :
    ∃ moment : Moment, moment.IsValid ∧ moment.instant = instant := by
  obtain ⟨⟨hy0, hy1⟩, hnanos, hmillis⟩ := h
  generalize hday : instant.seconds / daySeconds = day at hy0 hy1
  generalize hinDay : (instant.seconds % daySeconds).toNat = inDay
  unfold daySeconds at hday hinDay
  unfold secondNanos at hnanos
  refine ⟨⟨Date.ofDayNumber day, inDay / 3600, inDay / 60 % 60, inDay % 60, instant.nanos / 1000000⟩, ?_, ?_⟩
  · have hvalid : (Date.ofDayNumber day).isValid = true :=
      Date.isValid_ofDayNumber ⟨Int.le_trans (by decide) hy0, Int.le_trans hy1 (by decide)⟩
    exact ⟨hvalid, ⟨hy0, hy1⟩, by dsimp only; omega, by dsimp only; omega, by dsimp only; omega,
      by dsimp only; omega⟩
  · obtain ⟨seconds, nanos⟩ := instant
    simp only [Moment.instant, Date.dayNumber_ofDayNumber, daySeconds, mk.injEq] at *
    omega

/-- An instant with a text that keeps it is read back from it. -/
theorem IsWhole.read?_text {instant : Instant} (h : instant.IsWhole) : read? instant.text = some instant := by
  obtain ⟨moment, hvalid, rfl⟩ := h.exists_moment
  rw [text_instant hvalid, Instant.read?_text hvalid]

end Instant

/-! ## Dates alone -/

namespace Date

theorem takeNumber?_padded {width n : Nat} (hw : 0 < width) (h : n < 10 ^ width) (rest : List Char) :
    takeNumber? width (Numeral.padded width n ++ rest) = some (n, rest) := by
  have hlen := Numeral.length_padded hw h
  have htake : (Numeral.padded width n ++ rest).take width = Numeral.padded width n :=
    List.take_left' hlen
  have hdigits : (Numeral.padded width n).takeWhile Char.isDigit = Numeral.padded width n := by
    simpa using (Numeral.takeWhile_isDigit_append (Numeral.all_isDigit_padded width n) [] (by simp)).1
  have hne : Numeral.padded width n ≠ [] := List.ne_nil_of_length_pos (by omega)
  simp only [takeNumber?, htake, hdigits, if_neg hne, Numeral.value_padded, List.drop_left]

/-- A number of a fixed width begins with a digit. -/
theorem exists_padded_eq_cons {width n : Nat} (hw : 0 < width) (h : n < 10 ^ width) :
    ∃ c digits, c.isDigit = true ∧ Numeral.padded width n = c :: digits := by
  have hlen := Numeral.length_padded hw h
  obtain ⟨c, digits, hc⟩ := List.exists_cons_of_length_pos (show 0 < (Numeral.padded width n).length by omega)
  exact ⟨c, digits, List.all_eq_true.1 (Numeral.all_isDigit_padded width n) c (hc ▸ List.mem_cons_self), hc⟩

/-- Digits have no blanks before them. -/
theorem trimStart_padded {width n : Nat} (hw : 0 < width) (h : n < 10 ^ width) (rest : List Char) :
    Text.trimStart (Numeral.padded width n ++ rest) = Numeral.padded width n ++ rest := by
  obtain ⟨c, digits, hc, hcons⟩ := exists_padded_eq_cons hw h
  rw [hcons, List.cons_append, Text.trimStart,
    List.dropWhile_cons_of_neg (by simp [Numeral.isBlank_of_isDigit hc])]

theorem readYear?_padded {n : Nat} (h : n < 10 ^ 4) (rest : List Char) :
    readYear? (Numeral.padded 4 n ++ rest) = some ((n : Int), rest) := by
  have hnumber := takeNumber?_padded (by decide) h rest
  obtain ⟨c, digits, hc, hcons⟩ := exists_padded_eq_cons (by decide) h
  rw [hcons, List.cons_append] at hnumber ⊢
  unfold readYear?
  split
  next he =>
    cases (List.cons.inj he).1
    cases hc
  next he =>
    cases (List.cons.inj he).1
    cases hc
  next => rw [hnumber, Option.map_some]

theorem readPart?_padded {n : Nat} (h : n < 10 ^ 2) (rest : List Char) :
    readPart? ('-' :: (Numeral.padded 2 n ++ rest)) = some (n, rest) := by
  rw [readPart?, trimStart_padded (by decide) h, takeNumber?_padded (by decide) h]

/-- A date of a year with four digits is read back from its text. -/
theorem read?_text {date : Date} (h : date.isValid = true) (hy : 0 ≤ date.year ∧ date.year ≤ 9999) :
    read? date.text = some date := by
  obtain ⟨-, ⟨hm0, hm1⟩, -, hd1⟩ := isValid_iff.1 h
  have hd31 := (daysInMonth_bounds date.year date.month).1
  have hyear : date.year.toNat < 10 ^ 4 := by omega
  have hday := readPart?_padded (show date.day < 10 ^ 2 by omega) []
  rw [List.append_nil] at hday
  have hsame : (⟨date.year.toNat, date.month, date.day⟩ : Date) = date := by rw [Int.toNat_of_nonneg hy.1]
  simp only [read?, text, yearText, if_pos hy, trimStart_padded (by decide) hyear, readYear?_padded hyear,
    readPart?_padded (show date.month < 10 ^ 2 by omega), hday, Option.bind_eq_bind, Option.bind_some, hsame, h,
    and_self, if_true]

end Date
end WideColumn
