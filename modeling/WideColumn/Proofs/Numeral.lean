import WideColumn.Numeral
import WideColumn.Proofs.Text
/-!
# Numbers read back from their digits

The digits of a natural number denote it, with or without zeros in front, and
only zero begins with a zero. Integers are read back from their text, and a
plain decimal is read as some real number.
-/

namespace WideColumn.Numeral

theorem value_ofNat (n : Nat) : value (ofNat n) = n := Nat.ofDigitChars_ten_toDigits

theorem ofNat_ne_nil (n : Nat) : ofNat n ≠ [] := Nat.toDigits_ne_nil

theorem all_isDigit_ofNat (n : Nat) : (ofNat n).all Char.isDigit = true :=
  List.all_eq_true.2 fun _ h => isDigit_of_mem_ofNat h

/-- A positive number does not begin with a zero. -/
theorem head?_ofNat_ne_zero {n : Nat} (h : 0 < n) : (ofNat n).head? ≠ some '0' := by
  induction n using Nat.strongRecOn with
  | ind n ih =>
    unfold ofNat
    by_cases hn : n < 10
    · rw [Nat.toDigits_of_lt_base hn]
      have : ∀ k : Fin 10, 0 < k.val → [k.val.digitChar].head? ≠ some '0' := by decide
      exact this ⟨n, hn⟩ h
    · rw [Nat.toDigits_of_base_le (by decide) (by omega)]
      -- the first digit is that of the tenth part
      have htens := ih (n / 10) (by omega) (by omega)
      cases hd : Nat.toDigits 10 (n / 10) with
      | nil => exact absurd hd Nat.toDigits_ne_nil
      | cons c cs => simpa [ofNat, hd] using htens

theorem ofNat_eq_zero_of_head? {n : Nat} (h : (ofNat n).head? = some '0') : ofNat n = ['0'] := by
  rcases Nat.eq_zero_or_pos n with rfl | hn
  · rfl
  · exact absurd h (head?_ofNat_ne_zero hn)

theorem ofNat_append_ne_cons {c : Char} (hc : c.isDigit = false) (n : Nat) (rest more : List Char) :
    ofNat n ++ rest ≠ c :: more := by
  intro h
  cases hd : ofNat n with
  | nil => exact ofNat_ne_nil n hd
  | cons d ds =>
    have hdigit : d.isDigit = true := isDigit_of_mem_ofNat (n := n) (hd ▸ List.mem_cons_self)
    rw [hd] at h
    cases h
    exact absurd hdigit (by simp [hc])

/-- An integer begins with a digit or a minus. -/
theorem ofInt_eq_cons (n : Int) : ∃ c more, ofInt n = c :: more ∧ (c = '-' ∨ c.isDigit = true) := by
  unfold ofInt
  split
  · exact ⟨'-', _, rfl, .inl rfl⟩
  · cases hd : ofNat n.natAbs with
    | nil => exact absurd hd (ofNat_ne_nil _)
    | cons d ds =>
      have hdigit : d.isDigit = true := isDigit_of_mem_ofNat (n := n.natAbs) (hd ▸ List.mem_cons_self)
      exact ⟨d, ds, rfl, .inr hdigit⟩

/-! ## Numbers of a fixed width -/

theorem length_padded {width n : Nat} (hw : 0 < width) (h : n < Nat.pow 10 width) :
    (padded width n).length = width := by
  have hlen : (ofNat n).length ≤ width := (Nat.length_toDigits_le_iff (by decide) hw).2 h
  rw [padded, List.length_append, List.length_replicate]
  omega

theorem all_isDigit_padded (width n : Nat) : (padded width n).all Char.isDigit = true := by
  rw [padded, List.all_append, all_isDigit_ofNat, Bool.and_true, List.all_replicate]
  split <;> rfl

theorem value_padded (width n : Nat) : value (padded width n) = n := by
  rw [padded, value, Nat.ofDigitChars_append, Nat.ofDigitChars_replicate_zero, Nat.mul_zero]
  exact value_ofNat n

/-! ## Runs of digits -/

theorem isBlank_of_isDigit {c : Char} (h : c.isDigit = true) : Text.isBlank c = false := by
  simp only [Char.isDigit, Bool.and_eq_true, decide_eq_true_eq, ge_iff_le, UInt32.le_iff_toNat_le] at h
  have h0 : 48 ≤ c.toNat := h.1
  have h1 : c.toNat ≤ 57 := h.2
  simp only [Text.isBlank, Bool.or_eq_false_iff, Bool.and_eq_false_iff, decide_eq_false_iff_not, beq_eq_false_iff_ne]
  omega

/-- A run of digits ends where something else follows. -/
theorem takeWhile_isDigit_append {digits : List Char} (h : digits.all Char.isDigit = true) (rest : List Char)
    (hrest : ∀ c ∈ rest.head?, c.isDigit = false) :
    (digits ++ rest).takeWhile Char.isDigit = digits ∧ (digits ++ rest).dropWhile Char.isDigit = rest := by
  have hdigits := List.all_eq_true.1 h
  rw [List.takeWhile_append_of_pos hdigits, List.dropWhile_append_of_pos hdigits]
  cases rest with
  | nil => simp
  | cons c rest =>
    have hc := hrest c rfl
    simp [hc]

theorem not_mem_ofNat {c : Char} (hc : c.isDigit = false) (n : Nat) : c ∉ ofNat n := fun hm => by
  simp [isDigit_of_mem_ofNat hm] at hc

/-! ## Integers -/

theorem natural?_ofNat (n : Nat) : natural? (ofNat n) = some n := by
  rw [natural?, if_pos ⟨ofNat_ne_nil n, all_isDigit_ofNat n⟩, value_ofNat]

theorem sign_of_isDigit {c : Char} (h : c.isDigit = true) (rest : List Char) :
    sign (c :: rest) = (false, c :: rest) := by
  have hne {d : Char} (hd : d.isDigit = false) : c ≠ d := fun he => by simp [he, hd] at h
  unfold sign
  split
  next he => exact absurd (List.cons.inj he).1 (hne (by decide))
  next he => exact absurd (List.cons.inj he).1 (hne (by decide))
  next => rfl

theorem integer?_ofInt (n : Int) : integer? (ofInt n) = some n := by
  unfold ofInt
  split
  · simp only [integer?, sign, natural?_ofNat]
    change some (-(n.natAbs : Int)) = some n
    rw [Option.some.injEq]
    omega
  · obtain ⟨c, digits, hdigits⟩ := List.exists_cons_of_ne_nil (ofNat_ne_nil n.natAbs)
    have hc : c.isDigit = true := isDigit_of_mem_ofNat (n := n.natAbs) (hdigits ▸ List.mem_cons_self)
    rw [integer?, hdigits, sign_of_isDigit hc, ← hdigits]
    simp only [natural?_ofNat]
    change some (n.natAbs : Int) = some n
    rw [Option.some.injEq]
    omega

theorem int64?_ofInt (n : Int64) : int64? (ofInt n.toInt) = some n := by
  rw [int64?, integer?_ofInt, Option.bind_some, if_pos ⟨Int64.le_toInt n, Int64.toInt_le n⟩, Int64.ofInt_toInt]

/-- No other number is read from the text of an integer. -/
theorem toInt_of_int64? {n : Int} {m : Int64} (h : int64? (ofInt n) = some m) : m.toInt = n := by
  rw [int64?, integer?_ofInt, Option.bind_some] at h
  split at h
  next hn =>
    cases h
    exact Int64.toInt_ofInt_of_le hn.1 (Int.lt_add_one_of_le hn.2)
  next => cases h

/-- The text of an integer has no blanks. -/
theorem trim_ofInt (n : Int) : Text.trim (ofInt n) = ofInt n := by
  refine Text.trim_eq_self_of_forall fun c hc => ?_
  unfold ofInt at hc
  split at hc
  · rcases List.mem_cons.1 hc with rfl | hc
    · decide
    · exact isBlank_of_isDigit (isDigit_of_mem_ofNat hc)
  · exact isBlank_of_isDigit (isDigit_of_mem_ofNat hc)

/-! ## Decimals -/

/-- An optional minus, digits, and an optional fraction behind a point. -/
def IsDecimal (text : List Char) : Prop :=
  ∃ minus whole fraction, text = minus ++ (whole ++ fraction) ∧ (minus = [] ∨ minus = ['-']) ∧
    (whole ≠ [] ∧ whole.all Char.isDigit = true) ∧
    (fraction = [] ∨ ∃ digits, fraction = '.' :: digits ∧ digits.all Char.isDigit = true)

theorem decimal?_ne_none {whole fraction : List Char} (hne : whole ≠ [])
    (hwhole : whole.all Char.isDigit = true)
    (hfraction : fraction = [] ∨ ∃ digits, fraction = '.' :: digits ∧ digits.all Char.isDigit = true) :
    decimal? (whole ++ fraction) ≠ none := by
  rcases hfraction with rfl | ⟨digits, rfl, hdigits⟩
  · obtain ⟨htake, hdrop⟩ := takeWhile_isDigit_append hwhole [] (by simp)
    rw [List.append_nil] at htake hdrop ⊢
    simp [decimal?, htake, hdrop, hne, finalExponent?]
  · obtain ⟨htake, hdrop⟩ := takeWhile_isDigit_append hwhole ('.' :: digits) (by simp)
    obtain ⟨htake', hdrop'⟩ := takeWhile_isDigit_append hdigits [] (by simp)
    rw [List.append_nil] at htake' hdrop'
    simp [decimal?, htake, hdrop, htake', hdrop', hne, finalExponent?]

/-- Every plain decimal is read as a real number. -/
theorem IsDecimal.real?_ne_none {text : List Char} (h : IsDecimal text) : real? text ≠ none := by
  obtain ⟨minus, whole, fraction, rfl, hminus, ⟨hne, hwhole⟩, hfraction⟩ := h
  have hmagnitude : magnitude? (whole ++ fraction) ≠ none := by
    unfold magnitude?
    dsimp only
    split
    · simp
    · split
      · simp
      · exact decimal?_ne_none hne hwhole hfraction
  have hsign : ∃ negative, sign (minus ++ (whole ++ fraction)) = (negative, whole ++ fraction) := by
    rcases hminus with rfl | rfl
    · obtain ⟨c, more, rfl⟩ := List.exists_cons_of_ne_nil hne
      exact ⟨false, sign_of_isDigit (List.all_eq_true.1 hwhole c List.mem_cons_self) _⟩
    · exact ⟨true, rfl⟩
  obtain ⟨negative, hsign⟩ := hsign
  rw [real?, hsign]
  simpa using hmagnitude

end WideColumn.Numeral
