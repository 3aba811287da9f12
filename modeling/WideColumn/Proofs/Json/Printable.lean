import WideColumn.Json.Printer
/-!
# Documents on one line

The compact text of a document holds no control character, whatever its strings
and the names of its fields hold: in a string they are escaped, and nothing else
has any. So it is always a single line.
-/

namespace WideColumn

/-- A text without the control characters before the blank. -/
def Text.Printable (text : List Char) : Prop := ∀ c ∈ text, 0x20 ≤ c.toNat

namespace Text.Printable

theorem nil : Printable [] := by simp [Printable]

theorem cons {c : Char} (hc : 0x20 ≤ c.toNat) {text : List Char} (h : Printable text) : Printable (c :: text) :=
  List.forall_mem_cons.2 ⟨hc, h⟩

theorem append {front back : List Char} (hf : Printable front) (hb : Printable back) : Printable (front ++ back) :=
  List.forall_mem_append.2 ⟨hf, hb⟩

theorem of_subset {text part : List Char} (h : Printable text) (hs : part ⊆ text) : Printable part :=
  fun c hc => h c (hs hc)

theorem replicate (n : Nat) {c : Char} (hc : 0x20 ≤ c.toNat) : Printable (List.replicate n c) := by
  intro d hd
  rwa [List.eq_of_mem_replicate hd]

/-- A printable text is not broken into lines. -/
theorem newLine_not_mem {text : List Char} (h : Printable text) : '\n' ∉ text := by
  intro hm
  exact absurd (h '\n' hm) (by decide)

end Text.Printable

open Text (Printable)

/-! ## Numbers -/

theorem Hex.printable_write (width n : Nat) : Printable (write width n) := by
  induction width generalizing n with
  | zero => exact .nil
  | succ width ih =>
    have hdigit : ∀ v : Fin 16, 0x20 ≤ (digit v.val).toNat := by decide
    exact (ih (n / 16)).append (.cons (hdigit ⟨n % 16, Nat.mod_lt _ (by decide)⟩) .nil)

theorem Numeral.printable_ofNat (n : Nat) : Printable (ofNat n) := by
  intro c hc
  have hdigit := isDigit_of_mem_ofNat hc
  simp only [Char.isDigit, Bool.and_eq_true, decide_eq_true_eq, ge_iff_le, UInt32.le_iff_toNat_le] at hdigit
  have hzero : 48 ≤ c.toNat := hdigit.1
  omega

theorem Numeral.printable_ofInt (n : Int) : Printable (ofInt n) := by
  unfold ofInt
  split
  · exact .cons (by decide) (printable_ofNat _)
  · exact printable_ofNat _

theorem printable_decimalText (c : Nat) (k : Int) : Printable (decimalText c k) := by
  have hdigits := Numeral.printable_ofNat c
  have htake (n : Nat) : Printable ((Numeral.ofNat c).take n) := hdigits.of_subset (List.take_subset _ _)
  have hdrop (n : Nat) : Printable ((Numeral.ofNat c).drop n) := hdigits.of_subset (List.drop_subset _ _)
  have hexponent (e : Int) : Printable ((if e < 0 then '-' else '+') :: Numeral.ofNat e.natAbs) :=
    .cons (by split <;> decide) (Numeral.printable_ofNat _)
  unfold decimalText
  extract_lets digits point fraction
  split
  · exact (hdigits.append (.replicate _ (by decide))).append (.cons (by decide) (.cons (by decide) .nil))
  split
  · exact (htake _).append (.cons (by decide) (hdrop _))
  split
  · exact .cons (by decide) (.cons (by decide) (.append (.replicate _ (by decide)) hdigits))
  · have hfraction : Printable fraction := by
      simp only [fraction]
      split
      · exact .nil
      · exact .cons (by decide) (hdrop 1)
    exact ((htake 1).append hfraction).append (.cons (by decide) (hexponent _))

theorem Binary64.printable_text (x : Binary64) : Printable x.text := by
  unfold text
  extract_lets magnitude
  have hmagnitude : Printable magnitude := by
    simp only [magnitude]
    split
    · exact .cons (by decide) (.cons (by decide) (.cons (by decide) .nil))
    · exact printable_decimalText _ _
  split
  · exact .cons (by decide) hmagnitude
  · exact hmagnitude

theorem Number.printable_text (n : Number) : Printable n.text := by
  cases n with
  | integer n fits => exact Numeral.printable_ofInt n
  | float x finite => exact x.printable_text

/-! ## Strings -/

namespace Json

theorem printable_escape (c : Char) : Printable (escape c) := by
  have hpair {d : Char} (hd : 0x20 ≤ d.toNat) : Printable ['\\', d] := .cons (by decide) (.cons hd .nil)
  unfold escape
  split
  · exact hpair (by decide)
  split
  · exact hpair (by decide)
  split
  · exact hpair (by decide)
  split
  · exact hpair (by decide)
  split
  · exact hpair (by decide)
  split
  · exact hpair (by decide)
  split
  · exact hpair (by decide)
  split
  · exact .cons (by decide) (.cons (by decide) (Hex.printable_write 4 _))
  · next hcontrol => exact .cons (Nat.not_lt.1 hcontrol) .nil

theorem printable_quoted (s : String) : Printable (quoted s) := by
  have hchars : Printable (s.toList.flatMap escape) := by
    intro c hc
    obtain ⟨d, -, hd⟩ := List.mem_flatMap.1 hc
    exact printable_escape d c hd
  exact .cons (by decide) (hchars.append (.cons (by decide) .nil))

/-! ## Documents -/

mutual

theorem printable_write : ∀ document : Json, Printable document.write
  | .null | .bool true | .bool false | .array [] | .object [] => by simp [write, Printable]
  | .number n => n.printable_text
  | .string s => printable_quoted s
  | .array (item :: items) => .cons (by decide) ((printable_write item).append (printable_writeItems items))
  | .object ((name, value) :: fields) =>
    .cons (by decide) ((printable_quoted name).append (.cons (by decide)
      ((printable_write value).append (printable_writeFields fields))))

theorem printable_writeItems : ∀ items : List Json, Printable (writeItems items)
  | [] => .cons (by decide) .nil
  | item :: items => .cons (by decide) ((printable_write item).append (printable_writeItems items))

theorem printable_writeFields : ∀ fields : List (String × Json), Printable (writeFields fields)
  | [] => .cons (by decide) .nil
  | (name, value) :: fields =>
    .cons (by decide) ((printable_quoted name).append (.cons (by decide)
      ((printable_write value).append (printable_writeFields fields))))

end

end Json
end WideColumn
