import Mathlib.Data.List.DropRight
import Mathlib.Data.List.TakeWhile
import WideColumn.Text.Blank
/-!
# Trimmed and divided texts

A text whose first and last characters are not blank is its own trimmed form,
and blanks around it make no difference. The case of letters has no part in
that. Parts that do not hold a separator are found again between separators.
-/

namespace WideColumn.Text

/-! ## Letters in lower case -/

theorem isAlpha_iff (c : Char) :
    c.isAlpha = true ↔ 65 ≤ c.toNat ∧ c.toNat ≤ 90 ∨ 97 ≤ c.toNat ∧ c.toNat ≤ 122 := by
  have halpha : c.isAlpha =
      (decide ('A'.val ≤ c.val ∧ c.val ≤ 'Z'.val) || ('a'.val ≤ c.val && c.val ≤ 'z'.val)) := rfl
  simp [halpha, UInt32.le_iff_toNat_le]

theorem toNat_toLower (c : Char) :
    c.toLower.toNat = if 65 ≤ c.toNat ∧ c.toNat ≤ 90 then c.toNat + 32 else c.toNat := by
  unfold Char.toLower
  simp only [Char.toNat, ge_iff_le, UInt32.le_iff_toNat_le]
  split
  · next h =>
    rw [if_pos (by simpa using h)]
    simp at h ⊢
    omega
  · next h => rw [if_neg (by simpa using h)]

theorem isBlank_of_isAlpha {c : Char} (h : c.isAlpha = true) : isBlank c = false := by
  have hletter := (isAlpha_iff c).1 h
  simp [isBlank]
  omega

/-- Only letters become other characters. -/
theorem toLower_eq_iff {c d : Char} (hd : d.isAlpha = false) : c.toLower = d ↔ c = d := by
  rw [← Char.toNat_inj, toNat_toLower, ← Char.toNat_inj]
  have hletter := mt (isAlpha_iff d).2 (Bool.eq_false_iff.1 hd)
  split <;> omega

theorem isBlank_toLower (c : Char) : isBlank c.toLower = isBlank c := by
  unfold isBlank
  rw [toNat_toLower]
  split
  · grind
  · rfl

theorem toLower_toLower (c : Char) : c.toLower.toLower = c.toLower := by
  rw [← Char.toNat_inj, toNat_toLower, toNat_toLower]
  grind

theorem lowerAscii_lowerAscii (text : List Char) : lowerAscii (lowerAscii text) = lowerAscii text := by
  rw [lowerAscii, lowerAscii, List.map_map]
  exact List.map_congr_left fun c _ => toLower_toLower c

theorem mem_lowerAscii_iff {c : Char} (hc : c.isAlpha = false) {text : List Char} :
    c ∈ lowerAscii text ↔ c ∈ text := by
  simp [lowerAscii, toLower_eq_iff hc]

/-! ## Trimming -/

/-- A text of blanks. -/
def Blank (text : List Char) : Prop := ∀ c ∈ text, isBlank c = true

instance (text : List Char) : Decidable (Blank text) := List.decidableBAll (isBlank · = true) text

theorem blank_nil : Blank [] := by simp [Blank]

theorem trimStart_append_of_blank {before : List Char} (hb : Blank before) (text : List Char) :
    trimStart (before ++ text) = trimStart text := List.dropWhile_append_of_pos hb

theorem trimEnd_append_of_blank {after : List Char} (ha : Blank after) (text : List Char) :
    trimEnd (text ++ after) = trimEnd text := by
  have hreverse : ∀ c ∈ after.reverse, isBlank c = true := fun c hc => ha c (List.mem_reverse.1 hc)
  rw [trimEnd, List.reverse_append, List.dropWhile_append_of_pos hreverse]
  rfl

/-- Blanks around a text make no difference. -/
theorem trim_append_of_blank {before after : List Char} (hb : Blank before) (ha : Blank after) (text : List Char) :
    trim (before ++ text ++ after) = trim text := by
  rw [List.append_assoc, trim, trimStart_append_of_blank hb, trimStart, List.dropWhile_append]
  split
  · next hblank => rw [trim, trimStart, List.isEmpty_iff.1 hblank, List.dropWhile_eq_nil_iff.2 ha]
  · exact trimEnd_append_of_blank ha _

theorem blank_takeWhile (text : List Char) : Blank (text.takeWhile isBlank) := fun _ hc => List.mem_takeWhile_imp hc

/-- Only blanks are trimmed. -/
theorem mem_trimStart {c : Char} (hc : isBlank c = false) {text : List Char} (hm : c ∈ text) :
    c ∈ trimStart text := by
  rw [← List.takeWhile_append_dropWhile (p := isBlank) (l := text), List.mem_append] at hm
  rcases hm with hm | hm
  · exact absurd (blank_takeWhile text c hm) (by simp [hc])
  · exact hm

theorem trim_trimStart (text : List Char) : trim (trimStart text) = trim text :=
  congrArg trimEnd (List.dropWhile_idempotent isBlank text)

/-- A text is its trimmed form with blanks around it. -/
theorem exists_blank_append_trim (text : List Char) :
    ∃ before after, Blank before ∧ Blank after ∧ text = before ++ trim text ++ after := by
  have hstart : text = text.takeWhile isBlank ++ trimStart text := List.takeWhile_append_dropWhile.symm
  have hend : trimStart text = trim text ++ ((trimStart text).reverse.takeWhile isBlank).reverse := by
    rw [trim, trimEnd, ← List.reverse_append, List.takeWhile_append_dropWhile, List.reverse_reverse]
  refine ⟨text.takeWhile isBlank, ((trimStart text).reverse.takeWhile isBlank).reverse, blank_takeWhile text, ?_, ?_⟩
  · intro c hc
    exact blank_takeWhile _ c (List.mem_reverse.1 hc)
  · rw [List.append_assoc, ← hend]
    exact hstart

theorem trim_lowerAscii (text : List Char) : trim (lowerAscii text) = lowerAscii (trim text) := by
  have hdrop (l : List Char) : (l.map Char.toLower).dropWhile isBlank = (l.dropWhile isBlank).map Char.toLower := by
    rw [List.dropWhile_map]
    congr 2
    funext c
    exact isBlank_toLower c
  simp only [trim, trimEnd, trimStart, lowerAscii, hdrop, ← List.map_reverse]

/-- Where a character in a text and the last one are not blank, there are blanks
to be trimmed only before the first one. -/
theorem trim_append_cons {c d : Char} (hc : isBlank c = false) (hd : isBlank d = false) (head inner : List Char) :
    trim (head ++ c :: inner ++ [d]) = trimStart head ++ c :: inner ++ [d] := by
  have hstart : trimStart (head ++ c :: inner ++ [d]) = trimStart head ++ c :: inner ++ [d] := by
    simp [trimStart, List.dropWhile_append, hc]
  rw [trim, hstart]
  simp [trimEnd, hd]

theorem trim_eq_self {text : List Char} (hfirst : text.head?.any isBlank = false)
    (hlast : text.getLast?.any isBlank = false) : trim text = text := by
  have hstart {l : List Char} (h : l.head?.any isBlank = false) : l.dropWhile isBlank = l := by
    cases l with
    | nil => rfl
    | cons c l => rw [List.dropWhile_cons_of_neg (by simpa using h)]
  rw [trim, trimStart, trimEnd, hstart hfirst, hstart, List.reverse_reverse]
  rwa [List.head?_reverse]

theorem trim_eq_self_of_forall {text : List Char} (h : ∀ c ∈ text, isBlank c = false) : trim text = text := by
  refine trim_eq_self ?_ ?_
  · exact (Option.any_eq_false ..).2 fun c hc => h c (List.mem_of_head? hc)
  · exact (Option.any_eq_false ..).2 fun c hc => h c (List.mem_of_getLast? hc)

/-! ## The first separator -/

theorem splitFirst_append {c : Char} (before after : List Char) (h : c ∉ before) :
    splitFirst c (before ++ c :: after) = some (before, after) := by
  induction before with
  | nil => simp [splitFirst]
  | cons d before ih =>
    have hd : d ≠ c := fun he => h (by simp [he])
    simp [splitFirst, hd, ih fun hm => h (List.mem_cons_of_mem _ hm)]

theorem splitFirst_eq_some_iff {c : Char} {text before after : List Char} :
    splitFirst c text = some (before, after) ↔ text = before ++ c :: after ∧ c ∉ before := by
  constructor
  · intro h
    induction text generalizing before with
    | nil => cases h
    | cons d text ih =>
      rw [splitFirst] at h
      split at h
      · next hd =>
        cases h
        exact ⟨by rw [hd, List.nil_append], by simp⟩
      · next hd =>
        obtain ⟨⟨rest, _⟩, hrest, he⟩ := Option.map_eq_some_iff.1 h
        cases he
        obtain ⟨rfl, hnot⟩ := ih hrest
        exact ⟨rfl, by simp [hnot, Ne.symm hd]⟩
  · rintro ⟨rfl, hnot⟩
    exact splitFirst_append before after hnot

theorem splitFirst_lowerAscii {c : Char} (hc : c.isAlpha = false) (text : List Char) :
    splitFirst c (lowerAscii text) =
      (splitFirst c text).map fun (before, after) => (lowerAscii before, lowerAscii after) := by
  induction text with
  | nil => rfl
  | cons d text ih =>
    rw [lowerAscii, List.map_cons, ← lowerAscii, splitFirst, splitFirst, ih]
    by_cases hd : d = c
    · rw [if_pos hd, if_pos ((toLower_eq_iff hc).2 hd)]
      rfl
    · rw [if_neg hd, if_neg (mt (toLower_eq_iff hc).1 hd), Option.map_map, Option.map_map]
      rfl

theorem append_cons_inj {c : Char} {left right back back' : List Char} (hl : c ∉ left) (hr : c ∉ right)
    (h : left ++ c :: back = right ++ c :: back') : left = right ∧ back = back' := by
  have hsplit := splitFirst_append left back hl
  rw [h, splitFirst_append right back' hr] at hsplit
  cases hsplit
  exact ⟨rfl, rfl⟩

/-! ## All pieces -/

theorem pieces_of_not_mem {c : Char} {text : List Char} (h : c ∉ text) : pieces c text = [text] := by
  induction text with
  | nil => rfl
  | cons d text ih =>
    have hd : d ≠ c := fun he => h (by simp [he])
    rw [pieces, if_neg hd, ih fun hm => h (List.mem_cons_of_mem _ hm)]

theorem pieces_append_cons {c : Char} {piece : List Char} (h : c ∉ piece) (rest : List Char) :
    pieces c (piece ++ c :: rest) = piece :: pieces c rest := by
  induction piece with
  | nil => rw [List.nil_append, pieces, if_pos rfl]
  | cons d piece ih =>
    have hd : d ≠ c := fun he => h (by simp [he])
    rw [List.cons_append, pieces, if_neg hd, ih fun hm => h (List.mem_cons_of_mem _ hm)]

theorem pieces_intercalate {c : Char} {texts : List (List Char)} (hne : texts ≠ [])
    (h : ∀ text ∈ texts, c ∉ text) : pieces c ([c].intercalate texts) = texts := by
  induction texts with
  | nil => exact absurd rfl hne
  | cons text texts ih =>
    have htext := h text List.mem_cons_self
    cases texts with
    | nil => simpa using pieces_of_not_mem htext
    | cons next texts =>
      rw [List.intercalate_cons_cons, List.append_assoc, List.singleton_append, pieces_append_cons htext,
        ih (by simp) fun other hm => h other (List.mem_cons_of_mem _ hm)]

end WideColumn.Text
