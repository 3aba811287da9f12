import Mathlib.Data.List.Forall2
import WideColumn.Proofs.Text
/-!
# Words and parts of texts

A text spells words: runs of characters that are not blank, with blanks between
them. Divided at a separator it has parts without the separator in them. Both
views of a text are unique, and they are what cutting it finds.
-/

namespace WideColumn.Text

/-! ## Words -/

structure IsWord (word : List Char) : Prop where
  ne_nil : word ≠ []
  solid : ∀ c ∈ word, isBlank c = false

/-- Whether a word before a text would end there. -/
def EndsWord (text : List Char) : Prop := ∀ c ∈ text.head?, isBlank c = true

/-- The words that a text spells, in order. -/
inductive Spells : List Char → List (List Char) → Prop
  | blank {text : List Char} (h : Blank text) : Spells text []
  | word {before word after : List Char} {found : List (List Char)} (hbefore : Blank before) (hword : IsWord word)
      (hend : EndsWord after) (h : Spells after found) : Spells (before ++ word ++ after) (word :: found)

theorem words_cons_of_blank {c : Char} (hc : isBlank c = true) (rest : List Char) : words (c :: rest) = words rest := by
  conv_lhs => unfold words
  exact if_pos hc

theorem words_cons_of_end {c : Char} (hc : isBlank c = false) {rest : List Char} (hend : EndsWord rest) :
    words (c :: rest) = [c] :: words rest := by
  conv_lhs => unfold words
  simp only [if_neg (Bool.eq_false_iff.1 hc)]
  cases rest with
  | nil => rfl
  | cons d rest =>
    cases words (d :: rest) with
    | nil => rfl
    | cons first more => exact if_pos (hend d rfl)

theorem words_cons_of_more {c d : Char} (hc : isBlank c = false) (hd : isBlank d = false) {rest first : List Char}
    {more : List (List Char)} (h : words (d :: rest) = first :: more) :
    words (c :: d :: rest) = (c :: first) :: more := by
  conv_lhs => unfold words
  simp only [if_neg (Bool.eq_false_iff.1 hc), h]
  exact if_neg (Bool.eq_false_iff.1 hd)

theorem words_append_of_blank {before : List Char} (h : Blank before) (text : List Char) :
    words (before ++ text) = words text := by
  induction before with
  | nil => rfl
  | cons c before ih =>
    obtain ⟨hc, hbefore⟩ := List.forall_mem_cons.1 h
    exact (words_cons_of_blank hc _).trans (ih hbefore)

theorem words_of_blank {text : List Char} (h : Blank text) : words text = [] := by
  have hwords := words_append_of_blank h []
  rwa [List.append_nil] at hwords

/-- A word is cut off where it ends. -/
theorem words_append {word after : List Char} (hword : IsWord word) (hend : EndsWord after) :
    words (word ++ after) = word :: words after := by
  obtain ⟨hne, hsolid⟩ := hword
  induction word with
  | nil => exact absurd rfl hne
  | cons c word ih =>
    obtain ⟨hc, hrest⟩ := List.forall_mem_cons.1 hsolid
    cases word with
    | nil => exact words_cons_of_end hc hend
    | cons d word =>
      have hd : isBlank d = false := hrest d List.mem_cons_self
      exact words_cons_of_more hc hd (ih (List.cons_ne_nil d word) hrest)

/-- A text that is not blank has a first word. -/
theorem exists_first_word {text : List Char} (h : ¬Blank text) :
    ∃ before word after, text = before ++ word ++ after ∧ Blank before ∧ IsWord word ∧ EndsWord after := by
  let solid (c : Char) : Bool := !isBlank c
  have hsplit : text = text.takeWhile isBlank ++ trimStart text := List.takeWhile_append_dropWhile.symm
  have hword : trimStart text = (trimStart text).takeWhile solid ++ (trimStart text).dropWhile solid :=
    List.takeWhile_append_dropWhile.symm
  refine ⟨text.takeWhile isBlank, (trimStart text).takeWhile solid, (trimStart text).dropWhile solid, ?_,
    blank_takeWhile text, ⟨?_, ?_⟩, ?_⟩
  · rw [List.append_assoc, ← hword]
    exact hsplit
  · -- what is left when blanks are dropped begins with another character
    cases hstart : trimStart text with
    | nil => exact absurd (List.dropWhile_eq_nil_iff.1 hstart) h
    | cons c rest =>
      have hc : isBlank c = false := by
        have hhead := List.head?_dropWhile_not isBlank text
        rw [← trimStart, hstart] at hhead
        simpa using hhead
      simp [solid, hc]
  · intro c hc
    simpa [solid] using List.mem_takeWhile_imp hc
  · intro c hc
    have hhead := List.head?_dropWhile_not solid (trimStart text)
    rw [hc] at hhead
    simpa [solid] using hhead

/-- The words that a text spells are those that are cut out of it. -/
theorem spells_iff {text : List Char} {found : List (List Char)} : Spells text found ↔ found = words text := by
  constructor
  · intro h
    induction h with
    | blank h => exact (words_of_blank h).symm
    | word hbefore hword hend h ih =>
      rw [List.append_assoc, words_append_of_blank hbefore, words_append hword hend, ih]
  · rintro rfl
    induction hn : text.length using Nat.strong_induction_on generalizing text with
    | _ n ih =>
      by_cases hblank : Blank text
      · rw [words_of_blank hblank]
        exact .blank hblank
      · obtain ⟨before, word, after, rfl, hbefore, hword, hend⟩ := exists_first_word hblank
        have hpos := List.length_pos_of_ne_nil hword.ne_nil
        have hlt : after.length < n := by
          simp only [List.length_append] at hn
          omega
        rw [List.append_assoc, words_append_of_blank hbefore, words_append hword hend, ← List.append_assoc]
        exact .word hbefore hword hend (ih _ hlt rfl)

theorem words_eq_nil_iff {text : List Char} : words text = [] ↔ Blank text := by
  constructor
  · intro h
    have hspells : Spells text [] := spells_iff.2 h.symm
    cases hspells with
    | blank h => exact h
  · exact words_of_blank

/-! ## Words of trimmed texts -/

theorem Spells.append_blank {text after : List Char} {found : List (List Char)} (h : Spells text found)
    (ha : Blank after) : Spells (text ++ after) found := by
  induction h with
  | blank h => exact .blank (List.forall_mem_append.2 ⟨h, ha⟩)
  | @word before word rest found hbefore hword hend h ih =>
    rw [List.append_assoc]
    refine .word hbefore hword ?_ ih
    cases rest with
    | nil => exact fun c hc => ha c (List.mem_of_head? hc)
    | cons c rest => exact hend

/-- Trimming changes no word. -/
theorem words_trim (text : List Char) : words (trim text) = words text := by
  obtain ⟨before, after, hbefore, hafter, htext⟩ := exists_blank_append_trim text
  have hspells : Spells (trim text ++ after) (words (trim text)) := (spells_iff.2 rfl).append_blank hafter
  conv_rhs => rw [htext, List.append_assoc, words_append_of_blank hbefore]
  exact spells_iff.1 hspells

theorem trim_eq_nil_iff {text : List Char} : trim text = [] ↔ Blank text := by
  constructor
  · intro h
    obtain ⟨before, after, hbefore, hafter, htext⟩ := exists_blank_append_trim text
    rw [htext, h, List.append_nil]
    exact List.forall_mem_append.2 ⟨hbefore, hafter⟩
  · intro h
    rw [trim, trimStart, List.dropWhile_eq_nil_iff.2 h]
    rfl

/-! ## Parts -/

/-- The parts of a text between the occurrences of a separator. -/
structure DividesAt (separator : Char) (text : List Char) (parts : List (List Char)) : Prop where
  ne_nil : parts ≠ []
  whole : ∀ part ∈ parts, separator ∉ part
  joined : [separator].intercalate parts = text

theorem not_mem_pieces (c : Char) (text : List Char) : ∀ piece ∈ pieces c text, c ∉ piece := by
  induction text with
  | nil => simp [pieces]
  | cons d text ih =>
    rw [pieces]
    split
    · simpa using ih
    · next hd =>
      cases hpieces : pieces c text with
      | nil => exact absurd hpieces (pieces_ne_nil c text)
      | cons piece more =>
        rw [hpieces] at ih
        simpa [Ne.symm hd] using ih

theorem intercalate_pieces (c : Char) (text : List Char) : [c].intercalate (pieces c text) = text := by
  induction text with
  | nil => simp [pieces]
  | cons d text ih =>
    rw [pieces]
    cases hpieces : pieces c text with
    | nil => exact absurd hpieces (pieces_ne_nil c text)
    | cons piece more =>
      rw [hpieces] at ih
      split
      · next hd => rw [List.intercalate_cons_cons, ih, hd, List.nil_append, List.singleton_append]
      · cases more with
        | nil => simpa using ih
        | cons next more =>
          rw [List.intercalate_cons_cons] at ih ⊢
          simpa using ih

theorem dividesAt_iff {c : Char} {text : List Char} {parts : List (List Char)} :
    DividesAt c text parts ↔ parts = pieces c text := by
  constructor
  · intro h
    rw [← h.joined, pieces_intercalate h.ne_nil h.whole]
  · rintro rfl
    exact ⟨pieces_ne_nil c text, not_mem_pieces c text, intercalate_pieces c text⟩

/-- The words of each part of a text between the occurrences of a separator. -/
def SpellsAt (separator : Char) (text : List Char) (found : List (List (List Char))) : Prop :=
  ∃ parts, DividesAt separator text parts ∧ List.Forall₂ Spells parts found

theorem spellsAt_iff {c : Char} {text : List Char} {found : List (List (List Char))} :
    SpellsAt c text found ↔ found = (pieces c text).map words := by
  have hspells : Spells = fun text found => words text = found := by
    funext text found
    exact propext (spells_iff.trans eq_comm)
  unfold SpellsAt
  simp only [dividesAt_iff, exists_eq_left]
  rw [hspells, ← List.forall₂_map_left_iff, List.forall₂_eq_eq_eq, eq_comm]

end WideColumn.Text
