import WideColumn.Proofs.Numeral
import WideColumn.Statement
/-!
# Counting placeholders piece by piece

The store reads a statement from left to right and only has to remember
whether it is inside quotes. A piece of text that closes every quote that it
opens leaves the reader as it was, so the placeholders of such pieces add up.
`Statement.Piece` is such a piece with its number of placeholders.
-/

namespace WideColumn.Statement

/-! ## The reader inside and outside of quotes -/

/-- The quotes that the reader is in after one more character. -/
def quoteStep : Option Char → Char → Option Char
  | some quote, c => if c = quote then none else some quote
  | none, c => if c = '"' ∨ c = '\'' then some c else none

/-- The quotes that the reader is in behind a text. -/
def quoteAfter (quote : Option Char) (text : List Char) : Option Char := text.foldl quoteStep quote

theorem countPlaceholders_cons (quote : Option Char) (c : Char) (rest : List Char) :
    countPlaceholders quote (c :: rest) =
      (if quote = none ∧ c = '?' then 1 else 0) + countPlaceholders (quoteStep quote c) rest := by
  cases quote with
  | some quote => simp [countPlaceholders, quoteStep]
  | none =>
    by_cases hq : c = '"' ∨ c = '\''
    · have hne : c ≠ '?' := by rintro rfl; revert hq; decide
      simp [countPlaceholders, quoteStep, hq, hne]
    · by_cases hp : c = '?'
      · simp [countPlaceholders, quoteStep, hp, Nat.add_comm]
      · simp [countPlaceholders, quoteStep, hq, hp]

theorem countPlaceholders_append (quote : Option Char) (front back : List Char) :
    countPlaceholders quote (front ++ back) =
      countPlaceholders quote front + countPlaceholders (quoteAfter quote front) back := by
  induction front generalizing quote with
  | nil => simp [quoteAfter, countPlaceholders]
  | cons c front ih =>
    rw [List.cons_append, countPlaceholders_cons, countPlaceholders_cons, ih, Nat.add_assoc]
    rfl

/-- Only the two quotation marks open quotes. -/
theorem quoteAfter_none (text : List Char) :
    quoteAfter none text = none ∨ quoteAfter none text = some '"' ∨
      quoteAfter none text = some '\'' := by
  have hstep (quote : Option Char)
      (h : quote = none ∨ quote = some '"' ∨ quote = some '\'') (c : Char) :
      quoteStep quote c = none ∨ quoteStep quote c = some '"' ∨ quoteStep quote c = some '\'' := by
    rcases h with rfl | rfl | rfl
    · by_cases hq : c = '"' ∨ c = '\''
      · rcases hq with rfl | rfl <;> simp [quoteStep]
      · simp [quoteStep, hq]
    · by_cases hq : c = '"' <;> simp [quoteStep, hq]
    · by_cases hq : c = '\'' <;> simp [quoteStep, hq]
  -- the three states are closed under steps
  suffices ∀ quote, (quote = none ∨ quote = some '"' ∨ quote = some '\'') →
      quoteAfter quote text = none ∨ quoteAfter quote text = some '"' ∨
        quoteAfter quote text = some '\'' from
    this none (.inl rfl)
  induction text with
  | nil => exact fun quote h => h
  | cons c text ih => exact fun quote h => ih _ (hstep quote h c)

/-- A character that neither opens nor closes quotes, and is no placeholder. -/
def Idle (quote : Option Char) (c : Char) : Prop :=
  quoteStep quote c = quote ∧ ¬(quote = none ∧ c = '?')

/-- Idle text leaves the reader as it was. -/
theorem Idle.text {quote : Option Char} {text : List Char} (h : ∀ c ∈ text, Idle quote c) :
    quoteAfter quote text = quote ∧ countPlaceholders quote text = 0 := by
  induction text with
  | nil => exact ⟨rfl, by simp [countPlaceholders]⟩
  | cons c text ih =>
    obtain ⟨hstep, hmark⟩ := h c List.mem_cons_self
    obtain ⟨hafter, hcount⟩ := ih fun c hc => h c (List.mem_cons_of_mem _ hc)
    rw [countPlaceholders_cons, if_neg hmark, quoteAfter, List.foldl_cons, hstep, hcount]
    exact ⟨hafter, rfl⟩

/-! ## Pieces -/

/-- Whether a character is neither a quotation mark nor a question mark. -/
def isPlain (c : Char) : Bool := c != '"' && c != '\'' && c != '?'

/-- A piece of text that closes its quotes, with its number of placeholders. -/
structure Piece (text : String) (count : Nat) : Prop where
  closed : quoteAfter none text.toList = none
  placeholders : countPlaceholders none text.toList = count

namespace Piece

theorem append {front back : String} {m n : Nat} (hf : Piece front m) (hb : Piece back n) :
    Piece (front ++ back) (m + n) := by
  constructor
  · rw [String.toList_append, quoteAfter, List.foldl_append]
    exact (congrArg (List.foldl quoteStep · back.toList) hf.closed).trans hb.closed
  · rw [String.toList_append, countPlaceholders_append, hf.closed, hf.placeholders, hb.placeholders]

theorem zero_append {front back : String} {n : Nat} (hf : Piece front 0) (hb : Piece back n) :
    Piece (front ++ back) n :=
  Nat.zero_add n ▸ hf.append hb

theorem append_zero {front back : String} {n : Nat} (hf : Piece front n) (hb : Piece back 0) :
    Piece (front ++ back) n :=
  hf.append hb

theorem empty : Piece "" 0 := ⟨rfl, rfl⟩

theorem plain (text : String) (h : text.toList.all isPlain = true) : Piece text 0 := by
  have hidle (c : Char) (hc : c ∈ text.toList) : Idle none c := by
    have hplain := List.all_eq_true.1 h c hc
    simp only [isPlain, Bool.and_eq_true, bne_iff_ne, ne_eq] at hplain
    obtain ⟨⟨hdouble, hsingle⟩, hmark⟩ := hplain
    exact ⟨if_neg (not_or.2 ⟨hdouble, hsingle⟩), fun he => hmark he.2⟩
  obtain ⟨hclosed, hcount⟩ := Idle.text hidle
  exact ⟨hclosed, hcount⟩

/-- A name in quotes, whatever it holds but double quotes. -/
theorem quoteName {name : String} (h : '"' ∉ name.toList) : Piece (quoteName name) 0 := by
  have hidle (c : Char) (hc : c ∈ name.toList) : Idle (some '"') c := by
    refine ⟨if_neg ?_, by simp⟩
    rintro rfl
    exact h hc
  obtain ⟨hafter, hcount⟩ := Idle.text hidle
  have htext : (WideColumn.quoteName name).toList = '"' :: (name.toList ++ ['"']) := by
    simp [WideColumn.quoteName]
  have hopen : quoteStep none '"' = some '"' := rfl
  constructor
  · rw [htext, quoteAfter, List.foldl_cons, List.foldl_append, hopen]
    exact congrArg (List.foldl quoteStep · ['"']) hafter
  · rw [htext, countPlaceholders_cons, hopen, countPlaceholders_append, hafter, hcount]
    rfl

theorem intercalate {separator : String} (hs : Piece separator 0) {parts : List String} {n : Nat}
    (hp : ∀ part ∈ parts, Piece part n) : Piece (separator.intercalate parts) (parts.length * n) := by
  induction parts with
  | nil => simpa using empty
  | cons part parts ih =>
    have hrest := ih fun p hm => hp p (List.mem_cons_of_mem _ hm)
    have hfirst := hp part List.mem_cons_self
    cases parts with
    | nil => simpa using hfirst
    | cons next parts =>
      rw [String.intercalate_cons_cons, List.length_cons, Nat.succ_mul, Nat.add_comm]
      exact (hfirst.append hs).append hrest

theorem quoteNames {names : List String} (h : ∀ name ∈ names, '"' ∉ name.toList) :
    Piece (quoteNames names) 0 := by
  have hparts : ∀ part ∈ names.map WideColumn.quoteName, Piece part 0 := by
    intro part hm
    obtain ⟨name, hname, rfl⟩ := List.mem_map.1 hm
    exact quoteName (h name hname)
  exact Nat.mul_zero _ ▸ intercalate (plain ", " (by decide)) hparts

theorem ofNat (n : Nat) : Piece (String.ofList (Numeral.ofNat n)) 0 := by
  refine plain _ (List.all_eq_true.2 fun c hc => ?_)
  have hd := Numeral.isDigit_of_mem_ofNat (String.toList_ofList ▸ hc)
  simp only [isPlain, Bool.and_eq_true, bne_iff_ne, ne_eq]
  refine ⟨⟨?_, ?_⟩, ?_⟩ <;> (rintro rfl; revert hd; decide)

/-- Semicolons at the end are no part of any quotes. -/
theorem trimSemicolons {text : String} {n : Nat} (h : Piece text n) :
    Piece (trimSemicolons text) n := by
  have hsplit : text.toList = (text.toList.reverse.dropWhile (· == ';')).reverse ++
      (text.toList.reverse.takeWhile (· == ';')).reverse := by
    rw [← List.reverse_append, List.takeWhile_append_dropWhile, List.reverse_reverse]
  have hsemicolons : ∀ c ∈ (text.toList.reverse.takeWhile (· == ';')).reverse, c = ';' := by
    intro c hc
    simpa using List.all_eq_true.1 List.all_takeWhile c (List.mem_reverse.1 hc)
  obtain ⟨hclosed, hcount⟩ := h
  rw [hsplit] at hclosed hcount
  generalize (text.toList.reverse.takeWhile (· == ';')).reverse = semicolons
    at hsemicolons hclosed hcount
  have htrimmed :
      (Statement.trimSemicolons text).toList = (text.toList.reverse.dropWhile (· == ';')).reverse :=
    String.toList_ofList
  generalize (text.toList.reverse.dropWhile (· == ';')).reverse = front at hclosed hcount htrimmed
  -- wherever the reader is in front of them, a semicolon neither opens nor closes quotes
  have hidle (c : Char) (hc : c ∈ semicolons) : Idle (quoteAfter none front) c := by
    obtain rfl := hsemicolons c hc
    refine ⟨?_, by simp⟩
    rcases quoteAfter_none front with he | he | he <;> simp [he, quoteStep]
  obtain ⟨hafter, hnone⟩ := Idle.text hidle
  rw [quoteAfter, List.foldl_append] at hclosed
  rw [countPlaceholders_append, hnone, Nat.add_zero] at hcount
  constructor
  · rw [htrimmed]
    exact hafter.symm.trans hclosed
  · rw [htrimmed, hcount]

end Piece

/-! ## Statements and batches -/

/-- The placeholders of a statement are as many as its values, and it closes
its quotes. -/
def Aligned (statement : Statement) : Prop := Piece statement.text statement.params.length

theorem Aligned.placeholders_eq {statement : Statement} (h : statement.Aligned) :
    statement.placeholders = statement.params.length :=
  h.placeholders

theorem ofBatch_aligned {statements : List Statement}
    (h : ∀ statement ∈ statements, statement.Aligned) :
    (ofBatch statements).Aligned := by
  have hlines :
      Piece (String.join (statements.map batchLine)) (statements.flatMap (·.params)).length := by
    induction statements with
    | nil => exact Piece.empty
    | cons statement statements ih =>
      have hfirst : Piece (batchLine statement) statement.params.length := by
        have hpiece := Piece.trimSemicolons (h statement List.mem_cons_self)
        exact ((Piece.plain "  " (by decide)).zero_append hpiece).append_zero
          (Piece.plain _ (by decide))
      rw [List.map_cons, String.join_cons, List.flatMap_cons, List.length_append]
      exact hfirst.append (ih fun s hs => h s (List.mem_cons_of_mem _ hs))
  have hhead : Piece "BEGIN BATCH\n" 0 := Piece.plain _ (by decide)
  have hend : Piece "APPLY BATCH;" 0 := Piece.plain _ (by decide)
  exact (hhead.zero_append hlines).append_zero hend

end WideColumn.Statement
