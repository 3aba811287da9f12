import WideColumn.Criteria.Sort
import WideColumn.Proofs.Success
import WideColumn.Proofs.Text.Words
/-!
# Orderings in text

In a text the parts between commas are orderings: the name of a field, which
may be followed by the word for a direction. Every text in this form is read as
it says. What stands behind the direction is not looked at, so a text is also
read if a comma is missing there; a text whose parts have no more than two words
is read only in this form.
-/

namespace WideColumn

open Text (SpellsAt pieces words)

namespace Direction

/-- The words for a direction, in lower case. -/
def words : Direction → List String
  | .ascending => ["asc", "1"]
  | .descending => ["desc", "-1"]

/-- Whether a word stands for a direction, in letters of either case. -/
def MeantBy (direction : Direction) (word : List Char) : Prop :=
  String.ofList (Text.lowerAscii word) ∈ direction.words

theorem ofWord?_eq_some_iff {word : List Char} {direction : Direction} :
    ofWord? word = some direction ↔ direction.MeantBy word := by
  unfold ofWord? MeantBy
  split <;> cases direction <;> simp_all [words]

theorem readWord_eq_ok_iff {field : String} {word : List Char} {direction : Direction} :
    readWord field word = .ok direction ↔ direction.MeantBy word := by
  rw [← ofWord?_eq_some_iff, readWord]
  cases ofWord? word with
  | none => simp
  | some found => simp

end Direction

namespace Ordering

/-- What the words of a part order by: a field in ascending order, or a field
and its direction. -/
inductive Says : List (List Char) → Ordering → Prop
  | field (field : List Char) : Says [field] ⟨String.ofList field, .ascending⟩
  | directed (field : List Char) {word : List Char} {direction : Direction} (h : direction.MeantBy word) :
      Says [field, word] ⟨String.ofList field, direction⟩

/-! ## Words of a part -/

/-- The ordering that is read from the words of a part. -/
def ofWords : List (List Char) → Except SortError Ordering
  | [] => .ok ⟨"", .ascending⟩
  | [field] => .ok ⟨String.ofList field, .ascending⟩
  | field :: word :: _ => (Direction.readWord (String.ofList field) word).map (⟨String.ofList field, ·⟩)

theorem readPart_trim (part : List Char) : readPart (Text.trim part) = ofWords (words part) := by
  have hread : readPart (Text.trim part) = ofWords (words (Text.trim part)) := rfl
  rw [hread, Text.words_trim]

/-- Up to two words are read as they say. -/
theorem ofWords_eq_ok_iff {found : List (List Char)} (hne : found ≠ []) {ordering : Ordering} :
    ofWords found = .ok ordering ∧ found.length ≤ 2 ↔ Says found ordering := by
  constructor
  · rintro ⟨h, hlength⟩
    match found with
    | [] => exact absurd rfl hne
    | [field] =>
      cases h
      exact .field field
    | [field, word] =>
      obtain ⟨direction, hdirection, rfl⟩ := map_eq_ok_iff.1 h
      exact .directed field (Direction.readWord_eq_ok_iff.1 hdirection)
    | _ :: _ :: _ :: _ => simp at hlength
  · intro h
    cases h with
    | field field => exact ⟨rfl, by simp⟩
    | directed field h => exact ⟨map_eq_ok_iff.2 ⟨_, Direction.readWord_eq_ok_iff.2 h, rfl⟩, by simp⟩

/-! ## Parts of a text -/

/-- The parts that are read are those with words. -/
theorem map_readPart_parts (text : String) :
    (parts text).map readPart = (((pieces ',' text.toList).map words).filter (· ≠ [])).map ofWords := by
  have hkept (part : List Char) : (Text.trim part ≠ []) = (words part ≠ []) := by
    rw [ne_eq, Text.trim_eq_nil_iff, ne_eq, Text.words_eq_nil_iff]
  unfold parts
  rw [List.filter_map, List.filter_map, List.map_map, List.map_map]
  simp only [Function.comp_def, readPart_trim, hkept]

theorem read_string_eq_ok_iff {text : String} {orderings : List Ordering} :
    Ordering.read (.string text) = .ok orderings ↔
      List.Forall₂ (fun found ordering => ofWords found = .ok ordering)
        (((pieces ',' text.toList).map words).filter (· ≠ [])) orderings := by
  rw [Ordering.read, mapM_eq_ok_iff_map, map_readPart_parts, ← List.forall₂_eq_eq_eq, List.forall₂_map_left_iff,
    List.forall₂_map_right_iff]

/-- Up to two words in each part are read as they say. -/
theorem forall₂_ofWords_iff {parts : List (List (List Char))} (hne : ∀ found ∈ parts, found ≠ [])
    {orderings : List Ordering} :
    List.Forall₂ (fun found ordering => ofWords found = .ok ordering) parts orderings ∧
      (∀ found ∈ parts, found.length ≤ 2) ↔ List.Forall₂ Says parts orderings := by
  induction parts generalizing orderings with
  | nil => simp
  | cons found parts ih =>
    obtain ⟨hfound, hparts⟩ := List.forall_mem_cons.1 hne
    cases orderings with
    | nil => simp
    | cons ordering orderings =>
      rw [List.forall₂_cons, List.forall₂_cons, List.forall_mem_cons, and_and_and_comm, ofWords_eq_ok_iff hfound,
        ih hparts]

/-- A part without words has not too many. -/
theorem forall_length_le_iff {parts : List (List (List Char))} :
    (∀ found ∈ parts, found.length ≤ 2) ↔ ∀ found ∈ parts.filter (· ≠ []), found.length ≤ 2 := by
  constructor
  · intro hall found hm
    exact hall found (List.mem_of_mem_filter hm)
  · intro hkept found hm
    by_cases hnil : found = []
    · simp [hnil]
    · exact hkept found (List.mem_filter.2 ⟨hm, by simpa using hnil⟩)

/-- Every text has one division into parts at commas, and these into words. If
no part has more than two words, the text is read exactly if each part that is
not blank says an ordering, and then as they say in their order. -/
theorem sort_texts_are_read (text : String) :
    ∃ parts, SpellsAt ',' text.toList parts ∧ (∀ other, SpellsAt ',' text.toList other → other = parts) ∧
      ∀ orderings, Ordering.read (.string text) = .ok orderings ∧ (∀ found ∈ parts, found.length ≤ 2) ↔
        List.Forall₂ Says (parts.filter (· ≠ [])) orderings := by
  refine ⟨_, Text.spellsAt_iff.2 rfl, fun other => Text.spellsAt_iff.1, ?_⟩
  intro orderings
  rw [read_string_eq_ok_iff, forall_length_le_iff]
  apply forall₂_ofWords_iff
  intro found hm
  simpa using List.of_mem_filter hm

/-- A part of blanks says nothing, and letters of a direction are of either case. -/
example : Ordering.read (.string "age dEsC, ,lastName") = .ok [⟨"age", .descending⟩, ⟨"lastName", .ascending⟩] := rfl

/-- Without a comma the second field is no part of the ordering. -/
theorem not_every_sort_text_is_read_whole :
    ¬∀ (text : String) (parts : List (List (List Char))) (orderings : List Ordering),
      SpellsAt ',' text.toList parts →
      (Ordering.read (.string text) = .ok orderings ↔ List.Forall₂ Says (parts.filter (· ≠ [])) orderings) := by
  intro h
  have hread : Ordering.read (.string "age desc lastName") = .ok [⟨"age", .descending⟩] := by rfl
  have hsays := (h _ _ _ (Text.spellsAt_iff.2 rfl)).1 hread
  cases hsays with
  | cons hfirst _ => cases hfirst

end Ordering
end WideColumn
