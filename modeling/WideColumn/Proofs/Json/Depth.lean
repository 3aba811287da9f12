import WideColumn.Proofs.Native.Reading
/-!
# Documents nested too deep to be read back

The text of a document that is nested deeper than the reader goes is refused,
wherever in the document the deep part stands. So a `json` attribute comes
back as the document that it was up to that depth, and as text beyond it.
-/

namespace WideColumn

namespace Json

mutual

/-- The text of a document is refused by a reader that does not go as deep. -/
theorem readValue?_of_depth_lt :
    ∀ (document : Json) (depth : Nat) (rest : List Char), document.isExact = true →
    depth < document.depth → readValue? depth (document.write ++ rest) = none
  | .array [], 0, _, _, _ => rfl
  | .array (_ :: _), 0, _, _, _ => rfl
  | .array [], depth + 1, _, _, hd => by
    simp [Json.depth, depthOfItems] at hd
  | .array (item :: items), depth + 1, rest, he, hd => by
    simp only [isExact, areExact, Bool.and_eq_true] at he
    simp only [Json.depth, depthOfItems] at hd
    obtain ⟨hskip, hfirst⟩ := skipSpace_write he.1 (writeItems items ++ rest)
    simp only [write, List.cons_append, List.append_assoc, readValue?]
    rw [readArray?_first hskip hfirst]
    -- the first item is too deep, or it is read and one behind it is too deep
    by_cases hitem : depth < item.depth
    · rw [readValue?_of_depth_lt item depth _ he.1 hitem, Option.bind_none]
    · rw [readValue?_write item depth _ he.1 (by omega) (delimits_writeItems items rest), Option.bind_some]
      simp only [readItems?_of_depth_lt items depth _ rest he.2 (by omega), Option.map_none]
  | .object [], 0, _, _, _ => rfl
  | .object (_ :: _), 0, _, _, _ => rfl
  | .object [], depth + 1, _, _, hd => by
    simp [Json.depth, depthOfFields] at hd
  | .object ((name, value) :: fields), depth + 1, rest, he, hd => by
    simp only [isExact, haveExact, Bool.and_eq_true] at he
    simp only [Json.depth, depthOfFields] at hd
    obtain ⟨hskip, -⟩ := skipSpace_write he.2.1 (writeFields fields ++ rest)
    simp only [write, List.cons_append, List.append_assoc, readValue?]
    rw [readObject?_first hskip]
    by_cases hvalue : depth < value.depth
    · rw [readValue?_of_depth_lt value depth _ he.2.1 hvalue, Option.bind_none]
    · rw [readValue?_write value depth _ he.2.1 (by omega) (delimits_writeFields fields rest), Option.bind_some]
      simp only [readFields?_of_depth_lt fields depth _ rest he.2.2 (by omega), Option.map_none]
  -- nothing else is nested
  | .null, _, _, _, hd | .bool _, _, _, _, hd | .number _, _, _, _, hd | .string _, _, _, _, hd => by
    simp [Json.depth] at hd

theorem readItems?_of_depth_lt :
    ∀ (items : List Json) (depth fuel : Nat) (rest : List Char), areExact items = true →
    depth < depthOfItems items → readItems? (readValue? depth) fuel (writeItems items ++ rest) = none
  | _, _, 0, _, _, _ => rfl
  | [], _, _ + 1, _, _, hd => by simp [depthOfItems] at hd
  | item :: items, depth, fuel + 1, rest, he, hd => by
    simp only [areExact, Bool.and_eq_true] at he
    simp only [depthOfItems] at hd
    obtain ⟨hskip, -⟩ := skipSpace_write he.1 (writeItems items ++ rest)
    simp only [writeItems, List.cons_append, List.append_assoc]
    rw [readItems?_comma hskip]
    by_cases hitem : depth < item.depth
    · rw [readValue?_of_depth_lt item depth _ he.1 hitem, Option.bind_none]
    · rw [readValue?_write item depth _ he.1 (by omega) (delimits_writeItems items rest), Option.bind_some]
      simp only [readItems?_of_depth_lt items depth fuel rest he.2 (by omega), Option.map_none]

theorem readFields?_of_depth_lt : ∀ (fields : List (String × Json)) (depth fuel : Nat) (rest : List Char),
    haveExact fields = true → depth < depthOfFields fields →
    readFields? (readValue? depth) fuel (writeFields fields ++ rest) = none
  | _, _, 0, _, _, _ => rfl
  | [], _, _ + 1, _, _, hd => by simp [depthOfFields] at hd
  | (name, value) :: fields, depth, fuel + 1, rest, he, hd => by
    simp only [haveExact, Bool.and_eq_true] at he
    simp only [depthOfFields] at hd
    obtain ⟨hskip, -⟩ := skipSpace_write he.1 (writeFields fields ++ rest)
    simp only [writeFields, List.cons_append, List.append_assoc]
    rw [readFields?_comma hskip]
    by_cases hvalue : depth < value.depth
    · rw [readValue?_of_depth_lt value depth _ he.1 hvalue, Option.bind_none]
    · rw [readValue?_write value depth _ he.1 (by omega) (delimits_writeFields fields rest), Option.bind_some]
      simp only [readFields?_of_depth_lt fields depth fuel rest he.2 (by omega), Option.map_none]

end

/-- A document is read back from its text up to the greatest depth, and not at
all beyond it. -/
theorem read?_text_eq {document : Json} (he : document.isExact = true) :
    read? document.text = if document.depth ≤ maxDepth then some document else none := by
  by_cases hd : document.depth ≤ maxDepth
  · rw [if_pos hd, read?_text he hd]
  · obtain ⟨hskip, -⟩ := skipSpace_write he []
    have hread := readValue?_of_depth_lt document maxDepth [] he (by omega)
    rw [List.append_nil] at hskip hread
    rw [if_neg hd, read?, readWithin?, text, String.toList_ofList, hskip, hread]

end Json

namespace AttributeType

/-- A document whose numbers are integers comes back as it was, with its fields
in their order, if arrays and objects are nested at most 127 deep. A document
that is nested deeper comes back as its text. -/
theorem json_reads_back_to_depth {value : Json} (he : value.isExact = true) :
    (value.depth ≤ 127 → json.decode (json.encode value) = value) ∧
      (127 < value.depth → json.decode (json.encode value) = .string value.text) := by
  cases hnull : value.isNull with
  | true =>
    -- null is bound as null and is not nested
    cases value <;> cases hnull
    exact ⟨fun _ => rfl, fun hd => absurd hd (by decide)⟩
  | false =>
    have hdecode : json.decode (json.encode value) = (Json.read? value.text).getD (.string value.text) := by
      rw [encode_json hnull]
      rfl
    rw [hdecode, Json.read?_text_eq he, Json.maxDepth]
    constructor
    · intro hd
      rw [if_pos hd, Option.getD_some]
    · intro hd
      rw [if_neg (Nat.not_le_of_gt hd), Option.getD_none]

/-- Arrays of one item, one within the other, around a number. -/
def sampleNest : Nat → Json
  | 0 => .ofInt64 (-1)
  | n + 1 => .array [sampleNest n]

theorem depth_sampleNest (n : Nat) : (sampleNest n).depth = n := by
  induction n with
  | zero => rfl
  | succ n ih => simp [sampleNest, Json.depth, Json.depthOfItems, ih]

theorem isExact_sampleNest (n : Nat) : (sampleNest n).isExact = true := by
  induction n with
  | zero => rfl
  | succ n ih => simp [sampleNest, Json.isExact, Json.areExact, ih]

/-- Fields with escapes in their names come back in their order, and so do
arrays up to the last depth that is read. -/
theorem json_reads_back_to_depth_sample :
    let document : Json := .object [("b\"\n\x01", .array [.string "\\é", .null]), ("a", sampleNest 126)]
    json.decode (json.encode document) = document ∧
      json.decode (json.encode (sampleNest 128)) = .string (sampleNest 128).text := by
  intro document
  have hexact : document.isExact = true := by
    simp [document, Json.isExact, Json.areExact, Json.haveExact, Fields.names, isExact_sampleNest]
  have hdepth : document.depth ≤ 127 := by
    simp [document, Json.depth, Json.depthOfItems, Json.depthOfFields, depth_sampleNest]
  exact ⟨(json_reads_back_to_depth hexact).1 hdepth,
    (json_reads_back_to_depth (isExact_sampleNest 128)).2 (by simp [depth_sampleNest])⟩

end AttributeType
end WideColumn
