import WideColumn.Proofs.Native.TypeGrammar
/-!
# Names of column types

The name of a type is one of the texts that derive it, so the type is read back
from its name. Types with the same name are the same, and a name ends at the
comma behind it, whatever commas it has itself.
-/

namespace WideColumn

namespace NativeType

open WideColumn.Text (blank_nil lowerAscii)

/-- The name of a type as a text. -/
def chars (type : NativeType) : List Char := type.name.toList

theorem chars_list (item : NativeType) : (list item).chars = "list".toList ++ '<' :: item.chars ++ ['>'] := by
  simp [chars, name]

theorem chars_set (item : NativeType) : (set item).chars = "set".toList ++ '<' :: item.chars ++ ['>'] := by
  simp [chars, name]

theorem chars_map (key value : NativeType) :
    (map key value).chars = "map".toList ++ '<' :: (key.chars ++ ',' :: ([' '] ++ value.chars ++ [])) ++ ['>'] := by
  simp [chars, name]

theorem heads_toList {name : String} (h : lowerAscii name.toList = name.toList) : Heads name name.toList :=
  ⟨name.toList, [], by simp, h, blank_nil⟩

theorem derives_chars (type : NativeType) : Derives type.chars type := by
  induction type with
  | list item ih =>
    rw [chars_list]
    exact .list (heads_toList (by decide)) ih
  | set item ih =>
    rw [chars_set]
    exact .set (heads_toList (by decide)) ih
  | map key value ihk ihv =>
    rw [chars_map]
    exact .map (heads_toList (by decide)) ihk (.blanks (by decide) blank_nil ihv)
  | _ => exact .simple (by decide) (by decide)

theorem splitComma?_chars (type : NativeType) (rest : List Char) :
    splitComma? 0 (type.chars ++ ',' :: rest) = some (type.chars, rest) := type.derives_chars.splitComma? rest

theorem read?_name (type : NativeType) : read? type.name = some type := type.derives_chars.readChars?

theorem name_injective {left right : NativeType} (h : left.name = right.name) : left = right :=
  Option.some.inj ((read?_name left).symm.trans (h ▸ read?_name right))

/-- A type is read from its name, and from exactly the texts that derive it. The
comma behind such a text is found whatever commas it has itself, and no text is
read whose brackets are not balanced. -/
theorem names_follow_grammar :
    (∀ type : NativeType, read? type.name = some type) ∧
    (∀ (name : String) (type : NativeType), read? name = some type ↔ Derives name.toList type) ∧
    (∀ (text rest : List Char) (type : NativeType), Derives text type →
      splitComma? 0 (text ++ ',' :: rest) = some (text, rest)) ∧
    ∀ name : String, ¬Balanced name.toList → read? name = none := by
  refine ⟨read?_name, fun name type => readChars?_eq_some_iff, fun text rest type h => h.splitComma? rest, ?_⟩
  intro name hnot
  rw [Option.eq_none_iff_forall_ne_some]
  intro type htype
  exact hnot ((readChars?_eq_some_iff.1 htype).nested 0).balanced

/-- A map of maps is read in capitals and with blanks, and is none without the
bracket that closes it. -/
theorem names_follow_grammar_sample :
    read? "MAP <Text, frozen<Map<varchar,int>> >" = some (.map .text (.map .text .int)) ∧
    read? "map<text, map<varchar, int>" = none := by
  obtain ⟨-, hread, -, hnone⟩ := names_follow_grammar
  have hhead : Heads "map" "MAP ".toList := ⟨"MAP".toList, [' '], by decide, by decide, by decide⟩
  have hkey : Derives "Text".toList .text := .simple (by decide) (by decide)
  have hmap : Derives ("Map".toList ++ '<' :: ("varchar".toList ++ ',' :: "int".toList) ++ ['>']) (.map .text .int) :=
    .map ⟨"Map".toList, [], by simp, by decide, blank_nil⟩ (.varchar (by decide)) (.simple (by decide) (by decide))
  have hvalue : Derives ([' '] ++ ("frozen".toList ++ '<' :: _ ++ ['>']) ++ [' ']) (.map .text .int) :=
    .blanks (by decide) (by decide) (.frozen (heads_toList (by decide)) hmap)
  constructor
  · exact (hread _ _).2 (.map hhead hkey hvalue)
  · refine hnone _ fun hbalanced => ?_
    exact absurd hbalanced.closed (by decide)

end NativeType
end WideColumn
