import WideColumn.Text.Blank
/-!
# Column types

The types of the store's columns and their names. Names are read without
regard to ASCII case, with blanks allowed around every type; `frozen<T>`
means `T`.
-/

namespace WideColumn

/-- A column type of the store. -/
inductive NativeType where
  | ascii | bigint | blob | boolean | counter | date | decimal | double | float | inet | int | text | timestamp
  | timeuuid | uuid | varint
  | list (item : NativeType)
  | set (item : NativeType)
  | map (key value : NativeType)
deriving DecidableEq

namespace NativeType

def name : NativeType → String
  | .ascii => "ascii"
  | .bigint => "bigint"
  | .blob => "blob"
  | .boolean => "boolean"
  | .counter => "counter"
  | .date => "date"
  | .decimal => "decimal"
  | .double => "double"
  | .float => "float"
  | .inet => "inet"
  | .int => "int"
  | .text => "text"
  | .timestamp => "timestamp"
  | .timeuuid => "timeuuid"
  | .uuid => "uuid"
  | .varint => "varint"
  | .list item => "list<" ++ item.name ++ ">"
  | .set item => "set<" ++ item.name ++ ">"
  | .map key value => "map<" ++ key.name ++ ", " ++ value.name ++ ">"

/-- The type that a name without brackets stands for; `varchar` is another
name of `text`. -/
def simple? (name : String) : Option NativeType :=
  match name with
  | "ascii" => some .ascii
  | "bigint" => some .bigint
  | "blob" => some .blob
  | "boolean" => some .boolean
  | "counter" => some .counter
  | "date" => some .date
  | "decimal" => some .decimal
  | "double" => some .double
  | "float" => some .float
  | "inet" => some .inet
  | "int" => some .int
  | "text" => some .text
  | "varchar" => some .text
  | "timestamp" => some .timestamp
  | "timeuuid" => some .timeuuid
  | "uuid" => some .uuid
  | "varint" => some .varint
  | _ => none

/-- What stands before the first opening bracket, and what between it and a
closing bracket at the end. -/
def brackets? (name : List Char) : Option (List Char × List Char) :=
  if name.getLast? = some '>' then Text.splitFirst '<' name.dropLast else none

/-- The texts before and after the first comma that is not in brackets. -/
def splitComma? (depth : Nat) : List Char → Option (List Char × List Char)
  | [] => none
  | c :: rest =>
    if c = ',' ∧ depth = 0 then some ([], rest)
    else
      let depth := if c = '<' then depth + 1 else if c = '>' then depth - 1 else depth
      (splitComma? depth rest).map fun (before, after) => (c :: before, after)

/-! ## The parts of a name are shorter than the name -/

theorem length_trim_le (text : List Char) : (Text.trim text).length ≤ text.length := by
  have h (l : List Char) : (l.dropWhile Text.isBlank).length ≤ l.length :=
    (List.dropWhile_sublist _).length_le
  simp only [Text.trim, Text.trimEnd, Text.trimStart, List.length_reverse]
  have h1 := h (List.dropWhile Text.isBlank text).reverse
  rw [List.length_reverse] at h1
  exact Nat.le_trans h1 (h text)

theorem length_lowerAscii (text : List Char) : (Text.lowerAscii text).length = text.length := by
  simp [Text.lowerAscii]

theorem length_splitFirst {c : Char} {text before after : List Char}
    (h : Text.splitFirst c text = some (before, after)) : before.length + after.length < text.length := by
  induction text generalizing before with
  | nil => simp [Text.splitFirst] at h
  | cons d rest ih =>
    rw [Text.splitFirst] at h
    split at h
    · simp only [Option.some.injEq, Prod.mk.injEq] at h
      obtain ⟨rfl, rfl⟩ := h
      simp
    · obtain ⟨⟨b, a⟩, hs, he⟩ := Option.map_eq_some_iff.1 h
      simp only [Prod.mk.injEq] at he
      obtain ⟨rfl, rfl⟩ := he
      have := ih hs
      simp only [List.length_cons]
      omega

theorem length_brackets {name outer inner : List Char} (h : brackets? name = some (outer, inner)) :
    inner.length < name.length := by
  rw [brackets?] at h
  split at h
  · have := length_splitFirst h
    rw [List.length_dropLast] at this
    omega
  · simp at h

theorem length_splitComma {depth : Nat} {text before after : List Char}
    (h : splitComma? depth text = some (before, after)) : before.length + after.length < text.length := by
  induction text generalizing depth before with
  | nil => simp [splitComma?] at h
  | cons d rest ih =>
    rw [splitComma?] at h
    split at h
    · simp only [Option.some.injEq, Prod.mk.injEq] at h
      obtain ⟨rfl, rfl⟩ := h
      simp
    · obtain ⟨⟨b, a⟩, hs, he⟩ := Option.map_eq_some_iff.1 h
      simp only [Prod.mk.injEq] at he
      obtain ⟨rfl, rfl⟩ := he
      have := ih hs
      simp only [List.length_cons]
      omega

/-! ## Reading a name -/

def readChars? (text : List Char) : Option NativeType :=
  let name := Text.lowerAscii (Text.trim text)
  have short : name.length ≤ text.length := by
    rw [length_lowerAscii]; exact length_trim_le text
  match simple? (String.ofList name) with
  | some type => some type
  | none =>
    match h : brackets? name with
    | none => none
    | some (outer, inner) =>
      have := length_brackets h
      match String.ofList (Text.trim outer) with
      | "list" => (readChars? inner).map .list
      | "set" => (readChars? inner).map .set
      | "frozen" => readChars? inner
      | "map" =>
        match hc : splitComma? 0 inner with
        | none => none
        | some (key, value) =>
          have := length_splitComma hc
          match readChars? key, readChars? value with
          | some key, some value => some (.map key value)
          | _, _ => none
      | _ => none
termination_by text.length

def read? (name : String) : Option NativeType := readChars? name.toList

end NativeType
end WideColumn
