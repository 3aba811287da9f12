import WideColumn.Native.Type
import WideColumn.Proofs.Text
/-!
# The grammar of column types

A text is read as a type exactly if it derives the type: as a simple name, or
as a constructor with the texts of its parts in brackets, in letters of any case
and with blanks around. A text that derives a type closes the brackets that it
opens and has its commas inside of them. So the first comma outside of brackets
is the one between the parts of a map, however deep they are nested.
-/

namespace WideColumn.NativeType

open WideColumn.Text (Blank blank_nil isBlank lowerAscii trim)

/-! ## The grammar -/

/-- The name of a constructor, in letters of any case, with blanks behind. -/
def Heads (name : String) (head : List Char) : Prop :=
  ∃ word gap, head = word ++ gap ∧ lowerAscii word = name.toList ∧ Blank gap

/-- The texts that derive a type. Simple names are those without brackets; `varchar`
means `text`, and `frozen<T>` means `T`. -/
inductive Derives : List Char → NativeType → Prop
  | simple {word : List Char} {type : NativeType} (hplain : '<' ∉ type.name.toList)
      (hword : lowerAscii word = type.name.toList) : Derives word type
  | varchar {word : List Char} (hword : lowerAscii word = "varchar".toList) : Derives word .text
  | list {head inner : List Char} {item : NativeType} (hhead : Heads "list" head) (hitem : Derives inner item) :
      Derives (head ++ '<' :: inner ++ ['>']) (.list item)
  | set {head inner : List Char} {item : NativeType} (hhead : Heads "set" head) (hitem : Derives inner item) :
      Derives (head ++ '<' :: inner ++ ['>']) (.set item)
  | map {head keyText valueText : List Char} {key value : NativeType} (hhead : Heads "map" head)
      (hkey : Derives keyText key) (hvalue : Derives valueText value) :
      Derives (head ++ '<' :: (keyText ++ ',' :: valueText) ++ ['>']) (.map key value)
  | frozen {head inner : List Char} {type : NativeType} (hhead : Heads "frozen" head) (h : Derives inner type) :
      Derives (head ++ '<' :: inner ++ ['>']) type
  | blanks {before text after : List Char} {type : NativeType} (hbefore : Blank before) (hafter : Blank after)
      (h : Derives text type) : Derives (before ++ text ++ after) type

/-! ## Words -/

/-- A word of letters, which are neither blanks nor marks. -/
def IsWord (name : String) : Prop := ∀ c ∈ name.toList, c.isAlpha = true

instance (name : String) : Decidable (IsWord name) := List.decidableBAll (Char.isAlpha · = true) name.toList

theorem isWord_name {type : NativeType} (hplain : '<' ∉ type.name.toList) : IsWord type.name := by
  cases type with
  | list | set | map => simp [name] at hplain
  | _ => decide

theorem IsWord.trim {name : String} (h : IsWord name) : trim name.toList = name.toList :=
  Text.trim_eq_self_of_forall fun c hc => Text.isBlank_of_isAlpha (h c hc)

/-- A word in letters of any case has no marks. -/
theorem IsWord.not_mem {name : String} (h : IsWord name) {word : List Char} (hword : lowerAscii word = name.toList)
    {c : Char} (hc : c.isAlpha = false) : c ∉ word := by
  rw [← Text.mem_lowerAscii_iff hc, hword]
  intro hm
  exact Bool.eq_false_iff.1 hc (h c hm)

theorem Heads.word {name : String} {head : List Char} (h : Heads name head) (hname : IsWord name) :
    String.ofList (lowerAscii (trim head)) = name := by
  obtain ⟨word, gap, rfl, hword, hgap⟩ := h
  have htrim : Text.trim (word ++ gap) = Text.trim word := Text.trim_append_of_blank blank_nil hgap word
  rw [htrim, ← Text.trim_lowerAscii, hword, hname.trim, String.ofList_toList]

theorem Heads.not_mem {name : String} {head : List Char} (h : Heads name head) (hname : IsWord name) {c : Char}
    (hc : c.isAlpha = false) (hb : isBlank c = false) : c ∉ head := by
  obtain ⟨word, gap, rfl, hword, hgap⟩ := h
  rw [List.mem_append]
  rintro (hm | hm)
  · exact hname.not_mem hword hc hm
  · exact Bool.eq_false_iff.1 hb (hgap c hm)

/-! ## Brackets and commas -/

/-- The characters that the parts of a text are told apart by. -/
def marks : List Char := [',', '<', '>']

theorem not_alpha_of_mem_marks : ∀ c ∈ marks, c.isAlpha = false ∧ isBlank c = false := by
  simp only [marks, List.forall_mem_cons]
  exact ⟨by decide, by decide, by decide, by simp⟩

/-- Texts that close their brackets and have their commas inside of brackets,
where so many brackets are open around them. -/
inductive Nested : Nat → List Char → Prop
  | plain {depth : Nat} {text : List Char} (h : ∀ c ∈ marks, c ∉ text) : Nested depth text
  | comma {depth : Nat} : Nested (depth + 1) [',']
  | append {depth : Nat} {left right : List Char} (hl : Nested depth left) (hr : Nested depth right) :
      Nested depth (left ++ right)
  | brackets {depth : Nat} {inner : List Char} (h : Nested (depth + 1) inner) : Nested depth ('<' :: inner ++ ['>'])

/-- As many brackets are closed as are opened, and none before it is opened. -/
structure Balanced (text : List Char) : Prop where
  closed : text.count '>' = text.count '<'
  opened : ∀ n, (text.take n).count '>' ≤ (text.take n).count '<'

theorem Nested.balanced {depth : Nat} {text : List Char} (h : Nested depth text) : Balanced text := by
  induction h with
  | @plain _ text h =>
    have hopen : text.count '<' = 0 := List.count_eq_zero.2 (h '<' (by decide))
    have hclose : text.count '>' = 0 := List.count_eq_zero.2 (h '>' (by decide))
    refine ⟨hclose.trans hopen.symm, fun n => ?_⟩
    have hn := (List.take_sublist n text).count_le '>'
    omega
  | comma => exact ⟨rfl, fun n => by cases n <;> simp⟩
  | append _ _ ihl ihr =>
    refine ⟨by simp only [List.count_append, ihl.closed, ihr.closed], fun n => ?_⟩
    simp only [List.take_append, List.count_append]
    exact Nat.add_le_add (ihl.opened n) (ihr.opened _)
  | @brackets _ inner _ ih =>
    refine ⟨by simp [ih.closed], fun n => ?_⟩
    cases n with
    | zero => simp
    | succ n =>
      have hinner := ih.opened n
      have hlast := (List.take_sublist (n - inner.length) ['>']).count_le '>'
      simp [List.take_append] at hlast ⊢
      omega

/-- Texts with nested brackets are passed as a whole. -/
theorem Nested.splitComma? {depth : Nat} {text : List Char} (h : Nested depth text) (rest : List Char) :
    splitComma? depth (text ++ rest) =
      (splitComma? depth rest).map fun (before, after) => (text ++ before, after) := by
  induction h generalizing rest with
  | @plain depth text h =>
    induction text with
    | nil => simp
    | cons c text ih =>
      have hc : ∀ d ∈ marks, c ≠ d := fun d hd he => h d hd (by simp [he])
      have htext := ih fun d hd hm => h d hd (List.mem_cons_of_mem c hm)
      simp only [List.cons_append, NativeType.splitComma?, hc ',' (by decide), hc '<' (by decide), hc '>' (by decide),
        false_and, if_false, htext, Option.map_map]
      rfl
  | comma => simp [NativeType.splitComma?]
  | append _ _ ihl ihr => simp [ihl, ihr, Function.comp_def]
  | brackets _ ih => simp [NativeType.splitComma?, ih, Function.comp_def]

theorem nested_of_word {name : String} (hname : IsWord name) {word : List Char}
    (hword : lowerAscii word = name.toList) (depth : Nat) : Nested depth word :=
  .plain fun c hc => hname.not_mem hword (not_alpha_of_mem_marks c hc).1

theorem nested_of_blank {gap : List Char} (h : Blank gap) (depth : Nat) : Nested depth gap :=
  .plain fun c hc hm => Bool.eq_false_iff.1 (not_alpha_of_mem_marks c hc).2 (h c hm)

theorem Heads.nested_brackets {name : String} {head inner : List Char} (h : Heads name head) (hname : IsWord name)
    {depth : Nat} (hinner : Nested (depth + 1) inner) : Nested depth (head ++ '<' :: inner ++ ['>']) := by
  obtain ⟨word, gap, rfl, hword, hgap⟩ := h
  rw [List.append_assoc]
  exact .append (.append (nested_of_word hname hword depth) (nested_of_blank hgap depth)) (.brackets hinner)

theorem Derives.nested {text : List Char} {type : NativeType} (h : Derives text type) (depth : Nat) :
    Nested depth text := by
  induction h generalizing depth with
  | simple hplain hword => exact nested_of_word (isWord_name hplain) hword depth
  | varchar hword => exact nested_of_word (by decide) hword depth
  | list hhead _ ih | set hhead _ ih | frozen hhead _ ih => exact hhead.nested_brackets (by decide) (ih _)
  | map hhead _ _ ihk ihv =>
    have hparts := (ihk (depth + 1)).append (.append .comma (ihv (depth + 1)))
    exact hhead.nested_brackets (by decide) hparts
  | blanks hbefore hafter _ ih =>
    exact .append (.append (nested_of_blank hbefore depth) (ih depth)) (nested_of_blank hafter depth)

/-- The texts of the parts of a map are told apart. -/
theorem Derives.splitComma? {text : List Char} {type : NativeType} (h : Derives text type) (rest : List Char) :
    splitComma? 0 (text ++ ',' :: rest) = some (text, rest) := by
  rw [(h.nested 0).splitComma?]
  simp [NativeType.splitComma?]

/-! ## Reading -/

theorem brackets?_eq_some_iff {text outer inner : List Char} :
    brackets? text = some (outer, inner) ↔ text = outer ++ '<' :: inner ++ ['>'] ∧ '<' ∉ outer := by
  unfold brackets?
  constructor
  · intro h
    split at h
    · next hlast =>
      obtain ⟨front, rfl⟩ := List.getLast?_eq_some_iff.1 hlast
      rw [List.dropLast_concat] at h
      obtain ⟨rfl, hnot⟩ := Text.splitFirst_eq_some_iff.1 h
      exact ⟨rfl, hnot⟩
    · cases h
  · rintro ⟨rfl, hnot⟩
    rw [if_pos List.getLast?_concat, List.dropLast_concat, Text.splitFirst_append outer inner hnot]

theorem brackets?_lowerAscii (text : List Char) :
    brackets? (lowerAscii text) =
      (brackets? text).map fun (outer, inner) => (lowerAscii outer, lowerAscii inner) := by
  have hlast : (lowerAscii text).getLast? = some '>' ↔ text.getLast? = some '>' := by
    simp [lowerAscii, Text.toLower_eq_iff]
  unfold brackets?
  rw [if_congr hlast rfl rfl, lowerAscii, ← List.map_dropLast, ← lowerAscii, Text.splitFirst_lowerAscii (by decide)]
  split <;> rfl

theorem splitComma?_lowerAscii (depth : Nat) (text : List Char) :
    splitComma? depth (lowerAscii text) =
      (splitComma? depth text).map fun (before, after) => (lowerAscii before, lowerAscii after) := by
  induction text generalizing depth with
  | nil => rfl
  | cons c text ih =>
    have hmark {d : Char} (hd : d ∈ marks) : c.toLower = d ↔ c = d :=
      Text.toLower_eq_iff (not_alpha_of_mem_marks d hd).1
    rw [lowerAscii, List.map_cons, ← lowerAscii, splitComma?, splitComma?]
    simp only [hmark (d := ',') (by decide), hmark (d := '<') (by decide), hmark (d := '>') (by decide), ih]
    split
    · rfl
    · rw [Option.map_map, Option.map_map]
      rfl

theorem eq_of_splitComma? {depth : Nat} {text before after : List Char}
    (h : splitComma? depth text = some (before, after)) : text = before ++ ',' :: after := by
  induction text generalizing depth before with
  | nil => cases h
  | cons c text ih =>
    rw [splitComma?] at h
    split at h
    · next hc =>
      cases h
      rw [hc.1, List.nil_append]
    · obtain ⟨⟨rest, _⟩, hrest, he⟩ := Option.map_eq_some_iff.1 h
      cases he
      rw [ih hrest, List.cons_append]

/-- The type that a constructor makes of what is in its brackets. -/
def construct? (constructor : String) (inner : List Char) : Option NativeType :=
  match constructor with
  | "list" => (readChars? inner).map .list
  | "set" => (readChars? inner).map .set
  | "frozen" => readChars? inner
  | "map" => (splitComma? 0 inner).bind fun (key, value) =>
      (readChars? key).bind fun key => (readChars? value).map fun value => .map key value
  | _ => none

/-- A name is read in lower case, as a simple one or by its brackets. -/
theorem readChars?_eq_lower (text : List Char) :
    readChars? text = (simple? (String.ofList (lowerAscii (trim text)))).or
      ((brackets? (lowerAscii (trim text))).bind fun (outer, inner) =>
        construct? (String.ofList (trim outer)) inner) := by
  rw [readChars?]
  dsimp only
  split
  next hs => rw [hs, Option.some_or]
  next hs =>
    rw [hs, Option.none_or]
    split
    next hb => rw [hb, Option.bind_none]
    next outer inner hb =>
      rw [hb, Option.bind_some]
      dsimp only [construct?]
      generalize String.ofList (trim outer) = word
      split
      case h_4 =>
        split
        next hc => rw [hc]; rfl
        next key value hc =>
          simp only [hc, Option.bind_some]
          cases readChars? key <;> cases readChars? value <;> rfl
      case h_5 => simp only [*]
      all_goals rfl

theorem readChars?_lowerAscii (text : List Char) : readChars? (lowerAscii text) = readChars? text := by
  rw [readChars?_eq_lower, readChars?_eq_lower, Text.trim_lowerAscii, Text.lowerAscii_lowerAscii]

theorem construct?_lowerAscii (constructor : String) (inner : List Char) :
    construct? constructor (lowerAscii inner) = construct? constructor inner := by
  unfold construct?
  simp only [readChars?_lowerAscii, splitComma?_lowerAscii, Option.bind_map, Function.comp_def]

/-- The parts of a name are read as they stand. -/
theorem readChars?_eq (text : List Char) :
    readChars? text = (simple? (String.ofList (lowerAscii (trim text)))).or
      ((brackets? (trim text)).bind fun (outer, inner) =>
        construct? (String.ofList (lowerAscii (trim outer))) inner) := by
  rw [readChars?_eq_lower, brackets?_lowerAscii, Option.bind_map]
  simp only [Function.comp_def, construct?_lowerAscii, Text.trim_lowerAscii]

theorem simple?_eq_some_iff {name : String} {type : NativeType} :
    simple? name = some type ↔ '<' ∉ type.name.toList ∧ name = type.name ∨ name = "varchar" ∧ type = .text := by
  constructor
  · intro h
    unfold simple? at h
    split at h
    -- `varchar` is the only name that is not the one of its type
    case h_13 =>
      cases h
      exact .inr ⟨rfl, rfl⟩
    case h_18 => cases h
    all_goals
      cases h
      exact .inl ⟨by decide, rfl⟩
  · rintro (⟨hplain, rfl⟩ | ⟨rfl, rfl⟩)
    · cases type with
      | list | set | map => simp [NativeType.name] at hplain
      | _ => rfl
    · rfl

/-- What is read as a type derives it. -/
theorem derives_of_readChars? {text : List Char} {type : NativeType} (h : readChars? text = some type) :
    Derives text type := by
  obtain ⟨before, after, hbefore, hafter, htext⟩ := Text.exists_blank_append_trim text
  rw [htext]
  refine .blanks hbefore hafter ?_
  rw [readChars?_eq, Option.or_eq_some_iff] at h
  rcases h with hsimple | ⟨-, h⟩
  · rcases simple?_eq_some_iff.1 hsimple with ⟨hplain, hname⟩ | ⟨hname, rfl⟩
    · exact .simple hplain (by rw [← hname, String.toList_ofList])
    · exact .varchar (by rw [← hname, String.toList_ofList])
  · obtain ⟨⟨outer, inner⟩, hbrackets, h⟩ := Option.bind_eq_some_iff.1 h
    have hshort : inner.length < text.length := Nat.lt_of_lt_of_le (length_brackets hbrackets) (length_trim_le text)
    obtain ⟨hname, -⟩ := brackets?_eq_some_iff.1 hbrackets
    obtain ⟨start, gap, hstart, hgap, houter⟩ := Text.exists_blank_append_trim outer
    have hheads {name : String} (hword : String.ofList (lowerAscii (trim outer)) = name) :
        Heads name (trim outer ++ gap) :=
      ⟨_, gap, rfl, by rw [← hword, String.toList_ofList], hgap⟩
    have hparts : trim text = start ++ (trim outer ++ gap ++ '<' :: inner ++ ['>']) ++ [] := by
      calc trim text = (start ++ trim outer ++ gap) ++ '<' :: inner ++ ['>'] := by rw [← houter, hname]
        _ = start ++ (trim outer ++ gap ++ '<' :: inner ++ ['>']) ++ [] := by simp
    rw [hparts]
    refine .blanks hstart blank_nil ?_
    dsimp only at h
    unfold construct? at h
    split at h
    · next hword =>
      obtain ⟨item, hitem, rfl⟩ := Option.map_eq_some_iff.1 h
      exact .list (hheads hword) (derives_of_readChars? hitem)
    · next hword =>
      obtain ⟨item, hitem, rfl⟩ := Option.map_eq_some_iff.1 h
      exact .set (hheads hword) (derives_of_readChars? hitem)
    · next hword => exact .frozen (hheads hword) (derives_of_readChars? h)
    · next hword =>
      obtain ⟨⟨keyText, valueText⟩, hcomma, h⟩ := Option.bind_eq_some_iff.1 h
      obtain ⟨key, hkey, h⟩ := Option.bind_eq_some_iff.1 h
      obtain ⟨value, hvalue, rfl⟩ := Option.map_eq_some_iff.1 h
      have hlength := length_splitComma hcomma
      rw [eq_of_splitComma? hcomma]
      exact .map (hheads hword) (derives_of_readChars? hkey) (derives_of_readChars? hvalue)
    · cases h
termination_by text.length

theorem readChars?_of_word {name : String} (hname : IsWord name) {word : List Char}
    (hword : lowerAscii word = name.toList) {type : NativeType} (h : simple? name = some type) :
    readChars? word = some type := by
  rw [readChars?_eq, ← Text.trim_lowerAscii, hword, hname.trim, String.ofList_toList, h, Option.some_or]

/-- A name with brackets is no simple one. -/
theorem simple?_eq_none {text : List Char} (h : '<' ∈ text) : simple? (String.ofList text) = none := by
  rw [Option.eq_none_iff_forall_ne_some]
  intro type hs
  rcases simple?_eq_some_iff.1 hs with ⟨hplain, hname⟩ | ⟨hname, -⟩
  · rw [← hname, String.toList_ofList] at hplain
    exact hplain h
  · have htext := congrArg String.toList hname
    rw [String.toList_ofList] at htext
    exact absurd (htext ▸ h) (by decide)

/-- A constructor before brackets makes a type of what is in them. -/
theorem Heads.readChars? {name : String} {head : List Char} (h : Heads name head) (hname : IsWord name)
    (inner : List Char) : readChars? (head ++ '<' :: inner ++ ['>']) = construct? name inner := by
  have hnot : '<' ∉ Text.trimStart head := by
    intro hm
    exact h.not_mem hname (by decide) (by decide) ((List.dropWhile_sublist _).subset hm)
  have hb : brackets? (Text.trimStart head ++ '<' :: inner ++ ['>']) = some (Text.trimStart head, inner) :=
    brackets?_eq_some_iff.2 ⟨rfl, hnot⟩
  have hs : simple? (String.ofList (lowerAscii (Text.trimStart head ++ '<' :: inner ++ ['>']))) = none :=
    simple?_eq_none ((Text.mem_lowerAscii_iff (by decide)).2 (by simp))
  rw [readChars?_eq, Text.trim_append_cons (by decide) (by decide), hs, hb, Option.none_or, Option.bind_some]
  dsimp only
  rw [Text.trim_trimStart, h.word hname]

/-- What derives a type is read as it. -/
theorem Derives.readChars? {text : List Char} {type : NativeType} (h : Derives text type) :
    readChars? text = some type := by
  induction h with
  | simple hplain hword =>
    have hname := simple?_eq_some_iff.2 (.inl ⟨hplain, rfl⟩)
    exact readChars?_of_word (isWord_name hplain) hword hname
  | varchar hword => exact readChars?_of_word (by decide) hword rfl
  | list hhead _ ih | set hhead _ ih | frozen hhead _ ih =>
    rw [hhead.readChars? (by decide)]
    simp only [construct?, ih, Option.map_some]
  | map hhead hkey _ ihk ihv =>
    rw [hhead.readChars? (by decide)]
    simp only [construct?, hkey.splitComma?, ihk, ihv, Option.bind_some, Option.map_some]
  | blanks hbefore hafter _ ih =>
    rw [readChars?_eq, Text.trim_append_of_blank hbefore hafter, ← readChars?_eq]
    exact ih

theorem readChars?_eq_some_iff {text : List Char} {type : NativeType} :
    readChars? text = some type ↔ Derives text type :=
  ⟨derives_of_readChars?, Derives.readChars?⟩

end WideColumn.NativeType
