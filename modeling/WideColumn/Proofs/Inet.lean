import WideColumn.Inet
import WideColumn.Proofs.Numeral
import WideColumn.Proofs.Text
/-!
# Network addresses read back from their text

The text of an address is read as that address. In a text of version 6 the
omission is the only place with two colons in a row, and what it leaves out
is a run of zeros.
-/

namespace WideColumn

/-! ## Digits -/

namespace Hex

/-- The digits of a number without zeros in front denote it. -/
theorem read?_toDigits (n : Nat) : read? (Nat.toDigits 16 n) = some n := by
  have hdigit : ∀ v : Fin 16, value? v.val.digitChar = some v.val := by decide
  induction n using Nat.strongRecOn with
  | ind n ih =>
    by_cases hn : n < 16
    · rw [Nat.toDigits_of_lt_base hn, read?, readFrom, hdigit ⟨n, hn⟩]
      simp [readFrom]
    · have hfront := ih (n / 16) (by omega)
      have hlast := hdigit ⟨n % 16, Nat.mod_lt n (by decide)⟩
      rw [read?] at hfront
      rw [Nat.toDigits_of_base_le (by decide) (by omega), read?, readFrom_append, hfront]
      simp only [Option.bind_some, readFrom, hlast, Option.some.injEq]
      omega

/-- Nothing but digits is read. -/
theorem not_mem_of_readFrom {number n : Nat} {digits : List Char} (h : readFrom number digits = some n)
    {c : Char} (hc : value? c = none) : c ∉ digits := by
  induction digits generalizing number with
  | nil => exact List.not_mem_nil
  | cons d digits ih =>
    obtain ⟨v, hd, hrest⟩ := Option.bind_eq_some_iff.1 h
    rw [List.mem_cons, not_or]
    refine ⟨?_, ih hrest⟩
    rintro rfl
    cases hc.symm.trans hd

end Hex

namespace Inet

/-! ## Bytes -/

theorem readByte?_ofNat (byte : UInt8) : readByte? (Numeral.ofNat byte.toNat) = some byte := by
  have hlt : byte.toNat < 256 := byte.toNat_lt
  have hlen : (Numeral.ofNat byte.toNat).length ≤ 3 :=
    (Nat.length_toDigits_le_iff (by decide) (by decide)).2 (Nat.lt_trans hlt (by decide))
  have hzero : (Numeral.ofNat byte.toNat).head? ≠ some '0' ∨ Numeral.ofNat byte.toNat = ['0'] :=
    (Decidable.em _).symm.imp_right Numeral.ofNat_eq_zero_of_head?
  rw [readByte?, if_pos ⟨hlen, hzero⟩, Numeral.natural?_ofNat, Option.bind_some, if_pos hlt, UInt8.ofNat_toNat]

theorem readByte?_eq_none {text : List Char} {c : Char} (hm : c ∈ text) (hc : c.isDigit = false) :
    readByte? text = none := by
  have hnot : ¬(text ≠ [] ∧ text.all Char.isDigit = true) := fun ⟨_, h⟩ => by
    simp [List.all_eq_true.1 h c hm] at hc
  rw [readByte?, Numeral.natural?, if_neg hnot]
  simp

theorem pieces_bytesText (a b c d : UInt8) : Text.pieces '.' (bytesText a b c d) =
    [Numeral.ofNat a.toNat, Numeral.ofNat b.toNat, Numeral.ofNat c.toNat, Numeral.ofNat d.toNat] := by
  have hdot (n : Nat) : '.' ∉ Numeral.ofNat n := Numeral.not_mem_ofNat (by decide) n
  rw [bytesText, Text.pieces_append_cons (hdot _), Text.pieces_append_cons (hdot _),
    Text.pieces_append_cons (hdot _), Text.pieces_of_not_mem (hdot _)]

theorem readBytes?_bytesText (a b c d : UInt8) : readBytes? (bytesText a b c d) = some (a, b, c, d) := by
  rw [readBytes?, pieces_bytesText]
  simp only [readByte?_ofNat]
  rfl

theorem readBytes?_of_not_mem {text : List Char} (h : '.' ∉ text) : readBytes? text = none := by
  rw [readBytes?, Text.pieces_of_not_mem h]

/-- Nothing but a byte stands before the first point. -/
theorem readBytes?_append_bytesText (front : List Char) (hdot : '.' ∉ front) {c : Char} (hm : c ∈ front)
    (hc : c.isDigit = false) (w x y z : UInt8) : readBytes? (front ++ bytesText w x y z) = none := by
  have hfirst : '.' ∉ front ++ Numeral.ofNat w.toNat := by
    rw [List.mem_append, not_or]
    exact ⟨hdot, Numeral.not_mem_ofNat (by decide) _⟩
  have hbyte : readByte? (front ++ Numeral.ofNat w.toNat) = none :=
    readByte?_eq_none (List.mem_append_left _ hm) hc
  rw [readBytes?, bytesText, ← List.append_assoc, Text.pieces_append_cons hfirst]
  split
  next he =>
    cases (List.cons.inj he).1
    rw [hbyte]
    rfl
  next => rfl

/-! ## Groups -/

theorem read?_groupText (g : UInt16) : Hex.read? (groupText g) = some g.toNat := Hex.read?_toDigits g.toNat

theorem readGroup?_groupText (g : UInt16) : readGroup? (groupText g) = some g := by
  have hlen : (groupText g).length ≤ 4 :=
    (Nat.length_toDigits_le_iff (by decide) (by decide)).2 g.toNat_lt
  rw [readGroup?, if_pos ⟨Nat.toDigits_ne_nil, hlen⟩, read?_groupText, Option.map_some, UInt16.ofNat_toNat]

/-- A text that is no run of digits is no group. -/
theorem readGroup?_eq_none {text : List Char} (h : '.' ∈ text) : readGroup? text = none := by
  have hread : Hex.read? text = none :=
    Option.eq_none_iff_forall_ne_some.2 fun _ hn => Hex.not_mem_of_readFrom hn (by decide) h
  rw [readGroup?, hread]
  simp

theorem colon_not_mem_groupText (g : UInt16) : ':' ∉ groupText g :=
  Hex.not_mem_of_readFrom (read?_groupText g) (by decide)

theorem dot_not_mem_groupText (g : UInt16) : '.' ∉ groupText g :=
  Hex.not_mem_of_readFrom (read?_groupText g) (by decide)

theorem readGroups?_map_groupText (tail : Bool) (groups : List UInt16) :
    readGroups? tail (groups.map groupText) = some groups := by
  induction groups with
  | nil => rfl
  | cons g groups ih =>
    cases groups with
    | nil => simp [readGroups?, readGroup?_groupText]
    | cons next groups =>
      change (readGroup? (groupText g)).bind (fun g =>
        (readGroups? tail ((next :: groups).map groupText)).bind fun groups => some (g :: groups)) = _
      rw [readGroup?_groupText, ih]
      rfl

theorem pieces_groupsText {groups : List UInt16} (h : groups ≠ []) :
    Text.pieces ':' (groupsText groups) = groups.map groupText := by
  refine Text.pieces_intercalate (by simpa using h) fun text hm => ?_
  obtain ⟨g, -, rfl⟩ := List.mem_map.1 hm
  exact colon_not_mem_groupText g

theorem groupsText_cons_cons (g next : UInt16) (groups : List UInt16) :
    groupsText (g :: next :: groups) = groupText g ++ ':' :: groupsText (next :: groups) := by
  simp [groupsText, List.intercalate_cons_cons]

/-- Groups begin with a digit. -/
theorem exists_groupsText_eq_cons (g : UInt16) (groups : List UInt16) :
    ∃ c rest, c ≠ ':' ∧ groupsText (g :: groups) = c :: rest := by
  obtain ⟨c, digits, hdigits⟩ := List.exists_cons_of_ne_nil (show groupText g ≠ [] from Nat.toDigits_ne_nil)
  have hc : c ≠ ':' := fun he => colon_not_mem_groupText g (by simp [hdigits, he])
  cases groups with
  | nil => exact ⟨c, digits, hc, by simpa [groupsText] using hdigits⟩
  | cons next groups => exact ⟨c, _, hc, by rw [groupsText_cons_cons, hdigits]; rfl⟩

theorem dot_not_mem_groupsText (groups : List UInt16) : '.' ∉ groupsText groups := by
  induction groups with
  | nil => exact List.not_mem_nil
  | cons g groups ih =>
    cases groups with
    | nil => simpa [groupsText] using dot_not_mem_groupText g
    | cons next groups =>
      rw [groupsText_cons_cons, List.mem_append, List.mem_cons]
      rintro (h | h | h)
      · exact dot_not_mem_groupText g h
      · cases h
      · exact ih h

theorem readPart?_groupsText (tail : Bool) (groups : List UInt16) :
    readPart? tail (groupsText groups) = some groups := by
  cases groups with
  | nil => rfl
  | cons g groups =>
    obtain ⟨c, rest, -, htext⟩ := exists_groupsText_eq_cons g groups
    rw [readPart?, if_neg (by simp [htext]), pieces_groupsText (by simp), readGroups?_map_groupText]

/-! ## The omission -/

theorem splitOmission?_cons {c : Char} (hc : c ≠ ':') (rest : List Char) :
    splitOmission? (c :: rest) = (splitOmission? rest).map fun (before, after) => (c :: before, after) := by
  rw [splitOmission?]
  intro _ he
  exact absurd he hc

theorem splitOmission?_colon_cons {c : Char} (hc : c ≠ ':') (rest : List Char) :
    splitOmission? (':' :: c :: rest) =
      (splitOmission? (c :: rest)).map fun (before, after) => (':' :: before, after) := by
  rw [splitOmission?]
  intro _ _ he
  exact absurd (List.cons.inj he).1 hc

theorem splitOmission?_append {word : List Char} (h : ':' ∉ word) (rest : List Char) :
    splitOmission? (word ++ rest) =
      (splitOmission? rest).map fun (before, after) => (word ++ before, after) := by
  induction word with
  | nil => simp
  | cons c word ih =>
    have hc : c ≠ ':' := fun he => h (by simp [he])
    rw [List.cons_append, splitOmission?_cons hc, ih fun hm => h (List.mem_cons_of_mem _ hm), Option.map_map]
    rfl

/-- There is no omission within groups. -/
theorem splitOmission?_groupsText_append (groups : List UInt16) (rest : List Char) :
    splitOmission? (groupsText groups ++ rest) =
      (splitOmission? rest).map fun (before, after) => (groupsText groups ++ before, after) := by
  induction groups with
  | nil => simp [groupsText]
  | cons g groups ih =>
    cases groups with
    | nil => simpa [groupsText] using splitOmission?_append (colon_not_mem_groupText g) rest
    | cons next groups =>
      obtain ⟨c, more, hc, htext⟩ := exists_groupsText_eq_cons next groups
      rw [groupsText_cons_cons, List.append_assoc, splitOmission?_append (colon_not_mem_groupText g)]
      rw [htext] at ih ⊢
      rw [List.cons_append, List.cons_append, splitOmission?_colon_cons hc, ← List.cons_append, ih,
        Option.map_map, Option.map_map]
      congr 1
      funext x
      simp

theorem splitOmission?_groupsText (groups : List UInt16) : splitOmission? (groupsText groups) = none := by
  simpa [splitOmission?] using splitOmission?_groupsText_append groups []

theorem splitOmission?_omitted (front back : List UInt16) :
    splitOmission? (groupsText front ++ ':' :: ':' :: groupsText back) =
      some (groupsText front, groupsText back) := by
  simp [splitOmission?_groupsText_append, splitOmission?]

/-! ## Runs of zeros -/

/-- The run that is found consists of zeros. -/
theorem longestZeroRun_zeros (groups : List UInt16) :
    groups.take (longestZeroRun groups).1 ++ (List.replicate (longestZeroRun groups).2 0 ++
      groups.drop ((longestZeroRun groups).1 + (longestZeroRun groups).2)) = groups := by
  induction groups with
  | nil => rfl
  | cons g groups ih =>
    have hzeros : (g :: groups).takeWhile (· == 0) = List.replicate (zeroRun (g :: groups)) 0 :=
      List.eq_replicate_iff.2 ⟨rfl, fun x hx => by simpa using List.all_eq_true.1 List.all_takeWhile x hx⟩
    rw [longestZeroRun]
    dsimp only
    split
    · rw [List.take_zero, List.nil_append, Nat.zero_add, ← hzeros]
      exact List.prefix_iff_eq_append.1 (List.takeWhile_prefix _)
    · rw [Nat.add_right_comm, List.take_succ_cons, List.drop_succ_cons, List.cons_append, ih]

/-! ## Reading each form -/

theorem ofGroups?_toList (groups : Vector UInt16 8) : ofGroups? groups.toList = some (.v6 groups) := by
  rw [ofGroups?, dif_pos (by simp)]
  rfl

theorem group_bytes (g : UInt16) : group (UInt8.ofNat (g.toNat / 256)) (UInt8.ofNat g.toNat) = g := by
  have hlt := g.toNat_lt
  have hhigh : (UInt8.ofNat (g.toNat / 256)).toNat = g.toNat / 256 :=
    UInt8.toNat_ofNat_of_lt' (by simp [UInt8.size]; omega)
  have hlow : (UInt8.ofNat g.toNat).toNat = g.toNat % 256 := UInt8.toNat_ofNat'
  rw [group, hhigh, hlow, Nat.div_add_mod, UInt16.ofNat_toNat]

theorem readV6?_groupsText {groups : List UInt16} (h : groups ≠ []) :
    readV6? (groupsText groups) = ofGroups? groups := by
  rw [readV6?, splitOmission?_groupsText]
  dsimp only
  rw [pieces_groupsText h, readGroups?_map_groupText, Option.bind_some]

/-- An omission is filled up with zeros. -/
theorem readV6?_omitted {front back : List UInt16} (h : front.length + back.length ≤ 7) :
    readV6? (groupsText front ++ ':' :: ':' :: groupsText back) =
      ofGroups? (front ++ List.replicate (8 - front.length - back.length) 0 ++ back) := by
  rw [readV6?, splitOmission?_omitted]
  simp only [readPart?_groupsText, Option.bind_eq_bind, Option.bind_some, if_pos h]

/-- An address of version 4 in one of version 6. -/
theorem readV6?_mapped (a b c d : UInt8) :
    readV6? ([':', ':', 'f', 'f', 'f', 'f', ':'] ++ bytesText a b c d) =
      ofGroups? [0, 0, 0, 0, 0, 0xFFFF, group a b, group c d] := by
  have hcolon : ':' ∉ bytesText a b c d := by
    have hbyte (n : Nat) : ':' ∉ Numeral.ofNat n := Numeral.not_mem_ofNat (by decide) n
    simp [bytesText, hbyte]
  have hfirst : readGroup? ['f', 'f', 'f', 'f'] = some 0xFFFF := by decide
  have hlast : readGroup? (bytesText a b c d) = none := readGroup?_eq_none (by simp [bytesText])
  have hback : readPart? true (['f', 'f', 'f', 'f'] ++ ':' :: bytesText a b c d) =
      some [0xFFFF, group a b, group c d] := by
    rw [readPart?, if_neg (by simp), Text.pieces_append_cons (by decide), Text.pieces_of_not_mem hcolon]
    simp only [readGroups?, hfirst, hlast, readBytes?_bytesText, if_true, Option.map_some,
      Option.bind_eq_bind, Option.bind_some]
    rfl
  have hsplit : splitOmission? ([':', ':', 'f', 'f', 'f', 'f', ':'] ++ bytesText a b c d) =
      some ([], ['f', 'f', 'f', 'f'] ++ ':' :: bytesText a b c d) := rfl
  rw [readV6?, hsplit]
  dsimp only
  rw [hback]
  rfl

/-! ## Addresses -/

/-- What an omission leaves out is read as the zeros that are missing. -/
theorem read?_omitted {front back : List UInt16} {length : Nat} (hlength : length ≠ 0)
    (h : front.length + (length + back.length) = 8) :
    read? (groupsText front ++ ':' :: ':' :: groupsText back) =
      ofGroups? (front ++ (List.replicate length 0 ++ back)) := by
  have hdot : '.' ∉ groupsText front ++ ':' :: ':' :: groupsText back := by simp [dot_not_mem_groupsText]
  have hmissing : 8 - front.length - back.length = length := by omega
  rw [read?, readBytes?_of_not_mem hdot]
  dsimp only
  rw [readV6?_omitted (by omega), hmissing, List.append_assoc]

/-- An address is read back from its text. -/
theorem read?_text (address : Inet) : read? address.text = some address := by
  cases address with
  | v4 a b c d => rw [text, read?, readBytes?_bytesText]
  | v6 groups =>
    rw [text]
    split
    next high low hgroups =>
      have hbytes := readBytes?_append_bytesText [':', ':', 'f', 'f', 'f', 'f', ':'] (by decide)
        List.mem_cons_self (by decide)
      rw [read?, hbytes]
      dsimp only
      rw [readV6?_mapped, group_bytes, group_bytes, ← hgroups, ofGroups?_toList]
    next hlist =>
      have hzeros := longestZeroRun_zeros groups.toList
      have hlen : groups.toList.length = 8 := by simp
      generalize longestZeroRun groups.toList = run at hzeros ⊢
      obtain ⟨start, length⟩ := run
      dsimp only at hzeros ⊢
      split
      next =>
        have hne : groups.toList ≠ [] := List.ne_nil_of_length_eq_add_one hlen
        rw [read?, readBytes?_of_not_mem (dot_not_mem_groupsText _)]
        dsimp only
        rw [readV6?_groupsText hne, ofGroups?_toList]
      next hlong =>
        generalize groups.toList.take start = front at hzeros ⊢
        generalize groups.toList.drop (start + length) = back at hzeros ⊢
        have htotal := congrArg List.length hzeros
        rw [List.length_append, List.length_append, List.length_replicate, hlen] at htotal
        rw [read?_omitted (by omega) htotal, hzeros, ofGroups?_toList]

end Inet
end WideColumn
