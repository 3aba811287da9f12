import WideColumn.Proofs.Success
import WideColumn.Query.Clause
/-!
# Bounds of a field

Bounds can be compared with if their tokens are known, at most one of them is
on each side, and their operands have an order. They are read from left to
right: what is read are their operators, or what is said against the first one
that does not go with those before it.
-/

namespace WideColumn

/-- The tokens that bound a side. -/
def BoundSide.tokens : BoundSide → List String
  | .upper => ["<", "lessThan", "<=", "lessThanOrEqual"]
  | .lower => [">", "greaterThan", ">=", "greaterThanOrEqual"]

/-- Whether a value can be compared by order. -/
def Json.isOrdered : Json → Bool
  | .string _ | .number _ => true
  | _ => false

/-- Bounds that can be compared with: known tokens, one for each side at most,
and operands that have an order. -/
structure SoundBounds (bounds : List (String × Json)) : Prop where
  known : ∀ bound ∈ bounds, ∃ side : BoundSide, bound.1 ∈ side.tokens
  single : ∀ side : BoundSide, (bounds.filter (·.1 ∈ side.tokens)).length ≤ 1
  ordered : ∀ bound ∈ bounds, bound.2.isOrdered = true

/-- What is said against a bound that comes behind others. The token is looked
at first, then the side, and then the operand. -/
inductive BoundFault (field : String) (before : List (String × Json)) : String × Json → CompileError → Prop
  | unknown {token : String} {operand : Json} (h : ∀ side : BoundSide, token ∉ side.tokens) :
      BoundFault field before (token, operand) (.unsupportedOperator field token)
  | conflict {token first : String} {operand other : Json} {side : BoundSide} (h : token ∈ side.tokens)
      (hm : (first, other) ∈ before) (hf : first ∈ side.tokens) :
      BoundFault field before (token, operand) (.conflictingOperators field first token)
  | unordered {token : String} {operand : Json} {operator : Operator}
      (h : Operator.ofToken? token = some operator)
      (hf : ∀ side : BoundSide, token ∈ side.tokens → ∀ bound ∈ before, bound.1 ∉ side.tokens)
      (ho : operand.isOrdered = false) :
      BoundFault field before (token, operand) (.invalidOperand field operator.token operand)

/-- The operators of bounds, with the operands. -/
def operatorsOf (bounds : List (String × Json)) : List (Operator × Json) :=
  bounds.filterMap fun bound => (Operator.ofToken? bound.1).map (·, bound.2)

/-- How bounds are read: all of them, or up to the first one that something is
said against. -/
inductive BoundsOutcome (field : String) (bounds : List (String × Json)) :
    Except CompileError (List (Operator × Json)) → Prop
  | sound (h : SoundBounds bounds) : BoundsOutcome field bounds (.ok (operatorsOf bounds))
  | fault {front back : List (String × Json)} {bound : String × Json} {e : CompileError}
      (hb : bounds = front ++ bound :: back) (hf : SoundBounds front) (he : BoundFault field front bound e) :
      BoundsOutcome field bounds (.error e)

/-- The side of a token is that of its operator. -/
theorem Operator.mem_tokens_iff {token : String} {operator : Operator} (h : ofToken? token = some operator)
    (side : BoundSide) : token ∈ side.tokens ↔ operator.side? = some side := by
  unfold ofToken? at h
  split at h
  all_goals cases h
  all_goals cases side <;> simp [BoundSide.tokens, side?]

theorem Operator.ofToken?_eq_none_iff {token : String} :
    ofToken? token = none ↔ ∀ side : BoundSide, token ∉ side.tokens := by
  constructor
  · intro h side hm
    cases side <;> simp only [BoundSide.tokens, List.mem_cons, List.not_mem_nil, or_false] at hm <;>
      rcases hm with rfl | rfl | rfl | rfl <;> cases h
  · intro h
    have hupper := h .upper
    have hlower := h .lower
    simp only [BoundSide.tokens, List.mem_cons, List.not_mem_nil, or_false, not_or] at hupper hlower
    unfold ofToken?
    split <;> simp_all

theorem Operator.exists_side {token : String} {operator : Operator} (h : ofToken? token = some operator) :
    ∃ side, operator.side? = some side := by
  unfold ofToken? at h
  split at h
  all_goals cases h
  all_goals exact ⟨_, rfl⟩

/-- The operators and tokens of bounds, as they are remembered for the bounds
behind. -/
def operatorsSeen (bounds : List (String × Json)) : List (Operator × String) :=
  bounds.filterMap fun bound => (Operator.ofToken? bound.1).map (·, bound.1)

theorem mem_operatorsSeen {bounds : List (String × Json)} {operator : Operator} {token : String} :
    (operator, token) ∈ operatorsSeen bounds ↔
      Operator.ofToken? token = some operator ∧ ∃ operand, (token, operand) ∈ bounds := by
  simp only [operatorsSeen, List.mem_filterMap, Option.map_eq_some_iff, Prod.mk.injEq]
  constructor
  · rintro ⟨⟨token, operand⟩, hm, _, h, rfl, rfl⟩
    exact ⟨h, operand, hm⟩
  · rintro ⟨h, operand, hm⟩
    exact ⟨(token, operand), hm, operator, h, rfl, rfl⟩

/-- An operator is found by its side exactly if a bound before is on that
side. -/
theorem find?_operatorsSeen_eq_none_iff {before : List (String × Json)} {token : String} {operator : Operator}
    (h : Operator.ofToken? token = some operator) :
    (operatorsSeen before).find? (·.1.side? = operator.side?) = none ↔
      ∀ side : BoundSide, token ∈ side.tokens → ∀ bound ∈ before, bound.1 ∉ side.tokens := by
  simp only [List.find?_eq_none, decide_eq_true_eq]
  constructor
  · intro hnone side hside bound hm hbound
    cases hother : Operator.ofToken? bound.1 with
    | none => exact Operator.ofToken?_eq_none_iff.1 hother side hbound
    | some other =>
      refine hnone (other, bound.1) (mem_operatorsSeen.2 ⟨hother, bound.2, hm⟩) ?_
      rw [(Operator.mem_tokens_iff hother side).1 hbound, (Operator.mem_tokens_iff h side).1 hside]
  · rintro hall ⟨other, first⟩ hm hsame
    obtain ⟨hother, operand, hbound⟩ := mem_operatorsSeen.1 hm
    obtain ⟨side, hside⟩ := Operator.exists_side h
    exact hall side ((Operator.mem_tokens_iff h side).2 hside) _ hbound
      ((Operator.mem_tokens_iff hother side).2 (hsame.trans hside))

theorem SoundBounds.nil : SoundBounds [] where
  known := by simp
  single := by simp
  ordered := by simp

theorem SoundBounds.sublist {part bounds : List (String × Json)} (hs : part.Sublist bounds) (h : SoundBounds bounds) :
    SoundBounds part where
  known bound hm := h.known bound (hs.subset hm)
  single side := Nat.le_trans (hs.filter _).length_le (h.single side)
  ordered bound hm := h.ordered bound (hs.subset hm)

/-- Sound bounds take another one if its side is free and its operand has an
order. -/
theorem SoundBounds.append_singleton_iff {bounds : List (String × Json)} {token : String} {operand : Json} :
    SoundBounds (bounds ++ [(token, operand)]) ↔
      SoundBounds bounds ∧ (∃ side : BoundSide, token ∈ side.tokens) ∧
        (∀ side : BoundSide, token ∈ side.tokens → ∀ bound ∈ bounds, bound.1 ∉ side.tokens) ∧
        operand.isOrdered = true := by
  have hsplit (side : BoundSide) : (bounds ++ [(token, operand)]).filter (·.1 ∈ side.tokens) =
      bounds.filter (·.1 ∈ side.tokens) ++ if token ∈ side.tokens then [(token, operand)] else [] := by
    rw [List.filter_append, List.filter_cons, List.filter_nil]
    simp only [decide_eq_true_eq]
  constructor
  · intro h
    refine ⟨h.sublist (by simp), h.known (token, operand) (by simp), fun side hside bound hm hbound => ?_,
      h.ordered (token, operand) (by simp)⟩
    -- the bound before and the new one would be two on their side
    have hone := h.single side
    rw [hsplit, if_pos hside, List.length_append, List.length_singleton] at hone
    have hpos : 0 < (bounds.filter (·.1 ∈ side.tokens)).length :=
      List.length_pos_of_mem (List.mem_filter.2 ⟨hm, decide_eq_true hbound⟩)
    omega
  · rintro ⟨hbounds, hknown, hfree, hordered⟩
    constructor
    · intro bound hm
      rcases List.mem_append.1 hm with hm | hm
      · exact hbounds.known bound hm
      · cases List.mem_singleton.1 hm
        exact hknown
    · intro side
      rw [hsplit]
      by_cases hside : token ∈ side.tokens
      · have hnone : bounds.filter (·.1 ∈ side.tokens) = [] :=
          List.filter_eq_nil_iff.2 fun bound hm => by simpa using hfree side hside bound hm
        simp [hnone, hside]
      · simpa [hside] using hbounds.single side
    · intro bound hm
      rcases List.mem_append.1 hm with hm | hm
      · exact hbounds.ordered bound hm
      · cases List.mem_singleton.1 hm
        exact hordered

/-- What is said against a bound stands against all bounds. -/
theorem BoundFault.not_sound {field : String} {front back : List (String × Json)} {bound : String × Json}
    {e : CompileError} (h : BoundFault field front bound e) : ¬SoundBounds (front ++ bound :: back) := by
  intro hs
  have hfront : SoundBounds (front ++ [bound]) := hs.sublist (by simp)
  obtain ⟨token, operand⟩ := bound
  obtain ⟨-, ⟨side, hside⟩, hfree, hordered⟩ := SoundBounds.append_singleton_iff.1 hfront
  cases h with
  | unknown h => exact h side hside
  | conflict h hm hf => exact hfree _ h _ hm hf
  | unordered _ _ ho => simp [hordered] at ho

/-- Bounds are read one after the other, next to those that were sound. -/
theorem outcome_of_readBounds_append (field : String) {front : List (String × Json)} (hf : SoundBounds front)
    (rest : List (String × Json)) :
    BoundsOutcome field (front ++ rest)
      ((readBounds field (operatorsSeen front) rest).map (operatorsOf front ++ ·)) := by
  induction rest generalizing front with
  | nil =>
    have hsound : BoundsOutcome field front (.ok (operatorsOf front)) := .sound hf
    simpa [readBounds, Except.map] using hsound
  | cons bound rest ih =>
    obtain ⟨token, operand⟩ := bound
    rw [readBounds]
    split
    · next hoperator => exact .fault rfl hf (.unknown (Operator.ofToken?_eq_none_iff.1 hoperator))
    next operator hoperator =>
    obtain ⟨side, hside⟩ := Operator.exists_side hoperator
    have hmem := (Operator.mem_tokens_iff hoperator side).2 hside
    split
    · next other first hfound =>
      obtain ⟨hother, operand', hm⟩ := mem_operatorsSeen.1 (List.mem_of_find?_eq_some hfound)
      have hsame : other.side? = operator.side? := by simpa using List.find?_some hfound
      exact .fault rfl hf (.conflict hmem hm ((Operator.mem_tokens_iff hother side).2 (hsame.trans hside)))
    next hfree =>
    have hfree := (find?_operatorsSeen_eq_none_iff hoperator).1 hfree
    -- the invariant of the run: the bounds so far are sound, and what is remembered is theirs
    have hstep (ho : operand.isOrdered = true) : BoundsOutcome field (front ++ (token, operand) :: rest)
        (((readBounds field (operatorsSeen front ++ [(operator, token)]) rest).map ((operator, operand) :: ·)).map
          (operatorsOf front ++ ·)) := by
      have hnext := ih (SoundBounds.append_singleton_iff.2 ⟨hf, ⟨side, hmem⟩, hfree, ho⟩)
      simpa [operatorsSeen, operatorsOf, hoperator, except_map_map] using hnext
    split
    · exact hstep rfl
    · exact hstep rfl
    · next hs hn =>
      refine .fault rfl hf (.unordered hoperator hfree ?_)
      cases operand <;> simp_all [Json.isOrdered]

theorem outcome_of_readBounds (field : String) (bounds : List (String × Json)) :
    BoundsOutcome field bounds (readBounds field [] bounds) := by
  have h := outcome_of_readBounds_append field SoundBounds.nil bounds
  have hid (result : Except CompileError (List (Operator × Json))) : result.map (operatorsOf [] ++ ·) = result := by
    cases result <;> rfl
  rw [hid] at h
  exact h

/-- Sound bounds have one bound at most on a side. -/
theorem SoundBounds.eq_of_mem {bounds : List (String × Json)} (h : SoundBounds bounds) {side : BoundSide}
    {left right : String × Json} (hl : left ∈ bounds) (hr : right ∈ bounds) (hls : left.1 ∈ side.tokens)
    (hrs : right.1 ∈ side.tokens) : left = right := by
  have hmem {bound : String × Json} (hm : bound ∈ bounds) (hs : bound.1 ∈ side.tokens) :
      bound ∈ bounds.filter (·.1 ∈ side.tokens) := List.mem_filter.2 ⟨hm, decide_eq_true hs⟩
  have hleft := hmem hl hls
  have hright := hmem hr hrs
  have hone := h.single side
  generalize bounds.filter (·.1 ∈ side.tokens) = found at hleft hright hone
  match found, hone with
  | [_], _ => rw [List.mem_singleton.1 hleft, List.mem_singleton.1 hright]

theorem BoundSide.eq_of_mem_tokens {token : String} {side other : BoundSide} (h : token ∈ side.tokens)
    (ho : token ∈ other.tokens) : side = other := by
  cases hoperator : Operator.ofToken? token with
  | none => exact absurd h (Operator.ofToken?_eq_none_iff.1 hoperator side)
  | some operator =>
    have hside := (Operator.mem_tokens_iff hoperator side).1 h
    exact Option.some.inj (hside.symm.trans ((Operator.mem_tokens_iff hoperator other).1 ho))

/-- One thing only is said against a bound. -/
theorem BoundFault.unique {field : String} {before : List (String × Json)} (hs : SoundBounds before)
    {bound : String × Json} {e e' : CompileError} (h : BoundFault field before bound e)
    (h' : BoundFault field before bound e') : e = e' := by
  cases h with
  | unknown hu =>
    cases h' with
    | unknown => rfl
    | conflict hside => exact absurd hside (hu _)
    | unordered hoperator => cases (Operator.ofToken?_eq_none_iff.2 hu).symm.trans hoperator
  | conflict hside hm hf =>
    cases h' with
    | unknown hu => exact absurd hside (hu _)
    | conflict hside' hm' hf' =>
      cases BoundSide.eq_of_mem_tokens hside hside'
      cases hs.eq_of_mem hm hm' hf hf'
      rfl
    | unordered _ hfree => exact absurd hf (hfree _ hside _ hm)
  | unordered hoperator hfree =>
    cases h' with
    | unknown hu => cases (Operator.ofToken?_eq_none_iff.2 hu).symm.trans hoperator
    | conflict hside hm hf => exact absurd hf (hfree _ hside _ hm)
    | unordered hoperator' =>
      cases hoperator.symm.trans hoperator'
      rfl

/-- Sound bounds end before the bound that something is said against. -/
theorem BoundFault.length_le {field : String} {front back front' back' : List (String × Json)} {bound : String × Json}
    {e : CompileError} (h : BoundFault field front bound e) (hs : SoundBounds front')
    (heq : front ++ bound :: back = front' ++ back') : front'.length ≤ front.length := by
  apply Nat.le_of_not_lt
  intro hlonger
  have hbeyond : front ++ [bound] <+: front' := by
    refine List.prefix_of_prefix_length_le ⟨back, by simpa using heq⟩ (List.prefix_append front' back') ?_
    rw [List.length_append, List.length_singleton]
    exact hlonger
  exact h.not_sound (hs.sublist hbeyond.sublist)

theorem BoundsOutcome.unique {field : String} {bounds : List (String × Json)}
    {result result' : Except CompileError (List (Operator × Json))} (h : BoundsOutcome field bounds result)
    (h' : BoundsOutcome field bounds result') : result = result' := by
  cases h with
  | sound hs =>
    cases h' with
    | sound => rfl
    | fault hb hf he => exact absurd (hb ▸ hs) he.not_sound
  | fault hb hf he =>
    cases h' with
    | sound hs => exact absurd (hb ▸ hs) he.not_sound
    | fault hb' hf' he' =>
      have heq := hb.symm.trans hb'
      obtain ⟨hfront, hrest⟩ := List.append_inj heq (Nat.le_antisymm (he'.length_le hf heq.symm) (he.length_le hf' heq))
      cases hfront
      cases hrest
      rw [he.unique hf he']

/-- How bounds are read is told by the bounds. -/
theorem readBounds_eq_iff {field : String} {bounds : List (String × Json)}
    {result : Except CompileError (List (Operator × Json))} :
    readBounds field [] bounds = result ↔ BoundsOutcome field bounds result := by
  constructor
  · rintro rfl
    exact outcome_of_readBounds field bounds
  · exact (outcome_of_readBounds field bounds).unique

theorem SoundBounds.length_operatorsOf {bounds : List (String × Json)} (h : SoundBounds bounds) :
    (operatorsOf bounds).length = bounds.length := by
  unfold operatorsOf
  rw [List.length_filterMap_eq_countP, List.countP_eq_length]
  intro bound hm
  obtain ⟨side, hside⟩ := h.known bound hm
  cases hoperator : Operator.ofToken? bound.1 with
  | none => exact absurd hside (Operator.ofToken?_eq_none_iff.1 hoperator side)
  | some operator => rfl

theorem map_fst_operatorsOf (bounds : List (String × Json)) :
    (operatorsOf bounds).map (·.1) = bounds.filterMap fun bound => Operator.ofToken? bound.1 := by
  rw [operatorsOf, List.map_filterMap]
  congr 1
  funext bound
  cases Operator.ofToken? bound.1 <;> rfl

end WideColumn
