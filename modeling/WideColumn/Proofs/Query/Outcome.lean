import WideColumn.Proofs.Query.Clause
/-!
# Which clauses are made

Whether a filter has a clause, which one it is, and what is said against it
when there is none, follows from its conditions in a row. A condition needs a
column, and bounds need to be sound. The first condition that lacks something
is the one that is blamed.
-/

namespace WideColumn

/-! ## Conditions -/

/-- A condition that can be compared: one value, several, or sound bounds. -/
def Condition.Sound : Condition → Prop
  | .equals _ | .among _ => True
  | .within bounds => SoundBounds bounds

/-- What a condition writes about a column: texts, each with the value of its
placeholder. -/
def Condition.predicates (column : String) : Condition → List (String × Json)
  | .equals value => [(quoteName column ++ " = ?", value)]
  | .among values => [(quoteName column ++ " IN (?)", .array values)]
  | .within bounds => (operatorsOf bounds).map fun (operator, operand) =>
      (quoteName column ++ " " ++ operator.token ++ " ?", operand)

namespace Schema

variable {schema : Schema}

/-- A condition that the schema can compare: its name is that of a column, and
it is sound. -/
structure Compares (schema : Schema) (field : String × Condition) : Prop where
  named : ∃ column, schema.find? field.1 = some column
  sound : field.2.Sound

/-- What is said against a condition. The name is looked at before the bounds. -/
inductive Faults (schema : Schema) : String × Condition → CompileError → Prop
  | unknownField {name : String} {condition : Condition} (h : schema.find? name = none) :
      Faults schema (name, condition) (.unknownField name)
  | bounds {name : String} {bounds : List (String × Json)} {column : Column} {e : CompileError}
      (hn : schema.find? name = some column) (hb : BoundsOutcome name bounds (.error e)) :
      Faults schema (name, .within bounds) e

/-- What a condition on a field writes, as far as the field has a column. -/
def predicates (schema : Schema) (field : String × Condition) : List (String × Json) :=
  ((schema.find? field.1).map fun column => field.2.predicates column.name).getD []

theorem resolve_eq_error_iff {name : String} {e : CompileError} :
    schema.resolve name = .error e ↔ schema.find? name = none ∧ e = .unknownField name := by
  unfold resolve
  cases schema.find? name <;> simp [eq_comm]

/-- The comparisons of sound bounds write their predicates. -/
theorem map_text_operatorsOf (column : String) (bounds : List (String × Json)) :
    (((operatorsOf bounds).map fun (operator, operand) => (⟨column, operator, operand⟩ : Comparison)).map
      fun comparison => (comparison.text, comparison.operand)) = (Condition.within bounds).predicates column := by
  rw [Condition.predicates, List.map_map]
  refine List.map_congr_left fun bound hm => ?_
  obtain ⟨⟨token, operand⟩, -, h⟩ := List.mem_filterMap.1 hm
  obtain ⟨operator, hoperator, rfl⟩ := Option.map_eq_some_iff.1 h
  obtain ⟨side, hside⟩ := Operator.exists_side hoperator
  cases operator <;> first | rfl | cases hside

/-- A condition that the schema compares writes its predicates. -/
theorem compare_of_compares {name : String} {condition : Condition} (h : schema.Compares (name, condition)) :
    ∃ part, schema.compare name condition = .ok part ∧
      part.map (fun comparison => (comparison.text, comparison.operand)) = schema.predicates (name, condition) := by
  obtain ⟨⟨column, hcolumn⟩, hsound⟩ := h
  rw [compare, predicates, hcolumn, resolve_eq_ok_iff.2 hcolumn]
  cases condition with
  | equals value => exact ⟨_, rfl, congrArg (fun text => [(text, value)]) (Comparison.text_equal column.name value)⟩
  | among values => exact ⟨_, rfl, rfl⟩
  | within bounds =>
    refine ⟨_, ?_, map_text_operatorsOf column.name bounds⟩
    simp only [readBounds_eq_iff.2 (.sound hsound)]
    rfl

/-- Nothing is said against a condition that the schema compares, and exactly
one thing against any other. -/
theorem compare_eq_error_iff {name : String} {condition : Condition} {e : CompileError} :
    schema.compare name condition = .error e ↔ schema.Faults (name, condition) e := by
  rw [compare]
  cases hfind : schema.find? name with
  | none =>
    rw [resolve_eq_error_iff.2 ⟨hfind, rfl⟩]
    constructor
    · rintro ⟨⟩
      exact .unknownField hfind
    · intro h
      cases h with
      | unknownField => rfl
      | bounds hn => cases hfind.symm.trans hn
  | some column =>
    rw [resolve_eq_ok_iff.2 hfind]
    constructor
    · intro h
      cases condition with
      | equals value => cases h
      | among values => cases h
      | within bounds =>
        refine .bounds hfind (readBounds_eq_iff.1 ?_)
        cases hread : readBounds name [] bounds with
        | ok found =>
          simp only [hread] at h
          cases h
        | error cause =>
          simp only [hread] at h
          cases h
          rfl
    · intro h
      cases h with
      | unknownField hn => cases hfind.symm.trans hn
      | bounds hn hb =>
        simp only [readBounds_eq_iff.2 hb]
        rfl

theorem exists_compare_iff {name : String} {condition : Condition} :
    (∃ part, schema.compare name condition = .ok part) ↔ schema.Compares (name, condition) := by
  constructor
  · rintro ⟨part, h⟩
    obtain ⟨column, hcolumn, h⟩ := bind_eq_ok_iff.1 h
    refine ⟨⟨column, resolve_eq_ok_iff.1 hcolumn⟩, ?_⟩
    cases condition with
    | equals value | among values => trivial
    | within bounds =>
      obtain ⟨found, hfound, -⟩ := bind_eq_ok_iff.1 h
      cases readBounds_eq_iff.1 hfound with
      | sound hs => exact hs
  · intro h
    obtain ⟨part, hpart, -⟩ := compare_of_compares h
    exact ⟨part, hpart⟩

/-! ## Clauses -/

/-- The parts of a clause write the predicates of the conditions. -/
theorem map_text_of_clause {filter : Filter} {clause : Clause} (h : schema.clause filter = .ok clause) :
    clause.map (fun comparison => (comparison.text, comparison.operand)) =
      filter.fields.flatMap schema.predicates := by
  obtain ⟨parts, hparts, rfl⟩ := clause_eq_ok_iff.1 h
  clear h
  generalize filter.fields = fields at hparts ⊢
  induction fields generalizing parts with
  | nil =>
    cases hparts
    rfl
  | cons field fields ih =>
    obtain ⟨first, rest, hfirst, hrest, rfl⟩ := mapM_cons_eq_ok_iff.1 hparts
    obtain ⟨part, hpart, htext⟩ := compare_of_compares (exists_compare_iff.1 ⟨first, hfirst⟩)
    cases hfirst.symm.trans hpart
    rw [List.flatten_cons, List.map_append, List.flatMap_cons, htext, ih rest hrest]

end Schema

theorem Comparison.text_ne_empty (comparison : Comparison) : comparison.text ≠ "" := by
  have hquoted (back : String) : quoteName comparison.column ++ back ≠ "" := by
    simp [quoteName]
  unfold text
  split
  · exact hquoted _
  · rw [String.append_assoc, String.append_assoc]
    exact hquoted _

theorem Clause.text_eq_empty_iff {clause : Clause} : clause.text = "" ↔ clause = [] := by
  cases clause with
  | nil => simp [text]
  | cons first rest =>
    have hfirst := first.text_ne_empty
    cases rest with
    | nil => simpa [text] using hfirst
    | cons next rest => simp [text, hfirst, String.intercalate_cons_cons]

namespace Schema

variable {schema : Schema}

theorem exists_clause_iff {filter : Filter} :
    (∃ clause, schema.clause filter = .ok clause) ↔ ∀ field ∈ filter.fields, schema.Compares field := by
  rw [clause_eq_mapM, exists_map_iff, exists_mapM_iff]
  simp only [exists_compare_iff]

theorem predicates_eq_nil_iff {field : String × Condition} (h : schema.Compares field) :
    schema.predicates field = [] ↔ field.2 = .within [] := by
  obtain ⟨⟨column, hcolumn⟩, hsound⟩ := h
  obtain ⟨name, condition⟩ := field
  rw [predicates, hcolumn]
  cases condition with
  | equals value | among values => simp [Condition.predicates]
  | within bounds =>
    -- every bound has an operator
    have hlength := SoundBounds.length_operatorsOf hsound
    simp [Condition.predicates, ← List.length_eq_zero_iff, hlength]

/-- A clause is empty if nothing is asked for: bounds that are an empty list
make no comparison. -/
theorem clause_eq_nil_iff {filter : Filter} {clause : Clause} (h : schema.clause filter = .ok clause) :
    clause = [] ↔ ∀ field ∈ filter.fields, field.2 = .within [] := by
  have hcompares := exists_clause_iff.1 ⟨clause, h⟩
  rw [← List.map_eq_nil_iff, map_text_of_clause h, List.flatMap_eq_nil_iff]
  exact forall₂_congr fun field hm => predicates_eq_nil_iff (hcompares field hm)

/-- A filter has a clause exactly if each of its conditions can be compared,
and otherwise the first one that cannot is blamed. The clause writes the
conditions from left to right, and filters with the same conditions have the
same clause. -/
theorem clause_follows_conditions (schema : Schema) (filter : Filter) :
    ((∃ clause, schema.clause filter = .ok clause) ↔ ∀ field ∈ filter.fields, schema.Compares field) ∧
      (∀ e, schema.clause filter = .error e ↔ ∃ front field back, filter.fields = front ++ field :: back ∧
        (∀ other ∈ front, schema.Compares other) ∧ schema.Faults field e) ∧
      (∀ clause, schema.clause filter = .ok clause →
        clause.text = " AND ".intercalate ((filter.fields.flatMap schema.predicates).map (·.1)) ∧
        clause.params = (filter.fields.flatMap schema.predicates).map (·.2) ∧
        (clause.text = "" ↔ ∀ field ∈ filter.fields, field.2 = .within [])) ∧
      ∀ other : Filter, filter.fields = other.fields → schema.clause filter = schema.clause other := by
  refine ⟨exists_clause_iff, fun e => ?_, fun clause h => ⟨?_, ?_, ?_⟩, fun other h => ?_⟩
  · rw [clause_eq_mapM, map_eq_error_iff, mapM_eq_error_iff]
    simp only [exists_compare_iff, compare_eq_error_iff]
  · rw [← map_text_of_clause h, List.map_map]
    rfl
  · rw [← map_text_of_clause h, List.map_map]
    rfl
  · rw [Clause.text_eq_empty_iff, clause_eq_nil_iff h]
  · rw [clause_eq_clauseOfFields, clause_eq_clauseOfFields, h]

/-- An age is compared on both sides, before the tags under `and`, whatever is
empty around them. A second upper bound is blamed before its operand, and
before a name that is none. -/
theorem clause_follows_conditions_sample :
    let age (bounds : List (String × Json)) : Filter := .field "age" (.within bounds)
    let tags : Filter := .field "tags" (.among [.string "x", .null])
    (∃ clause, Schema.sample.clause
        (.all [.all [], age [(">=", .ofInt64 18), ("lessThan", .string "z")], .all [age [], tags]]) = .ok clause ∧
      clause.text = "\"years\" >= ? AND \"years\" < ? AND \"tags\" IN (?)" ∧
      clause.params = [.ofInt64 18, .string "z", .array [.string "x", .null]]) ∧
    Schema.sample.clause
        (.all [tags, .all [age [("<", .ofInt64 1), (">", .ofInt64 0), ("lessThanOrEqual", .null)]],
          .field "shoe" (.equals .null)]) =
      .error (.conflictingOperators "age" "<" "lessThanOrEqual") := by
  intro age tags
  constructor
  · obtain ⟨-, -, hwrites, -⟩ := clause_follows_conditions .sample
      (.all [.all [], age [(">=", .ofInt64 18), ("lessThan", .string "z")], .all [age [], tags]])
    obtain ⟨clause, hclause⟩ : ∃ clause, Schema.sample.clause
        (.all [.all [], age [(">=", .ofInt64 18), ("lessThan", .string "z")], .all [age [], tags]]) = .ok clause :=
      ⟨_, rfl⟩
    obtain ⟨htext, hparams, -⟩ := hwrites clause hclause
    exact ⟨clause, hclause, htext.trans (by decide +kernel), hparams⟩
  · obtain ⟨-, hblames, -⟩ := clause_follows_conditions .sample
      (.all [tags, .all [age [("<", .ofInt64 1), (">", .ofInt64 0), ("lessThanOrEqual", .null)]],
        .field "shoe" (.equals .null)])
    have hsound : SoundBounds [("<", .ofInt64 1), (">", .ofInt64 0)] := by
      constructor
      · rintro bound hm
        rcases List.mem_cons.1 hm with rfl | hm
        · exact ⟨.upper, by decide⟩
        · cases List.mem_singleton.1 hm
          exact ⟨.lower, by decide⟩
      · rintro (_ | _) <;> decide
      · simp [Json.ofInt64, Json.isOrdered]
    have hupper : "lessThanOrEqual" ∈ BoundSide.upper.tokens := by decide
    have hfault : BoundFault "age" [("<", .ofInt64 1), (">", .ofInt64 0)] ("lessThanOrEqual", .null)
        (.conflictingOperators "age" "<" "lessThanOrEqual") :=
      .conflict hupper List.mem_cons_self (by decide)
    refine (hblames _).2
      ⟨[("tags", .among [.string "x", .null])], _, _, rfl, ?_, .bounds rfl (.fault rfl hsound hfault)⟩
    rintro other hm
    cases List.mem_singleton.1 hm
    exact ⟨⟨_, rfl⟩, trivial⟩

end Schema
end WideColumn
