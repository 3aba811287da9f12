import WideColumn.Proofs.Criteria.Reader
/-!
# Which documents are conditions

An object is read as conditions unless `or` occurs in it, `and` holds something
else than an array of such objects, or a field has a value that nothing is
compared with. What is read are the conditions of its fields in the order of
the document. Those of the objects under `and` stand where the `and` stands, and
objects without conditions leave no trace.
-/

namespace WideColumn

/-! ## Conditions on a field -/

/-- A value that a field can be compared with: a scalar, an array of scalars, or
an object of bounds. -/
inductive Json.IsOperand : Json → Prop
  | string (s : String) : IsOperand (.string s)
  | number (n : Number) : IsOperand (.number n)
  | bool (b : Bool) : IsOperand (.bool b)
  | array {items : List Json} (h : ∀ item ∈ items, item.isScalar = true) : IsOperand (.array items)
  | object {bounds : List (String × Json)} (h : bounds ≠ []) : IsOperand (.object bounds)

/-- The condition that a value stands for. Lists and bounds are taken as they
are. -/
def Condition.ofValue : Json → Condition
  | .array items => .among items
  | .object bounds => .within bounds
  | value => .equals value

theorem Condition.read_eq_ok_iff {name : String} {value : Json} {condition : Condition} :
    read name value = .ok condition ↔ value.IsOperand ∧ condition = ofValue value := by
  constructor
  · intro h
    cases value with
    | null => cases h
    | string s =>
      cases h
      exact ⟨.string s, rfl⟩
    | number n =>
      cases h
      exact ⟨.number n, rfl⟩
    | bool b =>
      cases h
      exact ⟨.bool b, rfl⟩
    | array items =>
      rw [read] at h
      split at h
      · cases h
      · next hnone =>
        cases h
        rw [List.find?_eq_none] at hnone
        exact ⟨.array fun item hm => by simpa using hnone item hm, rfl⟩
    | object bounds =>
      cases bounds with
      | nil => cases h
      | cons bound rest =>
        cases h
        exact ⟨.object (List.cons_ne_nil bound rest), rfl⟩
  · rintro ⟨h, rfl⟩
    cases h with
    | string | number | bool => rfl
    | @array items h =>
      have hnone : items.find? (!·.isScalar) = none := by simpa using h
      rw [read, hnone]
      rfl
    | @object bounds h =>
      cases bounds with
      | nil => exact absurd rfl h
      | cons bound rest => rfl

namespace Filter

/-! ## Conditions of an object -/

/-- The objects that are read as conditions. -/
inductive IsConditions : Json → Prop
  | object {entries : List (String × Json)}
      (disjunction : ∀ value, ("or", value) ∉ entries)
      (conjunction : ∀ value, ("and", value) ∈ entries → ∃ items, value = .array items)
      (nested : ∀ items, ("and", .array items) ∈ entries → ∀ item ∈ items, IsConditions item)
      (operands : ∀ name value, (name, value) ∈ entries → name ≠ "and" → value.IsOperand) :
      IsConditions (.object entries)

mutual

/-- The conditions of an object in the order of the document, with those of the
objects under `and` in its place. -/
def conditionsOf : Json → List (String × Condition)
  | .object entries => conditionsOfEntries entries
  | _ => []

def conditionsOfEntries : List (String × Json) → List (String × Condition)
  | [] => []
  | (name, value) :: rest =>
    (if name = "and" then
      match value with
      | .array items => conditionsOfAll items
      | _ => []
    else [(name, Condition.ofValue value)]) ++ conditionsOfEntries rest

/-- The conditions of several objects, one behind the other. -/
def conditionsOfAll : List Json → List (String × Condition)
  | [] => []
  | item :: items => conditionsOf item ++ conditionsOfAll items

end

theorem conditionsOfEntries_and_cons (items : List Json) (rest : List (String × Json)) :
    conditionsOfEntries (("and", .array items) :: rest) = conditionsOfAll items ++ conditionsOfEntries rest := by
  simp [conditionsOfEntries]

theorem conditionsOfEntries_cons_of_ne {name : String} (h : name ≠ "and") (value : Json)
    (rest : List (String × Json)) :
    conditionsOfEntries ((name, value) :: rest) = (name, Condition.ofValue value) :: conditionsOfEntries rest := by
  cases value <;> simp [conditionsOfEntries, h]

/-! ## Acceptance -/

theorem readField_and (items : List Json) : readField "and" (.array items) = (items.mapM read).map .all := by
  rw [readField, if_pos rfl, readAll_eq_mapM]

theorem readField_of_ne {name : String} (ha : name ≠ "and") (ho : name ≠ "or") (value : Json) :
    readField name value = (Condition.read name value).map (.field name) := by
  unfold readField
  rw [if_neg ha, if_neg ho]

theorem exists_readField_iff {name : String} {value : Json} :
    (∃ child, readField name value = .ok child) ↔ name ≠ "or" ∧
      (name = "and" → ∃ items, value = .array items ∧ ∀ item ∈ items, ∃ filter, read item = .ok filter) ∧
      (name ≠ "and" → value.IsOperand) := by
  by_cases ha : name = "and"
  · subst ha
    cases value with
    | array items => simp [readField_and, exists_map_iff, exists_mapM_iff]
    | null | bool | number | string | object => simp [readField]
  · by_cases ho : name = "or"
    · subst ho
      cases value <;> simp [readField]
    · rw [readField_of_ne ha ho, exists_map_iff]
      simp [Condition.read_eq_ok_iff, ha, ho]

theorem exists_read_iff {entries : List (String × Json)} :
    (∃ filter, read (.object entries) = .ok filter) ↔
      ∀ entry ∈ entries, ∃ child, readField entry.1 entry.2 = .ok child := by
  rw [read, readFields_eq_mapM, exists_map_iff, exists_mapM_iff]

theorem exists_read_of_isConditions {document : Json} (h : IsConditions document) :
    ∃ filter, read document = .ok filter := by
  induction h with
  | @object entries disjunction conjunction _ operands ih =>
    rw [exists_read_iff]
    rintro ⟨name, value⟩ hm
    rw [exists_readField_iff]
    refine ⟨?_, ?_, operands name value hm⟩
    · rintro rfl
      exact disjunction value hm
    · rintro rfl
      obtain ⟨items, rfl⟩ := conjunction value hm
      exact ⟨items, rfl, ih items hm⟩

theorem isConditions_of_read : ∀ (document : Json) {filter : Filter}, read document = .ok filter →
    IsConditions document
  | .object entries, filter, h => by
    have hentry := exists_read_iff.1 ⟨filter, h⟩
    refine .object (fun value hm => ?_) (fun value hm => ?_) (fun items hm item hi => ?_) fun name value hm => ?_
    · exact (exists_readField_iff.1 (hentry _ hm)).1 rfl
    · obtain ⟨-, hand, -⟩ := exists_readField_iff.1 (hentry _ hm)
      obtain ⟨items, hitems, -⟩ := hand rfl
      exact ⟨items, hitems⟩
    · obtain ⟨-, hand, -⟩ := exists_readField_iff.1 (hentry _ hm)
      obtain ⟨_, hitems, hread⟩ := hand rfl
      cases hitems
      obtain ⟨child, hchild⟩ := hread item hi
      exact isConditions_of_read item hchild
    · exact (exists_readField_iff.1 (hentry _ hm)).2.2
  | .null, _, h | .bool _, _, h | .number _, _, h | .string _, _, h | .array _, _, h => by cases h
-- the objects under `and` are parts of the document
termination_by document => sizeOf document
decreasing_by
  have hitem := List.sizeOf_lt_of_mem hi
  have hitems := List.sizeOf_lt_of_mem hm
  simp at hitems ⊢
  omega

/-! ## Order -/

mutual

/-- What is read from an object are its conditions, in their order. -/
theorem fields_of_read : ∀ (document : Json) {filter : Filter}, read document = .ok filter →
    filter.fields = conditionsOf document
  | .object entries, filter, h => by
    rw [read] at h
    obtain ⟨children, hchildren, rfl⟩ := map_eq_ok_iff.1 h
    rw [fields, conditionsOf, fieldsOfAll_of_readFields entries hchildren]
  | .null, _, h | .bool _, _, h | .number _, _, h | .string _, _, h | .array _, _, h => by cases h

theorem fieldsOfAll_of_readFields : ∀ (entries : List (String × Json)) {children : List Filter},
    readFields entries = .ok children → fieldsOfAll children = conditionsOfEntries entries
  | [], _, h => by
    cases h
    rfl
  | (name, value) :: rest, children, h => by
    rw [readFields_eq_mapM] at h
    obtain ⟨child, more, hchild, hmore, rfl⟩ := mapM_cons_eq_ok_iff.1 h
    rw [← readFields_eq_mapM] at hmore
    rw [fieldsOfAll, fieldsOfAll_of_readFields rest hmore]
    obtain ⟨ho, hand, -⟩ := exists_readField_iff.1 ⟨child, hchild⟩
    by_cases ha : name = "and"
    · subst ha
      cases value with
      | array items =>
        rw [readField_and, ← readAll_eq_mapM] at hchild
        obtain ⟨filters, hfilters, rfl⟩ := map_eq_ok_iff.1 hchild
        rw [conditionsOfEntries_and_cons, fields, fieldsOfAll_of_readAll items hfilters]
      | null | bool | number | string | object =>
        obtain ⟨items, hitems, -⟩ := hand rfl
        cases hitems
    · rw [readField_of_ne ha ho] at hchild
      obtain ⟨condition, hcondition, rfl⟩ := map_eq_ok_iff.1 hchild
      rw [fields, (Condition.read_eq_ok_iff.1 hcondition).2, conditionsOfEntries_cons_of_ne ha, List.singleton_append]

theorem fieldsOfAll_of_readAll : ∀ (items : List Json) {filters : List Filter},
    readAll items = .ok filters → fieldsOfAll filters = conditionsOfAll items
  | [], _, h => by
    cases h
    rfl
  | item :: items, filters, h => by
    rw [readAll_eq_mapM] at h
    obtain ⟨first, rest, hfirst, hrest, rfl⟩ := mapM_cons_eq_ok_iff.1 h
    rw [← readAll_eq_mapM] at hrest
    rw [fieldsOfAll, conditionsOfAll, fields_of_read item hfirst, fieldsOfAll_of_readAll items hrest]

end

/-- Exactly the objects of conditions are read. What is read are their
conditions in the order of the document, and criteria with this filter are
unfiltered exactly if there are none. -/
theorem conditions_are_read (document : Json) :
    ((∃ filter, read document = .ok filter) ↔ IsConditions document) ∧
      ∀ filter, read document = .ok filter → filter.fields = conditionsOf document ∧
        ∀ criteria : Criteria, (criteria.withFilter filter).isUnfiltered = true ↔ conditionsOf document = [] := by
  refine ⟨⟨?_, exists_read_of_isConditions⟩, fun filter h => ?_⟩
  · rintro ⟨filter, h⟩
    exact isConditions_of_read document h
  · have hfields := fields_of_read document h
    refine ⟨hfields, fun criteria => ?_⟩
    rw [← hfields, ← isEmpty_eq_true_iff, Criteria.withFilter, Criteria.isUnfiltered]
    cases filter.isEmpty <;> simp

/-- The conditions of objects under `and` stand between those of the fields
before and behind it, and empty objects leave no trace. An `or` is refused
however deep it stands. -/
theorem conditions_are_read_sample :
    let document : Json := .object [("age", .object [(">", .ofInt64 1), ("<", .null)]),
      ("and", .array [.object [], .object [("and", .array [])],
        .object [("tags", .array [.string "x", .bool false]), ("and", .array [.object [("id", .string "u")]])]]),
      ("profile", .bool true)]
    (∃ filter, read document = .ok filter ∧
      filter.fields = [("age", .within [(">", .ofInt64 1), ("<", .null)]),
        ("tags", .among [.string "x", .bool false]), ("id", .equals (.string "u")), ("profile", .equals (.bool true))] ∧
      ¬(({} : Criteria).withFilter filter).isUnfiltered = true) ∧
    ¬∃ filter, read (.object [("and", .array [.object [("or", document)]])]) = .ok filter := by
  intro document
  constructor
  · obtain ⟨-, hread⟩ := conditions_are_read document
    obtain ⟨filter, hfilter⟩ : ∃ filter, read document = .ok filter := ⟨_, rfl⟩
    obtain ⟨hfields, hunfiltered⟩ := hread filter hfilter
    refine ⟨filter, hfilter, hfields, ?_⟩
    rw [hunfiltered]
    exact List.cons_ne_nil _ _
  · rw [(conditions_are_read _).1]
    rintro ⟨-, -, nested, -⟩
    obtain ⟨disjunction, -⟩ := nested _ List.mem_cons_self _ List.mem_cons_self
    exact disjunction document List.mem_cons_self

end Filter
end WideColumn
