import Mathlib.Data.List.Nodup
import Mathlib.Data.List.Perm.Subperm
import WideColumn.Proofs.Query.Plan
/-!
# Keys in key order

Criteria pin the key if they equate every key column with a value and ask for
nothing else. In which order they do so and how the equalities are nested
makes no difference: the key is put into key order, and the requests are the
statements about its row.
-/

namespace WideColumn

/-- Lists with the same items are equal if what tells the items apart is in
the same order. -/
theorem eq_of_perm_of_map_eq {α β : Type} {f : α → β} {left right : List α} (hp : left.Perm right)
    (hm : left.map f = right.map f) (hn : (left.map f).Nodup) : left = right := by
  refine List.ext_getElem hp.length_eq fun i hl hr => ?_
  have hsame : f left[i] = f right[i] := by
    rw [← List.getElem_map f (h := by simpa using hl), ← List.getElem_map f (h := by simpa using hr)]
    simp only [hm]
  exact List.inj_on_of_nodup_map hn (List.getElem_mem hl) (hp.mem_iff.2 (List.getElem_mem hr)) hsame

/-- What is left when the items of a list that all exist are put into another
order. -/
theorem exists_eq_map_some_of_perm {α : Type} {options : List (Option α)} {items : List α}
    (hp : options.Perm (items.map some)) : ∃ others : List α, options = others.map some ∧ others.Perm items := by
  refine ⟨options.filterMap id, ?_, ?_⟩
  · rw [List.map_filterMap]
    conv_lhs => rw [← List.filterMap_some (l := options)]
    refine List.filterMap_congr fun option hm => ?_
    obtain ⟨item, -, rfl⟩ := List.mem_map.1 (hp.subset hm)
    rfl
  · have hitems := hp.filterMap id
    rw [List.filterMap_map] at hitems
    simpa using hitems

namespace Schema

variable {schema : Schema} {criteria other : Criteria} {key found : PinnedKey}

/-! ## Equalities -/

/-- The column and the value that a condition equates. -/
def equality? (schema : Schema) (field : String × Condition) : Option (Column × Json) :=
  match schema.find? field.1, field.2 with
  | some column, .equals value => some (column, value)
  | _, _ => none

/-- Criteria that equate columns with values, in an order of their own, and
ask for nothing else. -/
def Equates (schema : Schema) (criteria : Criteria) (found : List (Column × Json)) : Prop :=
  criteria.fields.map schema.equality? = found.map some

/-- Criteria that pin the key: they equate the key columns, in some order, and
ask for nothing else. -/
def PinsKey (schema : Schema) (criteria : Criteria) : Prop :=
  ∃ found, schema.Equates criteria found ∧ (found.map (·.1)).Perm schema.keyColumns

theorem equality?_eq_some_iff {field : String × Condition} {entry : Column × Json} :
    schema.equality? field = some entry ↔
      schema.find? field.1 = some entry.1 ∧ field.2 = .equals entry.2 := by
  obtain ⟨name, condition⟩ := field
  obtain ⟨column, value⟩ := entry
  rw [equality?]
  cases schema.find? name with
  | none => simp
  | some other => cases condition <;> simp

theorem map_equality?_eq_iff {fields : List (String × Condition)} :
    fields.map schema.equality? = found.map some ↔
      fields.map (fun field => (schema.find? field.1, field.2)) =
        found.map fun entry => (some entry.1, .equals entry.2) := by
  induction fields generalizing found with
  | nil => cases found <;> simp
  | cons field fields ih =>
    cases found with
    | nil => simp
    | cons entry found =>
      simp only [List.map_cons, List.cons.injEq, ih, equality?_eq_some_iff, Prod.mk.injEq]

theorem mem_columns_of_equates (h : schema.Equates criteria found) : ∀ entry ∈ found, entry.1 ∈ schema.columns := by
  intro entry hm
  have hsome : some entry ∈ criteria.fields.map schema.equality? := h ▸ List.mem_map_of_mem hm
  obtain ⟨field, -, hfield⟩ := List.mem_map.1 hsome
  exact (Column.mem_of_find? (equality?_eq_some_iff.1 hfield).1).1

/-- Conditions in another order are the same equalities in another order. -/
theorem exists_equates_of_perm (hp : criteria.fields.Perm other.fields) (h : schema.Equates criteria found) :
    ∃ found', schema.Equates other found' ∧ found'.Perm found :=
  exists_eq_map_some_of_perm (h ▸ (hp.map schema.equality?).symm)

/-! ## Pinned keys -/

theorem map_name_eq (found : PinnedKey) : found.map (·.1.name) = (found.map (·.1)).map (·.name) := by
  rw [List.map_map]
  rfl

/-- Equalities pin the key if their columns are the key columns in some
order. -/
theorem pins_iff (hs : schema.Coherent) {filter : Filter} (hf : criteria.filter = some filter) :
    schema.Pins filter found ↔ schema.Equates criteria found ∧ (found.map (·.1)).Perm schema.keyColumns := by
  have hfields : criteria.fields = filter.fields := by rw [Criteria.fields, hf]; rfl
  have hlength (hmap : schema.Equates criteria found) : filter.fields.length = found.length := by
    simpa [hfields] using congrArg List.length hmap
  constructor
  · rintro ⟨hcount, hmap, hkey, hnodup⟩
    have hequates : schema.Equates criteria found := map_equality?_eq_iff.2 (hfields ▸ hmap)
    have hsub : found.map (·.1) ⊆ schema.keyColumns := by
      intro column hm
      obtain ⟨entry, hentry, rfl⟩ := List.mem_map.1 hm
      obtain ⟨known, hknown, hname⟩ := List.any_eq_true.1 (hkey entry hentry)
      have hmem := mem_columns_of_equates hequates entry hentry
      exact hs.eq_of_name (hs.key known hknown) hmem (by simpa using hname) ▸ hknown
    have hdistinct : (found.map (·.1)).Nodup := (map_name_eq found ▸ hnodup).of_map
    refine ⟨hequates, (List.subperm_of_subset hdistinct hsub).perm_of_length_le ?_⟩
    exact Nat.le_of_eq (by rw [List.length_map, ← hcount, hlength hequates])
  · rintro ⟨hequates, hperm⟩
    refine ⟨?_, hfields ▸ map_equality?_eq_iff.1 hequates, fun entry hm => ?_, ?_⟩
    · rw [hlength hequates, ← hperm.length_eq, List.length_map]
    · exact List.any_eq_true.2 ⟨entry.1, hperm.subset (List.mem_map_of_mem hm), by simp⟩
    · rw [map_name_eq]
      exact (hperm.map _).nodup_iff.2 hs.keyNames

/-- Values of the key columns, taken in key order, are the same values in
another order. -/
theorem keyOrder_of_perm (hs : schema.Coherent) (hp : (found.map (·.1)).Perm schema.keyColumns)
    (hk : key = schema.keyColumns.filterMap fun column => found.find? (·.1.name = column.name)) :
    key.map (·.1) = schema.keyColumns ∧ key.Perm found := by
  have hnodup : (found.map (·.1.name)).Nodup := by
    rw [map_name_eq]
    exact (hp.map _).nodup_iff.2 hs.keyNames
  have hfind (column : Column) (hm : column ∈ schema.keyColumns) :
      (found.find? (·.1.name = column.name)).map (·.1) = some column := by
    obtain ⟨entry, hentry, rfl⟩ := List.mem_map.1 (hp.symm.subset hm)
    rw [(find?_eq_some_iff_of_nodup (fun entry : Column × Json => entry.1.name) hnodup).2 ⟨hentry, rfl⟩]
    rfl
  have hcolumns : key.map (·.1) = schema.keyColumns := by
    rw [hk, List.map_filterMap]
    conv_rhs => rw [← List.filterMap_some (l := schema.keyColumns)]
    exact List.filterMap_congr hfind
  have hsub : key ⊆ found := by
    intro entry hm
    obtain ⟨column, -, hentry⟩ := List.mem_filterMap.1 (hk ▸ hm)
    exact List.mem_of_find?_eq_some hentry
  -- there are as many values as key columns, and none of them is taken twice
  have hdistinct : key.Nodup := (hcolumns ▸ hs.keyNames.of_map).of_map
  have hlength : found.length ≤ key.length := by
    rw [← hcolumns] at hp
    exact Nat.le_of_eq (by simpa using hp.length_eq)
  exact ⟨hcolumns, (List.subperm_of_subset hdistinct hsub).perm_of_length_le hlength⟩

/-- The key that criteria pin is what they equate the key columns with, in key
order. -/
theorem pinnedKey_iff_equates (hs : schema.Coherent) :
    schema.pinnedKey criteria = .ok (some key) ↔
      key.map (·.1) = schema.keyColumns ∧ ∃ found, schema.Equates criteria found ∧ key.Perm found := by
  rw [pinnedKey_eq_ok_some_iff]
  constructor
  · rintro ⟨filter, found, hf, hpins, hk⟩
    obtain ⟨hequates, hperm⟩ := (pins_iff hs hf).1 hpins
    obtain ⟨hcolumns, hkey⟩ := keyOrder_of_perm hs hperm hk
    exact ⟨hcolumns, found, hequates, hkey⟩
  · rintro ⟨hcolumns, found, hequates, hkey⟩
    have hperm : (found.map (·.1)).Perm schema.keyColumns := hcolumns ▸ (hkey.map _).symm
    cases hf : criteria.filter with
    | none =>
      -- without a filter nothing is equated, and every table has a key column
      have hnil : found = [] := by
        rw [Equates, Criteria.fields, hf] at hequates
        exact List.map_eq_nil_iff.1 hequates.symm
      subst hnil
      cases hperm.nil_eq
    | some filter =>
      refine ⟨filter, found, rfl, (pins_iff hs hf).2 ⟨hequates, hperm⟩, ?_⟩
      -- there is one way to put the values into key order
      obtain ⟨hcolumns', hkey'⟩ := keyOrder_of_perm hs hperm rfl
      exact eq_of_perm_of_map_eq (hkey.trans hkey'.symm) (hcolumns.trans hcolumns'.symm)
        (hcolumns ▸ hs.keyNames.of_map)

theorem pinsKey_iff (hs : schema.Coherent) :
    schema.PinsKey criteria ↔ ∃ key, schema.pinnedKey criteria = .ok (some key) := by
  constructor
  · rintro ⟨found, hequates, hperm⟩
    obtain ⟨hcolumns, hkey⟩ := keyOrder_of_perm hs hperm rfl
    exact ⟨_, (pinnedKey_iff_equates hs).2 ⟨hcolumns, found, hequates, hkey⟩⟩
  · rintro ⟨key, h⟩
    obtain ⟨hcolumns, found, hequates, hkey⟩ := (pinnedKey_iff_equates hs).1 h
    exact ⟨found, hequates, hcolumns ▸ (hkey.map _).symm⟩

theorem pinnedKey_of_perm (hs : schema.Coherent) (hp : criteria.fields.Perm other.fields)
    (h : schema.pinnedKey criteria = .ok (some key)) : schema.pinnedKey other = .ok (some key) := by
  obtain ⟨hcolumns, found, hequates, hkey⟩ := (pinnedKey_iff_equates hs).1 h
  obtain ⟨found', hequates', hfound⟩ := exists_equates_of_perm hp hequates
  exact (pinnedKey_iff_equates hs).2 ⟨hcolumns, found', hequates', hkey.trans hfound.symm⟩

/-! ## Requests about a pinned key -/

theorem query_of_pinnedKey (h : schema.pinnedKey criteria = .ok (some key)) (head : String) (sort : List Ordering)
    (limit : Option Nat) : schema.query head criteria sort limit = .ok (keyedStatement .select head key []) :=
  query_eq_ok_iff.2 (.inl ⟨key, h, rfl⟩)

theorem mutation_of_pinnedKey (h : schema.pinnedKey criteria = .ok (some key)) (kind : StatementKind)
    (head : String) (params : List Json) :
    schema.mutation kind head params criteria = .ok (.direct (keyedStatement kind head key params) key.record) :=
  mutation_eq_ok_iff.2 (.inl ⟨key, h, rfl⟩)

/-- A key is pinned exactly by equalities on a permutation of the key columns,
and comes out in key order. Criteria with the same conditions in another order
pin the same key and make the same requests. -/
theorem pinned_in_any_order {model : Model} (hc : compile model = .ok schema) :
    (∀ criteria : Criteria, (∃ key, schema.pinnedKey criteria = .ok (some key)) ↔
      ∃ found, schema.Equates criteria found ∧ (found.map (·.1)).Perm schema.keyColumns) ∧
    (∀ (criteria : Criteria) (key : PinnedKey), schema.pinnedKey criteria = .ok (some key) →
      key.map (·.1) = schema.partition :: schema.clustering ∧
      ∃ found, schema.Equates criteria found ∧ key.Perm found) ∧
    ∀ (criteria other : Criteria) (key : PinnedKey), criteria.fields.Perm other.fields →
      schema.pinnedKey criteria = .ok (some key) →
        schema.pinnedKey other = .ok (some key) ∧
        (∃ statement, schema.select criteria = .ok statement ∧ schema.select other = .ok statement) ∧
        (∃ statement, schema.count criteria = .ok statement ∧ schema.count other = .ok statement) ∧
        (∃ statement, schema.delete criteria = .ok (.direct statement key.record) ∧
          schema.delete other = .ok (.direct statement key.record)) ∧
        ∀ values, schema.update criteria values = schema.update other values ∧
          ∀ plan, schema.update criteria values = .ok plan →
            ∃ statement, plan.plan = .direct statement key.record := by
  have hs := coherent_of_compile hc
  refine ⟨fun criteria => (pinsKey_iff hs).symm, fun criteria key h => (pinnedKey_iff_equates hs).1 h,
    fun criteria other key hp h => ?_⟩
  · have h' := pinnedKey_of_perm hs hp h
    refine ⟨h', ⟨_, query_of_pinnedKey h _ _ _, query_of_pinnedKey h' _ _ _⟩,
      ⟨_, query_of_pinnedKey h _ _ _, query_of_pinnedKey h' _ _ _⟩,
      ⟨_, mutation_of_pinnedKey h _ _ _, mutation_of_pinnedKey h' _ _ _⟩, fun values => ⟨?_, fun plan hplan => ?_⟩⟩
    -- an update meets its criteria in the change that it makes only
    · simp only [update, mutation_of_pinnedKey h, mutation_of_pinnedKey h']
    · obtain ⟨-, assigned, mutation, -, hmutation, rfl⟩ := update_eq_ok_iff.1 hplan
      exact ⟨_, (Except.ok.inj ((mutation_of_pinnedKey h _ _ _).symm.trans hmutation)).symm⟩

/-- The key of a reading is also pinned from its end, with the day under `and`
and a limit. -/
theorem pinned_in_any_order_sample :
    let device : Filter := .field "deviceId" (.equals (.string "d"))
    let day : Filter := .field "date" (.equals (.ofInt64 3))
    let slot : Filter := .field "slot" (.equals (.ofInt64 7))
    let turned : Criteria := { filter := some (.all [slot, .all [day, .all []], device]), limit := some 3 }
    ∃ key statement, sampleReadings.pinnedKey turned = .ok (some key) ∧
      key.record = [("deviceId", .string "d"), ("date", .ofInt64 3), ("Slot", .ofInt64 7)] ∧
      sampleReadings.select { filter := some (.all [device, day, slot]) } = .ok statement ∧
      sampleReadings.select turned = .ok statement := by
  intro device day slot turned
  obtain ⟨-, -, hrequests⟩ := pinned_in_any_order compile_sampleReadings
  obtain ⟨key, hkey, hrecord⟩ : ∃ key,
      sampleReadings.pinnedKey { filter := some (.all [device, day, slot]) } = .ok (some key) ∧
        key.record = [("deviceId", .string "d"), ("date", .ofInt64 3), ("Slot", .ofInt64 7)] := ⟨_, rfl, rfl⟩
  have hfields : ({ filter := some (.all [device, day, slot]) } : Criteria).fields.Perm turned.fields :=
    (List.reverse_perm turned.fields :)
  obtain ⟨hpinned, ⟨statement, hselect, hselect'⟩, -⟩ := hrequests _ turned key hfields hkey
  exact ⟨key, statement, hpinned, hrecord, hselect, hselect'⟩

end Schema
end WideColumn
