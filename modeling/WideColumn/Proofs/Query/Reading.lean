import Mathlib.Data.List.Forall2
import WideColumn.Proofs.Query.KeyOrder
import WideColumn.Proofs.Query.Outcome
/-!
# Statements that read

Rows are read by a select, counted by a count, and their keys are read before
they are changed. All of these have the same condition with the same values.
They differ in what they project, and in how they order and limit. The store is
allowed to filter where something is asked for that is not one key.
-/

namespace WideColumn

/-- Criteria that ask for something. Bounds that are an empty list ask for
nothing. -/
def Criteria.Asks (criteria : Criteria) : Prop := ∃ field ∈ criteria.fields, field.2 ≠ .within []

/-- The number of rows to ask for with those to skip, up to the largest count. -/
def Criteria.limitWithSkip (criteria : Criteria) : Option Nat :=
  criteria.limit.map fun limit =>
    let skip := (criteria.skip.map UInt64.toNat).getD 0
    min (limit.toNat + skip) (UInt64.size - 1)

/-- The text that puts a column into an ordering. -/
def Ordering.Writes (schema : Schema) (ordering : Ordering) (text : String) : Prop :=
  ∃ column, schema.find? ordering.field = some column ∧
    text = quoteName column.name ++ " " ++ ordering.direction.keyword

namespace Schema

variable {schema : Schema} {criteria : Criteria}

/-- A statement that reads, put together from its parts. -/
def readStatement (head : String) (predicates : List (String × Json)) (order : List String) (limit : Option Nat)
    (filtering : Bool) : Statement :=
  { kind := .select
    text := head ++ (if predicates.isEmpty then "" else " WHERE " ++ " AND ".intercalate (predicates.map (·.1))) ++
      (if order.isEmpty then "" else " ORDER BY " ++ ", ".intercalate order) ++ limitText limit ++
      (if filtering then " ALLOW FILTERING" else "") ++ ";"
    params := predicates.map (·.2)
    allowFiltering := filtering }

/-- The predicates of criteria: equalities with the key that they pin, in key
order, or what their conditions write from left to right. -/
inductive Body (schema : Schema) (criteria : Criteria) : List (String × Json) → Prop
  | pinned {key found : PinnedKey} (hcolumns : key.map (·.1) = schema.keyColumns)
      (hequates : schema.Equates criteria found) (hperm : key.Perm found) :
      Body schema criteria (key.map fun (column, value) => (quoteName column.name ++ " = ?", value))
  | conditions (hnot : ¬schema.PinsKey criteria) (hcompares : ∀ field ∈ criteria.fields, schema.Compares field) :
      Body schema criteria (criteria.fields.flatMap schema.predicates)

/-- The parts, besides what they project, of the statements that read for
criteria. -/
structure ReadParts where
  body : List (String × Json)
  /-- The ordering of a select. -/
  order : List String
  /-- The limit of a select. -/
  window : Option Nat
  /-- The limit of a count. -/
  limit : Option Nat
  filtering : Bool

/-- What the parts are for given criteria. The store filters exactly if
something is asked for that is not one key. Skipped rows count in the limit of a
select, and a key has no ordering and no limit. -/
structure ReadParts.For (schema : Schema) (criteria : Criteria) (parts : ReadParts) : Prop where
  body : schema.Body criteria parts.body
  body_eq_nil_iff : parts.body = [] ↔ ¬criteria.Asks
  filtering_iff : parts.filtering = true ↔ criteria.Asks ∧ ¬schema.PinsKey criteria
  pinned : schema.PinsKey criteria → parts.order = [] ∧ parts.window = none ∧ parts.limit = none
  unpinned : ¬schema.PinsKey criteria → List.Forall₂ (Ordering.Writes schema) criteria.sort parts.order ∧
    parts.window = criteria.limitWithSkip ∧ parts.limit = criteria.limit.map UInt64.toNat

/-! ## Parts -/

theorem orderText_eq_ok_iff {ordering : Ordering} {text : String} :
    schema.orderText ordering = .ok text ↔ ordering.Writes schema text := by
  rw [orderText, map_eq_ok_iff]
  constructor
  · rintro ⟨column, hcolumn, rfl⟩
    exact ⟨column, resolve_eq_ok_iff.1 hcolumn, rfl⟩
  · rintro ⟨column, hcolumn, rfl⟩
    exact ⟨column, resolve_eq_ok_iff.2 hcolumn, rfl⟩

theorem mapM_orderText_eq_ok_iff {sort : List Ordering} {order : List String} :
    sort.mapM schema.orderText = .ok order ↔ List.Forall₂ (Ordering.Writes schema) sort order := by
  rw [mapM_eq_ok_iff_map, ← List.forall₂_eq_eq_eq, List.forall₂_map_left_iff, List.forall₂_map_right_iff]
  simp only [orderText_eq_ok_iff]

theorem window_eq_limitWithSkip (criteria : Criteria) : criteria.window = criteria.limitWithSkip := by
  unfold Criteria.window Criteria.limitWithSkip
  cases hl : criteria.limit with
  | none => cases criteria.skip <;> rfl
  | some limit =>
    cases hs : criteria.skip with
    | some skip => rfl
    | none =>
      have hlt := limit.toNat_lt
      simp
      omega

theorem exists_whereClause_iff :
    (∃ clause, schema.whereClause criteria = .ok clause) ↔ ∀ field ∈ criteria.fields, schema.Compares field := by
  unfold whereClause Criteria.fields
  cases criteria.filter with
  | none => simp
  | some filter => exact exists_clause_iff

theorem map_text_of_whereClause {clause : Clause} (h : schema.whereClause criteria = .ok clause) :
    clause.map (fun comparison => (comparison.text, comparison.operand)) =
      criteria.fields.flatMap schema.predicates := by
  unfold whereClause at h
  unfold Criteria.fields
  cases hfilter : criteria.filter with
  | none =>
    rw [hfilter] at h
    cases h
    rfl
  | some filter =>
    rw [hfilter] at h
    exact map_text_of_clause h

theorem scanStatement_eq_readStatement (head : String) (clause : Clause) (order : List String) (limit : Option Nat) :
    let predicates := clause.map fun comparison => (comparison.text, comparison.operand)
    scanStatement head clause order limit = readStatement head predicates order limit (!predicates.isEmpty) := by
  cases clause <;> simp [scanStatement, readStatement, Clause.text, Clause.params, Function.comp_def]

theorem keyedStatement_eq_readStatement {key : PinnedKey} (h : key ≠ []) (head : String) :
    keyedStatement .select head key [] =
      readStatement head (key.map fun (column, value) => (quoteName column.name ++ " = ?", value)) [] none false := by
  have hsome : key.isEmpty = false := by simpa using h
  simp [keyedStatement, readStatement, limitText, hsome, PinnedKey.clause, Clause.text, Clause.params,
    Comparison.text_equal, Function.comp_def, String.append_assoc]

/-! ## Predicates -/

/-- Criteria that pin a key ask for something, since every table has a key. -/
theorem asks_of_pinsKey (h : schema.PinsKey criteria) : criteria.Asks := by
  obtain ⟨found, hequates, hperm⟩ := h
  obtain ⟨entry, hentry, -⟩ := List.mem_map.1 (hperm.symm.subset List.mem_cons_self)
  have hsome : some entry ∈ criteria.fields.map schema.equality? := hequates ▸ List.mem_map_of_mem hentry
  obtain ⟨field, hm, hfield⟩ := List.mem_map.1 hsome
  refine ⟨field, hm, ?_⟩
  rw [(equality?_eq_some_iff.1 hfield).2]
  rintro ⟨⟩

/-- There is a predicate exactly where something is asked for. -/
theorem Body.eq_nil_iff {body : List (String × Json)} (h : schema.Body criteria body) :
    body = [] ↔ ¬criteria.Asks := by
  cases h with
  | pinned hcolumns hequates hperm =>
    have hasks := asks_of_pinsKey ⟨_, hequates, hcolumns ▸ (hperm.map _).symm⟩
    simp only [List.map_eq_nil_iff, hasks, not_true, iff_false]
    rintro rfl
    cases hcolumns
  | conditions hnot hcompares =>
    rw [List.flatMap_eq_nil_iff]
    simp only [Criteria.Asks, not_exists, not_and, ne_eq, Classical.not_not]
    exact forall₂_congr fun field hm => predicates_eq_nil_iff (hcompares field hm)

/-! ## Queries -/

theorem exists_collectKey (found : PinnedKey) {fields : List (String × Condition)}
    (h : ∀ field ∈ fields, ∃ column, schema.find? field.1 = some column) :
    ∃ result, schema.collectKey found fields = .ok result := by
  induction fields generalizing found with
  | nil => exact ⟨_, rfl⟩
  | cons field rest ih =>
    obtain ⟨name, condition⟩ := field
    obtain ⟨column, hcolumn⟩ := h _ List.mem_cons_self
    rw [collectKey, resolve_eq_ok_iff.2 hcolumn]
    cases condition with
    | among values | within bounds => exact ⟨_, rfl⟩
    | equals value =>
      dsimp only [bind, Except.bind]
      split
      · exact ⟨_, rfl⟩
      · exact ih _ fun field hm => h field (List.mem_cons_of_mem _ hm)

/-- Conditions that can be compared pin a key or do not. -/
theorem exists_pinnedKey (h : ∀ field ∈ criteria.fields, schema.Compares field) :
    ∃ pinned, schema.pinnedKey criteria = .ok pinned := by
  unfold pinnedKey
  unfold Criteria.fields at h
  cases hfilter : criteria.filter with
  | none => exact ⟨_, rfl⟩
  | some filter =>
    rw [hfilter] at h
    dsimp only
    split
    · exact ⟨_, rfl⟩
    · obtain ⟨result, hresult⟩ : ∃ result, schema.collectKey [] filter.fields = .ok result :=
        exists_collectKey [] fun field hm => (h field hm).named
      exact ⟨_, map_eq_ok_iff.2 ⟨result, hresult, rfl⟩⟩

section Coherent

variable (hs : schema.Coherent)
include hs

theorem Body.pinnedKey_eq_ok_none {body : List (String × Json)} (h : schema.Body criteria body)
    (hnot : ¬schema.PinsKey criteria) : schema.pinnedKey criteria = .ok none := by
  cases h with
  | pinned hcolumns hequates hperm => exact absurd ⟨_, hequates, hcolumns ▸ (hperm.map _).symm⟩ hnot
  | conditions _ hcompares =>
    obtain ⟨pinned, hpinned⟩ := exists_pinnedKey hcompares
    cases pinned with
    | none => exact hpinned
    | some key => exact absurd ((pinsKey_iff hs).2 ⟨key, hpinned⟩) hnot

/-- A query is its parts around the predicates of the criteria. Those that pin a
key have no ordering and no limit, and the store need not filter for them. -/
theorem query_eq_ok_iff_read {head : String} {sort : List Ordering} {limit : Option Nat} {statement : Statement} :
    schema.query head criteria sort limit = .ok statement ↔
      ∃ body, schema.Body criteria body ∧
        (schema.PinsKey criteria ∧ statement = readStatement head body [] none false ∨
          ¬schema.PinsKey criteria ∧ ∃ order, List.Forall₂ (Ordering.Writes schema) sort order ∧
            statement = readStatement head body order limit (!body.isEmpty)) := by
  rw [query_eq_ok_iff]
  simp only [mapM_orderText_eq_ok_iff, scanStatement_eq_readStatement]
  constructor
  · rintro (⟨key, hkey, rfl⟩ | ⟨hnone, clause, order, hclause, horder, rfl⟩)
    · have hpins : schema.PinsKey criteria := (pinsKey_iff hs).2 ⟨key, hkey⟩
      obtain ⟨hcolumns, found, hequates, hperm⟩ := (pinnedKey_iff_equates hs).1 hkey
      refine ⟨_, .pinned hcolumns hequates hperm, .inl ⟨hpins, keyedStatement_eq_readStatement ?_ head⟩⟩
      rintro rfl
      cases hcolumns
    · have hnot : ¬schema.PinsKey criteria := by
        intro hpins
        obtain ⟨key, hkey⟩ := (pinsKey_iff hs).1 hpins
        cases hnone.symm.trans hkey
      rw [map_text_of_whereClause hclause]
      have hcompares := exists_whereClause_iff.1 ⟨clause, hclause⟩
      exact ⟨_, .conditions hnot hcompares, .inr ⟨hnot, order, horder, rfl⟩⟩
  · rintro ⟨body, hbody, h⟩
    cases hbody with
    | @pinned key found hcolumns hequates hperm =>
      have hkey := (pinnedKey_iff_equates hs).2 ⟨hcolumns, found, hequates, hperm⟩
      rcases h with ⟨-, rfl⟩ | ⟨hnot, -⟩
      · refine .inl ⟨key, hkey, (keyedStatement_eq_readStatement ?_ head).symm⟩
        rintro rfl
        cases hcolumns
      · exact absurd ((pinsKey_iff hs).2 ⟨key, hkey⟩) hnot
    | conditions hnot hcompares =>
      rcases h with ⟨hpins, -⟩ | ⟨-, order, horder, rfl⟩
      · exact absurd hpins hnot
      · obtain ⟨clause, hclause⟩ := exists_whereClause_iff.2 hcompares
        have hnone := (Body.conditions hnot hcompares).pinnedKey_eq_ok_none hs hnot
        refine .inr ⟨hnone, clause, order, hclause, horder, ?_⟩
        rw [map_text_of_whereClause hclause]

/-- The parts of a select that is accepted. -/
theorem exists_readParts_of_select {statement : Statement} (h : schema.select criteria = .ok statement) :
    ∃ parts : ReadParts, parts.For schema criteria ∧
      statement = readStatement ("SELECT " ++ schema.projection ++ " FROM " ++ schema.table)
        parts.body parts.order parts.window parts.filtering := by
  obtain ⟨body, hbody, ⟨hpins, rfl⟩ | ⟨hnot, order, horder, rfl⟩⟩ := (query_eq_ok_iff_read hs).1 h
  · refine ⟨⟨body, [], none, none, false⟩, ?_, rfl⟩
    exact ⟨hbody, hbody.eq_nil_iff, by simp [hpins], fun _ => ⟨rfl, rfl, rfl⟩, fun hnot => absurd hpins hnot⟩
  · refine ⟨⟨body, order, criteria.window, criteria.limit.map UInt64.toNat, !body.isEmpty⟩, ?_, rfl⟩
    have hasks : body ≠ [] ↔ criteria.Asks := (not_congr hbody.eq_nil_iff).trans Classical.not_not
    exact ⟨hbody, hbody.eq_nil_iff, by simp [hnot, hasks], fun hpins => absurd hpins hnot,
      fun _ => ⟨horder, window_eq_limitWithSkip criteria, rfl⟩⟩

namespace ReadParts.For

variable {parts : ReadParts}

/-- Criteria that pin a key make the same query with every ordering and limit. -/
theorem query_of_pinsKey (h : parts.For schema criteria) (hpins : schema.PinsKey criteria) (head : String)
    (sort : List Ordering) (limit : Option Nat) :
    schema.query head criteria sort limit = .ok (readStatement head parts.body [] none parts.filtering) := by
  have hfiltering : parts.filtering = false := by
    rw [Bool.eq_false_iff, ne_eq, h.filtering_iff]
    exact fun hf => hf.2 hpins
  rw [hfiltering]
  exact (query_eq_ok_iff_read hs).2 ⟨parts.body, h.body, .inl ⟨hpins, rfl⟩⟩

theorem query_of_not_pinsKey (h : parts.For schema criteria) (hnot : ¬schema.PinsKey criteria) (head : String)
    (limit : Option Nat) :
    schema.query head criteria [] limit = .ok (readStatement head parts.body [] limit parts.filtering) := by
  have hfiltering : parts.filtering = !parts.body.isEmpty := by
    rw [Bool.eq_iff_iff, h.filtering_iff]
    simp [hnot, h.body_eq_nil_iff]
  rw [hfiltering]
  exact (query_eq_ok_iff_read hs).2 ⟨parts.body, h.body, .inr ⟨hnot, [], .nil, rfl⟩⟩

theorem count (h : parts.For schema criteria) :
    schema.count criteria =
      .ok (readStatement ("SELECT COUNT(*) FROM " ++ schema.table) parts.body [] parts.limit parts.filtering) := by
  unfold Schema.count
  by_cases hpins : schema.PinsKey criteria
  · rw [h.query_of_pinsKey hs hpins, (h.pinned hpins).2.2]
  · rw [h.query_of_not_pinsKey hs hpins, (h.unpinned hpins).2.2]

theorem selectKeys (h : parts.For schema criteria) :
    schema.selectKeys criteria =
      .ok (readStatement ("SELECT " ++ quoteNames (schema.keyColumns.map (·.name)) ++ " FROM " ++ schema.table)
        parts.body [] none parts.filtering) := by
  rw [selectKeys_eq_query]
  by_cases hpins : schema.PinsKey criteria
  · rw [h.query_of_pinsKey hs hpins]
  · rw [h.query_of_not_pinsKey hs hpins]

/-- A delete is direct where a key is pinned, and otherwise first selects the
keys of the same rows. -/
theorem exists_delete (h : parts.For schema criteria) :
    ∃ plan, schema.delete criteria = .ok plan ∧
      ((∃ keys template, plan = .twoPhase keys template) ↔ ¬schema.PinsKey criteria) ∧
      ∀ keys template, plan = .twoPhase keys template → schema.selectKeys criteria = .ok keys := by
  by_cases hpins : schema.PinsKey criteria
  · obtain ⟨key, hkey⟩ := (pinsKey_iff hs).1 hpins
    refine ⟨_, mutation_eq_ok_iff.2 (.inl ⟨key, hkey, rfl⟩), ?_, ?_⟩
    · simp [hpins]
    · intro keys template hplan
      cases hplan
  · have hkeys := h.selectKeys hs
    refine ⟨_, mutation_eq_ok_iff.2 (.inr ⟨h.body.pinnedKey_eq_ok_none hs hpins, _, hkeys, rfl⟩), ?_, ?_⟩
    · simp [hpins]
    · intro keys template hplan
      rw [hkeys, (MutationPlan.twoPhase.inj hplan).1]

end ReadParts.For

end Coherent

/-- A select, a count and the select of keys have one condition with one list of
values, and each of them is its parts around it in order. The select alone is
ordered and counts skipped rows, and keys are selected without a limit. The
store is told to filter exactly where its text says so. -/
theorem reads_share_condition {model : Model} (hc : compile model = .ok schema) {statement : Statement}
    (hs : schema.select criteria = .ok statement) :
    ∃ (parts : ReadParts) (plan : MutationPlan), parts.For schema criteria ∧
      statement = readStatement ("SELECT " ++ schema.projection ++ " FROM " ++ schema.table)
        parts.body parts.order parts.window parts.filtering ∧
      schema.count criteria = .ok (readStatement ("SELECT COUNT(*) FROM " ++ schema.table)
        parts.body [] parts.limit parts.filtering) ∧
      schema.delete criteria = .ok plan ∧
      ((∃ keys template, plan = .twoPhase keys template) ↔ ¬schema.PinsKey criteria) ∧
      ∀ keys template, plan = .twoPhase keys template →
        keys = readStatement ("SELECT " ++ quoteNames (schema.keyColumns.map (·.name)) ++ " FROM " ++ schema.table)
          parts.body [] none parts.filtering := by
  have hcoherent := coherent_of_compile hc
  obtain ⟨parts, hparts, hstatement⟩ := exists_readParts_of_select hcoherent hs
  obtain ⟨plan, hdelete, hphases, hkeys⟩ := hparts.exists_delete hcoherent
  refine ⟨parts, plan, hparts, hstatement, hparts.count hcoherent, hdelete, hphases, ?_⟩
  intro keys template hplan
  exact Except.ok.inj ((hkeys keys template hplan).symm.trans (hparts.selectKeys hcoherent))

/-- Of high readings without a note the third to twelfth are selected, by day.
Up to ten are counted, and the keys of all are selected before they are deleted. -/
theorem reads_share_condition_sample :
    let criteria : Criteria :=
      { filter := some (.all [.field "level" (.within [(">", .ofInt64 5)]), .all [.field "Slot" (.within [])],
          .field "note" (.equals .null)])
        sort := [{ field := "date", direction := .descending }]
        limit := some 10
        skip := some 2 }
    let condition := " WHERE \"level\" > ? AND \"note\" = ?"
    ∃ statement counted keys template, sampleReadings.select criteria = .ok statement ∧
      sampleReadings.count criteria = .ok counted ∧
      sampleReadings.delete criteria = .ok (.twoPhase keys template) ∧
      statement.text = "SELECT \"day\", \"deviceid\", \"slot\", \"level\", \"note\" FROM reading" ++ condition ++
        " ORDER BY \"day\" DESC LIMIT 12 ALLOW FILTERING;" ∧
      counted.text = "SELECT COUNT(*) FROM reading" ++ condition ++ " LIMIT 10 ALLOW FILTERING;" ∧
      keys.text = "SELECT \"deviceid\", \"day\", \"slot\" FROM reading" ++ condition ++ " ALLOW FILTERING;" ∧
      counted.params = statement.params ∧ keys.params = statement.params := by
  intro criteria condition
  obtain ⟨statement, hs, htext⟩ : ∃ statement, sampleReadings.select criteria = .ok statement ∧
      statement.text = "SELECT \"day\", \"deviceid\", \"slot\", \"level\", \"note\" FROM reading" ++ condition ++
        " ORDER BY \"day\" DESC LIMIT 12 ALLOW FILTERING;" := ⟨_, rfl, by decide +kernel⟩
  obtain ⟨counted, hcount, hcounted⟩ : ∃ counted, sampleReadings.count criteria = .ok counted ∧
      counted.text = "SELECT COUNT(*) FROM reading" ++ condition ++ " LIMIT 10 ALLOW FILTERING;" :=
    ⟨_, rfl, by decide +kernel⟩
  obtain ⟨keys, template, hdelete, hkeys⟩ : ∃ keys template,
      sampleReadings.delete criteria = .ok (.twoPhase keys template) ∧
      keys.text = "SELECT \"deviceid\", \"day\", \"slot\" FROM reading" ++ condition ++ " ALLOW FILTERING;" :=
    ⟨_, _, rfl, by decide +kernel⟩
  obtain ⟨parts, plan, -, hread, hcount', hdelete', -, hphases⟩ := reads_share_condition compile_sampleReadings hs
  cases hcount.symm.trans hcount'
  cases hdelete.symm.trans hdelete'
  refine ⟨statement, _, keys, template, hs, hcount, hdelete, htext, hcounted, hkeys, ?_, ?_⟩
  · rw [hread]
    rfl
  · rw [hread, hphases keys template rfl]
    rfl

end Schema
end WideColumn
