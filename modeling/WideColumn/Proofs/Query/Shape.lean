import WideColumn.Proofs.Query.Insertion
import WideColumn.Proofs.Query.Plan
/-!
# Text without values

The shape of a request is what is left of it when its values are taken out:
names, operators, nesting, ordering and counts. Shapes are kept on the way to
a statement, so requests of one shape make statements of one text.
-/

namespace WideColumn

/-! ## Shapes of requests -/

/-- A condition with nothing in the place of its values. A list of values
leaves no trace of its length. -/
def Condition.shape : Condition → Condition
  | .equals _ => .equals .null
  | .among _ => .among []
  | .within bounds => .within (bounds.map fun (token, _) => (token, .null))

namespace Filter

mutual

def shape : Filter → Filter
  | .field name condition => .field name condition.shape
  | .all children => .all (shapeOfAll children)

def shapeOfAll : List Filter → List Filter
  | [] => []
  | child :: children => shape child :: shapeOfAll children

end

mutual

theorem fields_shape : ∀ filter : Filter,
    filter.shape.fields = filter.fields.map fun (name, condition) => (name, condition.shape)
  | .field _ _ => rfl
  | .all children => fieldsOfAll_shape children

theorem fieldsOfAll_shape : ∀ filters : List Filter,
    fieldsOfAll (shapeOfAll filters) = (fieldsOfAll filters).map fun (name, condition) => (name, condition.shape)
  | [] => rfl
  | child :: children => by
    rw [shapeOfAll, fieldsOfAll, fieldsOfAll, List.map_append, fields_shape child, fieldsOfAll_shape children]

end

end Filter

/-- The operators of a condition. -/
def Condition.operators : Condition → List Operator
  | .equals _ => [.equal]
  | .among _ => [.among]
  | .within bounds => bounds.filterMap fun bound => Operator.ofToken? bound.1

theorem Condition.operators_shape (condition : Condition) : condition.shape.operators = condition.operators := by
  cases condition with
  | equals _ | among _ => rfl
  | within bounds => exact List.filterMap_map

def Criteria.shape (criteria : Criteria) : Criteria := { criteria with filter := criteria.filter.map Filter.shape }

namespace Record

/-- A record with nothing in the place of its values. -/
def shape (record : Record) : Record := record.map fun (name, _) => (name, .null)

theorem shape_cons (name : String) (value : Json) (rest : Record) :
    Record.shape ((name, value) :: rest) = (name, .null) :: rest.shape := rfl

theorem shape_eq_of_names_eq {record other : Record} (h : record.names = other.names) :
    record.shape = other.shape := by
  have hshape (record : Record) : record.shape = record.names.map fun name => (name, .null) := by
    rw [shape, Fields.names, List.map_map]
    rfl
  rw [hshape, hshape, h]

theorem names_shape (record : Record) : record.shape.names = record.names := by
  rw [shape, Fields.names, Fields.names, List.map_map]
  rfl

theorem has_shape (record : Record) (name : String) : record.shape.has name = record.has name := by
  rw [Bool.eq_iff_iff, Fields.has_iff, Fields.has_iff, names_shape]

theorem shape_insert (record : Record) (name : String) (value : Json) :
    Record.shape (record.insert name value) = record.shape.insert name .null := by
  induction record with
  | nil => rfl
  | cons entry rest ih =>
    obtain ⟨first, old⟩ := entry
    rw [shape_cons, Fields.insert, Fields.insert]
    split
    · rfl
    · exact congrArg ((first, Json.null) :: ·) ih

theorem shape_ofEntries (entries : List (String × Json)) :
    Record.shape (Fields.ofEntries entries) = Fields.ofEntries (Record.shape entries) := by
  suffices h : ∀ record : Record,
      Record.shape (record.insertAll entries) = record.shape.insertAll (shape entries) from h []
  induction entries with
  | nil => exact fun _ => rfl
  | cons entry entries ih =>
    intro record
    exact (ih _).trans (congrArg (Fields.insertAll · (shape entries)) (record.shape_insert entry.1 entry.2))

end Record

/-! ## Shapes of statements -/

/-- A statement without the values bound to it. -/
def Statement.shape (statement : Statement) : Statement := { statement with params := [] }

namespace Clause

def shape (clause : Clause) : Clause := clause.map fun comparison => { comparison with operand := .null }

theorem text_shape (clause : Clause) : clause.shape.text = clause.text := by
  rw [text, text, shape, List.map_map]
  rfl

theorem isEmpty_shape (clause : Clause) : clause.shape.isEmpty = clause.isEmpty := List.isEmpty_map

end Clause

def PinnedKey.shape (key : PinnedKey) : PinnedKey := key.map fun (column, _) => (column, .null)

theorem PinnedKey.clause_shape (key : PinnedKey) : key.shape.clause = key.clause.shape := by
  rw [clause, clause, shape, Clause.shape, List.map_map, List.map_map]
  rfl

/-- The place of an entry does not depend on values. -/
theorem PinnedKey.takeOut?_shape (key : PinnedKey) (name : String) :
    key.shape.takeOut? name =
      (key.takeOut? name).map fun (entry, left) => ((entry.1, .null), shape left) := by
  have hindex : key.shape.findIdx? (·.1.name = name) = key.findIdx? (·.1.name = name) := by
    rw [shape, List.findIdx?_map]
    rfl
  rw [takeOut?, takeOut?, hindex, Option.map_bind]
  refine congrArg _ (funext fun index => ?_)
  rw [shape, List.getElem?_map, ← map_swapRemove, Function.comp_apply, Option.map_map, Option.map_map]
  rfl

theorem PinnedKey.inOrder_shape (key : PinnedKey) (columns : List Column) :
    key.shape.inOrder columns = shape (key.inOrder columns) := by
  induction columns generalizing key with
  | nil => rfl
  | cons column columns ih =>
    rw [inOrder, inOrder, takeOut?_shape]
    cases key.takeOut? column.name with
    | none => exact ih key
    | some taken => exact congrArg ((taken.1.1, .null) :: ·) (ih taken.2)

theorem PinnedKey.record_shape (key : PinnedKey) : key.shape.record = Record.shape key.record := by
  rw [record, record, Record.shape_ofEntries, shape, Record.shape, List.map_map, List.map_map]
  rfl

/-- A plan without the values bound to its statements, and without those of the
key that it gives back. -/
def MutationPlan.shape : MutationPlan → MutationPlan
  | .direct statement key => .direct statement.shape key.shape
  | .twoPhase select template => .twoPhase select.shape { template with params := [] }

namespace Schema

variable {schema : Schema} {criteria other : Criteria}

theorem shape_keyedStatement (kind : StatementKind) (head : String) (key : PinnedKey) (params : List Json) :
    (keyedStatement kind head key params).shape =
      { kind, text := head ++ " WHERE " ++ key.shape.clause.text ++ ";" } := by
  rw [PinnedKey.clause_shape, Clause.text_shape]
  rfl

theorem shape_scanStatement (head : String) (clause : Clause) (order : List String) (limit : Option Nat) :
    (scanStatement head clause order limit).shape = (scanStatement head clause.shape order limit).shape := by
  rw [scanStatement, scanStatement, Clause.text_shape, Clause.isEmpty_shape]
  rfl

/-! ## Pinned keys -/

/-- Whether a key is collected and of which columns does not depend on values. -/
theorem collectKey_shape (found : PinnedKey) (fields : List (String × Condition)) :
    schema.collectKey found.shape (fields.map fun (name, condition) => (name, condition.shape)) =
      (schema.collectKey found fields).map (Option.map PinnedKey.shape) := by
  induction fields generalizing found with
  | nil => rfl
  | cons field fields ih =>
    obtain ⟨name, condition⟩ := field
    rw [List.map_cons, collectKey, collectKey]
    cases schema.resolve name with
    | error e => rfl
    | ok column =>
      cases condition with
      | among _ | within _ => rfl
      | equals value =>
        have hknown : found.shape.any (·.1.name = column.name) = found.any (·.1.name = column.name) := by
          rw [PinnedKey.shape, List.any_map]
          rfl
        have hmore : found.shape ++ [(column, .null)] = PinnedKey.shape (found ++ [(column, value)]) := by
          rw [PinnedKey.shape, PinnedKey.shape, List.map_append]
          rfl
        change (if (!schema.isKey column || found.shape.any (·.1.name = column.name)) = true then _ else
          schema.collectKey (found.shape ++ [(column, .null)]) _) = Except.map _ (if _ then _ else _)
        rw [hknown, hmore, ih]
        split <;> rfl

theorem pinnedKey_shape : schema.pinnedKey criteria.shape =
    (schema.pinnedKey criteria).map (Option.map PinnedKey.shape) := by
  unfold pinnedKey Criteria.shape
  cases criteria.filter with
  | none => rfl
  | some filter =>
    simp only [Option.map_some]
    rw [Filter.fields_shape, List.length_map]
    split
    · rfl
    · have hcollect := schema.collectKey_shape [] filter.fields
      rw [PinnedKey.shape, List.map_nil] at hcollect
      rw [hcollect, except_map_map, except_map_map]
      refine congrArg (Except.map · (schema.collectKey [] filter.fields)) (funext fun found => ?_)
      rw [Option.map_map, Option.map_map]
      refine congrArg (Option.map · found) (funext fun found => ?_)
      exact found.inOrder_shape schema.keyColumns

/-- Criteria of one shape pin the same columns, or none of them does. -/
theorem pinnedKey_of_shape_eq (schema : Schema) (h : criteria.shape = other.shape) :
    (schema.pinnedKey criteria).map (Option.map PinnedKey.shape) =
      (schema.pinnedKey other).map (Option.map PinnedKey.shape) := by
  rw [← pinnedKey_shape, ← pinnedKey_shape, h]

/-! ## Clauses -/

/-- The comparisons of a condition without their operands. -/
def outline (schema : Schema) (field : String × Condition) : Clause :=
  match schema.find? field.1 with
  | some column => field.2.operators.map fun operator => ⟨column.name, operator, .null⟩
  | none => []

theorem shape_of_compare {name : String} {condition : Condition} {clause : Clause}
    (h : schema.compare name condition = .ok clause) : clause.shape = schema.outline (name, condition) := by
  obtain ⟨column, hcolumn, h⟩ := bind_eq_ok_iff.1 h
  rw [outline, resolve_eq_ok_iff.1 hcolumn]
  cases condition with
  | equals _ | among _ =>
    cases h
    rfl
  | within bounds =>
    obtain ⟨found, hfound, h⟩ := bind_eq_ok_iff.1 h
    cases h
    cases readBounds_eq_iff.1 hfound
    dsimp only
    rw [Condition.operators, ← map_fst_operatorsOf, Clause.shape, List.map_map, List.map_map]
    rfl

theorem map_shape_of_compare {fields : List (String × Condition)} {parts : List Clause}
    (h : fields.mapM (fun field => schema.compare field.1 field.2) = .ok parts) :
    parts.map Clause.shape = fields.map schema.outline := by
  induction fields generalizing parts with
  | nil =>
    cases h
    rfl
  | cons field fields ih =>
    obtain ⟨part, rest, hpart, hrest, rfl⟩ := mapM_cons_eq_ok_iff.1 h
    rw [List.map_cons, List.map_cons, ih hrest, shape_of_compare hpart]

theorem shape_of_clause {filter : Filter} {clause : Clause} (h : schema.clause filter = .ok clause) :
    clause.shape = (filter.fields.map schema.outline).flatten := by
  obtain ⟨parts, hparts, rfl⟩ := clause_eq_ok_iff.1 h
  rw [← map_shape_of_compare hparts]
  exact List.map_flatten

theorem outline_shape (name : String) (condition : Condition) :
    schema.outline (name, condition.shape) = schema.outline (name, condition) := by
  rw [outline, outline, Condition.operators_shape]

theorem shape_of_whereClause (h : criteria.shape = other.shape) {clause clause' : Clause}
    (hclause : schema.whereClause criteria = .ok clause) (hclause' : schema.whereClause other = .ok clause') :
    clause.shape = clause'.shape := by
  have hfilter : criteria.filter.map Filter.shape = other.filter.map Filter.shape := congrArg Criteria.filter h
  unfold whereClause at hclause hclause'
  have houtline (filter : Filter) : filter.fields.map schema.outline = filter.shape.fields.map schema.outline := by
    rw [Filter.fields_shape, List.map_map]
    exact List.map_congr_left fun field _ => (outline_shape field.1 field.2).symm
  cases hcriteria : criteria.filter with
  | none =>
    rw [hcriteria] at hclause hfilter
    rw [Option.map_eq_none_iff.1 hfilter.symm] at hclause'
    cases hclause
    cases hclause'
    rfl
  | some filter =>
    rw [hcriteria] at hclause hfilter
    obtain ⟨filter', hother, hshape⟩ := Option.map_eq_some_iff.1 hfilter.symm
    rw [hother] at hclause'
    rw [shape_of_clause hclause, shape_of_clause hclause', houtline filter, houtline filter', hshape]

/-! ## Reading -/

theorem shape_of_query (h : criteria.shape = other.shape) {head : String} {sort : List Ordering}
    {limit : Option Nat} {statement statement' : Statement}
    (hquery : schema.query head criteria sort limit = .ok statement)
    (hquery' : schema.query head other sort limit = .ok statement') : statement.shape = statement'.shape := by
  have hpinned := pinnedKey_of_shape_eq schema h
  rcases query_eq_ok_iff.1 hquery with ⟨key, hkey, rfl⟩ | ⟨hkey, clause, order, hclause, horder, rfl⟩ <;>
    rcases query_eq_ok_iff.1 hquery' with
      ⟨key', hkey', rfl⟩ | ⟨hkey', clause', order', hclause', horder', rfl⟩ <;>
    rw [hkey, hkey'] at hpinned
  · have hkeys : key.shape = key'.shape := Option.some.inj (Except.ok.inj hpinned)
    rw [shape_keyedStatement, shape_keyedStatement, hkeys]
  · cases hpinned
  · cases hpinned
  · cases horder.symm.trans horder'
    rw [shape_scanStatement, shape_of_whereClause h hclause hclause', ← shape_scanStatement]

/-! ## Changing -/

theorem shape_of_mutation (h : criteria.shape = other.shape) {kind : StatementKind} {head : String}
    {params params' : List Json} {plan plan' : MutationPlan}
    (hplan : schema.mutation kind head params criteria = .ok plan)
    (hplan' : schema.mutation kind head params' other = .ok plan') : plan.shape = plan'.shape := by
  have hpinned := pinnedKey_of_shape_eq schema h
  rcases mutation_eq_ok_iff.1 hplan with ⟨key, hkey, rfl⟩ | ⟨hkey, select, hselect, rfl⟩ <;>
    rcases mutation_eq_ok_iff.1 hplan' with ⟨key', hkey', rfl⟩ | ⟨hkey', select', hselect', rfl⟩ <;>
    rw [hkey, hkey'] at hpinned
  · have hkeys : key.shape = key'.shape := Option.some.inj (Except.ok.inj hpinned)
    rw [MutationPlan.shape, MutationPlan.shape, shape_keyedStatement, shape_keyedStatement,
      ← PinnedKey.record_shape, ← PinnedKey.record_shape, hkeys]
  · cases hpinned
  · cases hpinned
  · rw [selectKeys_eq_query] at hselect hselect'
    rw [MutationPlan.shape, MutationPlan.shape, shape_of_query h hselect hselect']

/-- The columns that are assigned follow from the names. -/
theorem map_fst_of_assignments {values : List (String × Json)} {assigned : List (Column × Json)}
    (h : schema.assignments values = .ok assigned) :
    assigned.map (·.1) = (Fields.names values).filterMap schema.find? := by
  induction values generalizing assigned with
  | nil =>
    cases h
    rfl
  | cons entry rest ih =>
    obtain ⟨column, bound, more, hcolumn, -, -, hmore, rfl⟩ := assignments_cons_eq_ok_iff.1 h
    rw [List.map_cons, ih hmore, Fields.names_cons, List.filterMap_cons_some (resolve_eq_ok_iff.1 hcolumn)]

theorem updateHead_eq_of_names_eq {values other : Record} (h : values.names = other.names)
    {assigned assigned' : List (Column × Json)} (hassigned : schema.assignments values = .ok assigned)
    (hassigned' : schema.assignments other = .ok assigned') :
    schema.updateHead assigned = schema.updateHead assigned' := by
  have hhead (assigned : List (Column × Json)) : schema.updateHead assigned =
      "UPDATE " ++ schema.table ++ " SET " ++
        ", ".intercalate ((assigned.map (·.1)).map fun column => quoteName column.name ++ " = ?") := by
    rw [updateHead, List.map_map]
    rfl
  rw [hhead, hhead, map_fst_of_assignments hassigned, map_fst_of_assignments hassigned', h]

theorem shape_of_update (h : criteria.shape = other.shape) {values values' : Record}
    (hnames : values.names = values'.names) {plan plan' : UpdatePlan}
    (hplan : schema.update criteria values = .ok plan) (hplan' : schema.update other values' = .ok plan') :
    plan.plan.shape = plan'.plan.shape := by
  obtain ⟨-, assigned, mutation, hassigned, hmutation, rfl⟩ := update_eq_ok_iff.1 hplan
  obtain ⟨-, assigned', mutation', hassigned', hmutation', rfl⟩ := update_eq_ok_iff.1 hplan'
  rw [updateHead_eq_of_names_eq hnames hassigned hassigned'] at hmutation
  exact shape_of_mutation h hmutation hmutation'

/-! ## Inserting -/

variable {stored stored' given given' : Record}

theorem storeAll_shape (stored : Record) (entries : Record) :
    schema.storeAll stored.shape entries.shape = (schema.storeAll stored entries).map Record.shape := by
  induction entries generalizing stored with
  | nil => rfl
  | cons entry rest ih =>
    obtain ⟨name, value⟩ := entry
    rw [Record.shape_cons, storeAll, storeAll]
    cases schema.resolve name with
    | error e => rfl
    | ok column =>
      change (if _ then schema.storeAll stored.shape (Record.shape rest) else
        schema.storeAll (stored.shape.insert column.attr .null) (Record.shape rest)) =
          Except.map _ (if _ then _ else _)
      rw [← Record.shape_insert, ih, ih]
      split <;> rfl

theorem storeDefaults_shape (h : stored.shape = stored'.shape) :
    Record.shape (schema.storeDefaults stored) = Record.shape (schema.storeDefaults stored') := by
  unfold storeDefaults
  induction schema.defaults generalizing stored stored' with
  | nil => exact h
  | cons entry rest ih =>
    obtain ⟨name, value⟩ := entry
    have hhas : stored.has name = stored'.has name := by
      rw [← Record.has_shape, h, Record.has_shape]
    rw [List.foldl_cons, List.foldl_cons]
    refine ih ?_
    simp only [hhas]
    split
    · exact h
    · rw [Record.shape_insert, Record.shape_insert, h]

/-- The columns that are bound follow from the names. -/
theorem map_fst_of_bindStored {bound : List (Column × Json)} (h : schema.bindStored stored = .ok bound) :
    bound.map (·.1) = stored.names.filterMap schema.columnOf? := by
  induction stored generalizing bound with
  | nil =>
    cases h
    rfl
  | cons entry rest ih =>
    obtain ⟨column, param, more, hcolumn, -, hmore, rfl⟩ := bindStored_cons_eq_ok_iff.1 h
    rw [List.map_cons, ih hmore, Fields.names_cons, List.filterMap_cons_some hcolumn]

theorem shape_insertStatement (bound : List (Column × Json)) :
    (schema.insertStatement bound).shape =
      (schema.insertStatement ((bound.map (·.1)).map fun column => (column, .null))).shape := by
  simp only [insertStatement, Statement.shape, List.map_map]
  rfl

theorem shape_of_insert {fresh fresh' : Uuid} {record record' : Record} (hnames : record.names = record'.names)
    {insertion insertion' : Insertion} (h : schema.insert fresh record = .ok insertion)
    (h' : schema.insert fresh' record' = .ok insertion') : insertion.statement.shape = insertion'.statement.shape := by
  obtain ⟨generated, given, bound, hgenerated, hgiven, -, hbound, rfl⟩ := insert_eq_ok_iff.1 h
  obtain ⟨generated', given', bound', hgenerated', hgiven', -, hbound', rfl⟩ := insert_eq_ok_iff.1 h'
  have hfirst : generated.shape = generated'.shape := by
    rw [generatedKey_eq_ok hgenerated, generatedKey_eq_ok hgenerated']
    split
    · rw [Record.shape_cons, Record.shape_cons]
    · rfl
  have hshape : given.shape = given'.shape := by
    have hstored := schema.storeAll_shape generated record
    rw [hfirst, Record.shape_eq_of_names_eq hnames, storeAll_shape, hgiven, hgiven'] at hstored
    exact (Except.ok.inj hstored).symm
  have hcolumns : bound.map (·.1) = bound'.map (·.1) := by
    rw [map_fst_of_bindStored hbound, map_fst_of_bindStored hbound', ← Record.names_shape, storeDefaults_shape hshape,
      Record.names_shape]
  rw [shape_insertStatement, hcolumns, ← shape_insertStatement]

/-! ## Requests of one shape -/

/-- Values only reach the parameters of statements. Criteria that differ in
nothing but their values are looked up in the same way, records of the same
names are written in the same way, and the statements for them differ in
nothing but their parameters. -/
theorem values_stay_out_of_text (schema : Schema) :
    (∀ criteria other : Criteria, criteria.shape = other.shape →
      (∀ statement statement', schema.select criteria = .ok statement → schema.select other = .ok statement' →
        statement.shape = statement'.shape) ∧
      (∀ statement statement', schema.count criteria = .ok statement → schema.count other = .ok statement' →
        statement.shape = statement'.shape) ∧
      (∀ plan plan', schema.delete criteria = .ok plan → schema.delete other = .ok plan' →
        plan.shape = plan'.shape) ∧
      ∀ values values' : Record, values.names = values'.names → ∀ plan plan',
        schema.update criteria values = .ok plan → schema.update other values' = .ok plan' →
          plan.plan.shape = plan'.plan.shape) ∧
    ∀ record record' : Record, record.names = record'.names → ∀ fresh fresh' insertion insertion',
      schema.insert fresh record = .ok insertion → schema.insert fresh' record' = .ok insertion' →
        insertion.statement.shape = insertion'.statement.shape := by
  refine ⟨fun criteria other h => ⟨fun statement statement' hs hs' => ?_, fun statement statement' hs hs' => ?_,
    fun plan plan' hp hp' => ?_, fun values values' hnames plan plan' hp hp' => ?_⟩,
    fun record record' hnames fresh fresh' insertion insertion' hi hi' => ?_⟩
  · -- ordering, limit and skipping belong to the shape
    have hsort : criteria.shape.sort = other.shape.sort := congrArg Criteria.sort h
    have hwindow : criteria.shape.window = other.shape.window := congrArg Criteria.window h
    change criteria.sort = other.sort at hsort
    change criteria.window = other.window at hwindow
    rw [select, hsort, hwindow] at hs
    exact shape_of_query h hs hs'
  · have hlimit : criteria.shape.limit = other.shape.limit := congrArg Criteria.limit h
    change criteria.limit = other.limit at hlimit
    rw [count, hlimit] at hs
    exact shape_of_query h hs hs'
  · exact shape_of_mutation h hp hp'
  · exact shape_of_update h hnames hp hp'
  · exact shape_of_insert hnames hi hi'

/-- Quotes in a value and the number of values make no difference to what is
sent for readings, nor does what a user looks like. -/
theorem values_stay_out_of_text_sample :
    let criteria (levels : List Json) (slot : Json) : Criteria :=
      { filter := some (.all [.field "level" (.among levels), .all [.field "Slot" (.within [("<", slot)])]])
        limit := some 3 }
    let quotes : Json := .string "0; \" OR \"1\" = \"1"
    (∃ statement statement',
      Schema.sampleReadings.select (criteria [.ofInt64 1, .ofInt64 2] (.ofInt64 5)) = .ok statement ∧
      Schema.sampleReadings.select (criteria [] quotes) = .ok statement' ∧ statement.shape = statement'.shape) ∧
    (∃ plan plan',
      Schema.sampleReadings.update (criteria [.ofInt64 1] (.ofInt64 5)) [("note", .object [])] = .ok plan ∧
      Schema.sampleReadings.update (criteria [quotes] quotes) [("note", .null)] = .ok plan' ∧
      plan.plan.shape = plan'.plan.shape) ∧
    ∃ insertion insertion',
      Schema.sample.insert (.timeBased 1 2 3) [("age", .ofInt64 7)] = .ok insertion ∧
      Schema.sample.insert (.timeBased 1 3 4) [("age", .null)] = .ok insertion' ∧
      insertion.statement.shape = insertion'.statement.shape := by
  intro criteria quotes
  obtain ⟨hread, -⟩ := values_stay_out_of_text .sampleReadings
  obtain ⟨-, hwrite⟩ := values_stay_out_of_text .sample
  refine ⟨?_, ?_, ?_⟩
  · obtain ⟨hselect, -⟩ := hread (criteria [.ofInt64 1, .ofInt64 2] (.ofInt64 5)) (criteria [] quotes) rfl
    obtain ⟨statement, hs⟩ : ∃ statement,
      Schema.sampleReadings.select (criteria [.ofInt64 1, .ofInt64 2] (.ofInt64 5)) = .ok statement := ⟨_, rfl⟩
    obtain ⟨statement', hs'⟩ : ∃ statement,
      Schema.sampleReadings.select (criteria [] quotes) = .ok statement := ⟨_, rfl⟩
    exact ⟨statement, statement', hs, hs', hselect statement statement' hs hs'⟩
  · obtain ⟨-, -, -, hupdate⟩ := hread (criteria [.ofInt64 1] (.ofInt64 5)) (criteria [quotes] quotes) rfl
    obtain ⟨plan, hplan⟩ : ∃ plan,
      Schema.sampleReadings.update (criteria [.ofInt64 1] (.ofInt64 5)) [("note", .object [])] = .ok plan := ⟨_, rfl⟩
    obtain ⟨plan', hplan'⟩ : ∃ plan,
      Schema.sampleReadings.update (criteria [quotes] quotes) [("note", .null)] = .ok plan := ⟨_, rfl⟩
    exact ⟨plan, plan', hplan, hplan', hupdate [("note", .object [])] [("note", .null)] rfl plan plan' hplan hplan'⟩
  · have hinsert := hwrite [("age", .ofInt64 7)] [("age", .null)] rfl
    obtain ⟨insertion, hi⟩ : ∃ insertion,
      Schema.sample.insert (.timeBased 1 2 3) [("age", .ofInt64 7)] = .ok insertion := ⟨_, rfl⟩
    obtain ⟨insertion', hi'⟩ : ∃ insertion,
      Schema.sample.insert (.timeBased 1 3 4) [("age", .null)] = .ok insertion := ⟨_, rfl⟩
    exact ⟨insertion, insertion', hi, hi', hinsert _ _ insertion insertion' hi hi'⟩

end Schema
end WideColumn
