import WideColumn.Collection.Stream
import WideColumn.Proofs.Collection.TwoPhase
import WideColumn.Proofs.Query.GeneratedKey
/-!
# What reaches the store

Every operation of a collection compiles its request first. A request that
does not compile never reaches the store; one that does is a single call, or
a key select and at most one batch after it. Only the rows of a key select
can be refused later, and then nothing has been written.
-/

namespace WideColumn

/-- What a request is about: criteria, or the document that describes them. -/
inductive Target where
  | criteria (criteria : Criteria)
  | document (document : Json)

/-- A request for a collection, with the identifiers for keys that are
generated. -/
inductive Request where
  | create (fresh : Uuid) (record : Record)
  | createEach (fresh : Nat → Uuid) (records : List Record)
  | find (target : Target)
  | count (target : Target)
  | update (target : Target) (values : Record)
  | destroy (target : Target)
  | stream (target : Target)

abbrev Request.Reply : Request → Type
  | .create _ _ => Record
  | .createEach _ _ | .find _ | .update _ _ | .destroy _ => List Record
  | .count _ => Nat
  | .stream _ => List (Except OperationError Record)

/-- The calls that write rows. -/
def Call.Writes : Call → Prop
  | .execute _ statement | .stream _ statement => statement.kind.isMutation = true
  | .batch _ _ => True
  | .connect _ | .shutdown _ => False

namespace Operation

variable {α β σ : Type}

/-- An operation whose calls are as they should be for what was compiled of its
request, and that is refused if nothing was. -/
def Dispatches (operation : Operation α) (store : Store σ) (state : σ) (compiled : Except OperationError β)
    (expected : β → List Call → Prop) : Prop :=
  match compiled with
  | .ok compiled => expected compiled (calls operation store state)
  | .error e => operation.Refuses store state e

end Operation

namespace Collection

open Operation

variable {α β σ : Type} (collection : Collection) {store : Store σ} {state : σ}

/-! ## Requests -/

def criteriaOf : Target → Except OperationError Criteria
  | .criteria criteria => .ok criteria
  | .document document => collection.readCriteria document

/-- What the criteria of a target compile to. -/
def compileFor (compile : Criteria → Except CompileError β) (target : Target) : Except OperationError β :=
  match collection.criteriaOf target with
  | .ok criteria => (compile criteria).mapError .compile
  | .error e => .error e

def perform : (request : Request) → Operation request.Reply
  | .create fresh record => collection.create fresh record
  | .createEach fresh records => collection.createEach fresh records
  | .find target => Operation.ofExcept (collection.criteriaOf target) >>= collection.find
  | .count target => Operation.ofExcept (collection.criteriaOf target) >>= collection.count
  | .update target values =>
    Operation.ofExcept (collection.criteriaOf target) >>= fun criteria => collection.update criteria values
  | .destroy target => Operation.ofExcept (collection.criteriaOf target) >>= collection.destroy
  | .stream target => Operation.ofExcept (collection.criteriaOf target) >>= collection.stream

/-- The plan of a request that changes rows. -/
inductive Plans : Request → MutationPlan → Prop
  | update {target : Target} {values : Record} {plan : UpdatePlan}
      (h : collection.compileFor (collection.schema.update · values) target = .ok plan) :
      Plans (.update target values) plan.plan
  | destroy {target : Target} {plan : MutationPlan}
      (h : collection.compileFor collection.schema.delete target = .ok plan) : Plans (.destroy target) plan

/-- The calls that may carry a plan out: its statement, or its key select and
at most one batch. -/
def Carries : MutationPlan → List Call → Prop
  | .direct statement _, calls => calls = [.execute collection.session statement]
  | .twoPhase select _, calls =>
    calls = [.execute collection.session select] ∨
      ∃ statements, calls = [.execute collection.session select, .batch collection.session statements]

/-- What reaches the store for each of the requests, whatever the store
answers. -/
structure Disciplined (store : Store σ) (state : σ) : Prop where
  /-- Records are created in one batch, with an insert for each of them in
  their order. Nothing is submitted without records, or if one is rejected. -/
  createEach : ∀ fresh records,
    (records = [] ∧ calls (collection.createEach fresh records) store state = [] ∧
      result (collection.createEach fresh records) store state = .ok []) ∨
    (∃ record i cause, (record, i) ∈ records.zipIdx ∧
      collection.schema.insert (fresh i) record = .error cause ∧
      (collection.createEach fresh records).Refuses store state (.compile cause)) ∨
    ∃ insertions : List Insertion, records ≠ [] ∧
      (records.zipIdx.map fun (record, i) => collection.schema.insert (fresh i) record) = insertions.map .ok ∧
      (∀ insertion ∈ insertions, insertion.statement.kind = .insert) ∧
      (collection.createEach fresh records).Submits store state collection.session
        (insertions.map (·.statement)) (insertions.map (·.record))
  /-- A record by itself is created like a list of one, but for the
  identifier if the key is generated. All that are generated have version 1. -/
  create : ∀ (fresh : Nat → Uuid) other record, (fresh 0).version = 1 → other.version = 1 →
    (∃ cause, (collection.createEach fresh [record]).Refuses store state (.compile cause) ∧
      (collection.create other record).Refuses store state (.compile cause)) ∨
    ∃ insertion : Insertion,
      (collection.createEach fresh [record]).Submits store state collection.session
        [insertion.statement] [insertion.record] ∧
      (collection.create other record).Submits store state collection.session
        [(insertion.withKey collection.schema other).statement] (insertion.withKey collection.schema other).record
  find : ∀ target, (collection.perform (.find target)).Dispatches store state
    (collection.compileFor collection.schema.select target) fun statement calls =>
      calls = [.execute collection.session statement]
  count : ∀ target, (collection.perform (.count target)).Dispatches store state
    (collection.compileFor collection.schema.count target) fun statement calls =>
      calls = [.execute collection.session statement]
  stream : ∀ target, (collection.perform (.stream target)).Dispatches store state
    (collection.compileFor collection.schema.select target) fun statement calls =>
      calls = [.stream collection.session statement]
  update : ∀ target values, (collection.perform (.update target values)).Dispatches store state
    (collection.compileFor (collection.schema.update · values) target) fun plan calls =>
      collection.Carries plan.plan calls
  destroy : ∀ target, (collection.perform (.destroy target)).Dispatches store state
    (collection.compileFor collection.schema.delete target) fun plan calls => collection.Carries plan calls
  /-- When a request is refused, nothing has been written, and nothing has
  been asked but for a key select whose rows lack a key column. -/
  refusal : ∀ request e, result (collection.perform request) store state = .error e → e.OfRequest →
    (∀ call ∈ calls (collection.perform request) store state, ¬call.Writes) ∧
    (calls (collection.perform request) store state = [] ∨
      ∃ select template rows, collection.Plans request (.twoPhase select template) ∧
        calls (collection.perform request) store state = [.execute collection.session select] ∧
        (store (.execute collection.session select) state).1 = .ok rows ∧
        ∃ row ∈ rows, ∃ key ∈ collection.schema.keyColumns, row.get? key.name = none)

variable {collection} {criteria : Criteria} {cause : CompileError}

/-! ## Reading -/

theorem exists_pinned_of_query {schema : Schema} {head : String} {sort : List Ordering} {limit : Option Nat}
    {statement : Statement} (h : schema.query head criteria sort limit = .ok statement) :
    ∃ pinned, schema.pinnedKey criteria = .ok pinned := by
  rcases Schema.query_eq_ok_iff.1 h with ⟨key, hkey, -⟩ | ⟨hnone, -⟩
  · exact ⟨some key, hkey⟩
  · exact ⟨none, hnone⟩

theorem find_of_error (h : collection.schema.select criteria = .error cause) :
    collection.find criteria = Operation.ofExcept (.error (.compile cause)) := by
  unfold find
  rw [h]
  rfl

/-- A find that compiles is its select, and then makes records of the rows. -/
theorem find_of_ok {statement : Statement} (h : collection.schema.select criteria = .ok statement)
    {pinned : Option PinnedKey} (hp : collection.schema.pinnedKey criteria = .ok pinned) :
    collection.find criteria =
      ask (.execute collection.session statement) (Except.mapError .store) >>= fun rows =>
        pure (if pinned.isSome then rows.map collection.schema.decodeRow
          else criteria.page (rows.map collection.schema.decodeRow)) := by
  unfold find
  rw [h, hp]
  rfl

theorem asksOnce_find {statement : Statement} (h : collection.schema.select criteria = .ok statement) :
    (collection.find criteria).AsksOnce store state (.execute collection.session statement) := by
  obtain ⟨pinned, hpinned⟩ := exists_pinned_of_query h
  exact asksOnce_ask (find_of_ok h hpinned) fun _ _ => not_ofRequest_of_answer

theorem count_of_error (h : collection.schema.count criteria = .error cause) :
    collection.count criteria = Operation.ofExcept (.error (.compile cause)) := by
  unfold count
  rw [h]
  rfl

theorem asksOnce_count {statement : Statement} (h : collection.schema.count criteria = .ok statement) :
    (collection.count criteria).AsksOnce store state (.execute collection.session statement) := by
  have hcount : collection.count criteria =
      ask (.execute collection.session statement) (Except.mapError .store) >>= fun rows => pure (countOf rows) := by
    unfold count
    rw [h]
    rfl
  exact asksOnce_ask hcount fun _ _ => not_ofRequest_of_answer

theorem stream_of_error (h : collection.schema.select criteria = .error cause) :
    collection.stream criteria = Operation.ofExcept (.error (.compile cause)) := by
  unfold stream
  rw [h]
  rfl

/-- A stream that compiles is its select, and then makes items of what
arrives. -/
theorem stream_of_ok {statement : Statement} (h : collection.schema.select criteria = .ok statement)
    {pinned : Option PinnedKey} (hp : collection.schema.pinnedKey criteria = .ok pinned) :
    collection.stream criteria =
      ask (.stream collection.session statement) (Except.mapError .store) >>= fun rows =>
        pure (if pinned.isSome then rows.map collection.decodeItem
          else pageItems ((criteria.skip.map UInt64.toNat).getD 0) (criteria.limit.map UInt64.toNat)
            (rows.map collection.decodeItem)) := by
  unfold stream
  rw [h, hp]
  cases pinned with
  | some key => rfl
  | none => rfl

theorem asksOnce_stream {statement : Statement} (h : collection.schema.select criteria = .ok statement) :
    (collection.stream criteria).AsksOnce store state (.stream collection.session statement) := by
  obtain ⟨pinned, hpinned⟩ := exists_pinned_of_query h
  exact asksOnce_ask (stream_of_ok h hpinned) fun _ _ => not_ofRequest_of_answer

/-! ## Changing -/

theorem update_of_error {values : Record} (h : collection.schema.update criteria values = .error cause) :
    collection.update criteria values = Operation.ofExcept (.error (.compile cause)) := by
  unfold update
  rw [h]
  rfl

theorem destroy_of_error (h : collection.schema.delete criteria = .error cause) :
    collection.destroy criteria = Operation.ofExcept (.error (.compile cause)) := by
  unfold destroy
  rw [h]
  rfl

/-- The ways in which a plan in two phases is carried out: the key select
fails, its rows are refused, there are none, or all of them are changed. -/
theorem change_twoPhase_cases (collection : Collection) (store : Store σ) (state : σ) (select : Statement)
    (template : MutationTemplate) :
    (collection.change (.twoPhase select template)).AsksOnce store state (.execute collection.session select) ∨
    (∃ rows, (store (.execute collection.session select) state).1 = .ok rows ∧
      (∃ row ∈ rows, ∃ key ∈ template.keys, row.get? key.name = none) ∧
      calls (collection.change (.twoPhase select template)) store state = [.execute collection.session select]) ∨
    ∃ statements, calls (collection.change (.twoPhase select template)) store state =
        [.execute collection.session select, .batch collection.session statements] ∧
      (∀ e, result (collection.change (.twoPhase select template)) store state = .error e → ¬e.OfRequest) ∧
      ∃ rows : List Row, rows.mapM template.bind = .ok statements := by
  cases hanswer : (store (.execute collection.session select) state).1 with
  | error failure =>
    have hread : Except.mapError OperationError.store (store (.execute collection.session select) state).1 =
        .error (.store failure) := by
      rw [hanswer]
      rfl
    rw [change_twoPhase]
    refine .inl ⟨calls_ask_bind_of_error store state hread _, fun e he => ?_⟩
    rw [result_ask_bind_of_error store state hread] at he
    cases he
    exact not_false
  | ok rows =>
    have hcalls := calls_change_of_ok template hanswer
    have hresult := result_change_of_ok template hanswer
    cases hbind : rows.mapM template.bind with
    | error e =>
      obtain ⟨row, hrow, key, hkey, hnone, -⟩ := MutationTemplate.exists_missing_of_mapM_bind hbind
      rw [changeRows_of_error hbind] at hcalls
      exact .inr (.inl ⟨rows, rfl, ⟨row, hrow, key, hkey, hnone⟩, hcalls⟩)
    | ok statements =>
      by_cases hne : rows = []
      · subst hne
        refine .inl ⟨hcalls, fun e he => ?_⟩
        cases hresult.symm.trans he
      · rw [changeRows_of_ok hne hbind, calls_bind_pure, calls_ask] at hcalls
        rw [changeRows_of_ok hne hbind, result_bind_pure, result_ask] at hresult
        refine .inr (.inr ⟨statements, hcalls, fun e he => ?_, rows, hbind⟩)
        exact not_ofRequest_of_answer (map_eq_error_iff.1 (hresult.symm.trans he))

theorem carries_change (collection : Collection) (store : Store σ) (state : σ) (plan : MutationPlan) :
    collection.Carries plan (calls (collection.change plan) store state) := by
  cases plan with
  | direct statement key => exact calls_bind_pure ..
  | twoPhase select template =>
    rcases change_twoPhase_cases collection store state select template with
      hasks | ⟨rows, -, -, hcalls⟩ | ⟨statements, hcalls, -⟩
    · exact .inl hasks.calls_eq
    · exact .inl hcalls
    · exact .inr ⟨statements, hcalls⟩

/-- A plan is refused only for a row that lacks a key column. -/
theorem refusal_of_change {plan : MutationPlan} {e : OperationError}
    (h : result (collection.change plan) store state = .error e) (he : e.OfRequest) :
    ∃ select template rows, plan = .twoPhase select template ∧
      calls (collection.change plan) store state = [.execute collection.session select] ∧
      (store (.execute collection.session select) state).1 = .ok rows ∧
      ∃ row ∈ rows, ∃ key ∈ template.keys, row.get? key.name = none := by
  cases plan with
  | direct statement key =>
    have hasks : (collection.change (.direct statement key)).AsksOnce store state
        (.execute collection.session statement) :=
      asksOnce_ask (change_direct statement key) fun _ _ => not_ofRequest_of_answer
    exact absurd he (hasks.not_ofRequest e h)
  | twoPhase select template =>
    rcases change_twoPhase_cases collection store state select template with
      hasks | ⟨rows, hrows, hlacks, hcalls⟩ | ⟨statements, -, hnot, -⟩
    · exact absurd he (hasks.not_ofRequest e h)
    · exact ⟨select, template, rows, rfl, hcalls, hrows, hlacks⟩
    · exact absurd he (hnot e h)

/-- A plan in two phases selects, and waits for the key columns. -/
theorem template_of_mutation {schema : Schema} {kind : StatementKind} {head : String} {params : List Json}
    {select : Statement} {template : MutationTemplate}
    (h : schema.mutation kind head params criteria = .ok (.twoPhase select template)) :
    select.kind = .select ∧ template.keys = schema.keyColumns := by
  rcases Schema.mutation_eq_ok_iff.1 h with ⟨key, -, hplan⟩ | ⟨hp, other, hselect, hplan⟩
  · cases hplan
  · cases hplan
    obtain ⟨clause, -, rfl⟩ := (Schema.selectKeys_eq_ok_iff hp).1 hselect
    exact ⟨rfl, rfl⟩

/-! ## Creating -/

theorem insertions_eq_mapM (fresh : Nat → Uuid) (n : Nat) (records : List Record) :
    collection.insertions fresh n records =
      (records.zipIdx n).mapM fun (record, i) => collection.schema.insert (fresh i) record := by
  induction records generalizing n with
  | nil => rfl
  | cons record records ih => rw [insertions, ih, List.zipIdx_cons, List.mapM_cons]

theorem createEach_of_error {fresh : Nat → Uuid} {records : List Record}
    (h : collection.insertions fresh 0 records = .error cause) :
    collection.createEach fresh records = Operation.ofExcept (.error (.compile cause)) := by
  cases records with
  | nil => cases h
  | cons record records =>
    unfold createEach
    rw [h]
    rfl

theorem submits_createEach {fresh : Nat → Uuid} {records : List Record} (hne : records ≠ [])
    {insertions : List Insertion} (h : collection.insertions fresh 0 records = .ok insertions) :
    (collection.createEach fresh records).Submits store state collection.session
      (insertions.map (·.statement)) (insertions.map (·.record)) := by
  refine submits_of_eq ?_
  cases records with
  | nil => exact absurd rfl hne
  | cons record records =>
    unfold createEach
    rw [h]
    rfl

theorem create_of_error {fresh : Uuid} {record : Record}
    (h : collection.schema.insert fresh record = .error cause) :
    collection.create fresh record = Operation.ofExcept (.error (.compile cause)) := by
  unfold create
  rw [h]
  rfl

theorem submits_create {fresh : Uuid} {record : Record} {insertion : Insertion}
    (h : collection.schema.insert fresh record = .ok insertion) :
    (collection.create fresh record).Submits store state collection.session
      [insertion.statement] insertion.record := by
  refine submits_of_eq ?_
  unfold create
  rw [h]
  rfl

theorem createEach_cases (fresh : Nat → Uuid) (records : List Record) :
    (records = [] ∧ collection.createEach fresh records = pure []) ∨
    (∃ record i cause, (record, i) ∈ records.zipIdx ∧
      collection.schema.insert (fresh i) record = .error cause ∧
      collection.createEach fresh records = Operation.ofExcept (.error (.compile cause))) ∨
    ∃ insertions : List Insertion, records ≠ [] ∧
      (records.zipIdx.map fun (record, i) => collection.schema.insert (fresh i) record) = insertions.map .ok ∧
      collection.insertions fresh 0 records = .ok insertions := by
  by_cases hne : records = []
  · subst hne
    exact .inl ⟨rfl, rfl⟩
  cases h : collection.insertions fresh 0 records with
  | error cause =>
    have hmap := h
    rw [insertions_eq_mapM] at hmap
    obtain ⟨⟨record, i⟩, hm, hinsert⟩ := exists_error_of_mapM hmap
    exact .inr (.inl ⟨record, i, cause, hm, hinsert, createEach_of_error h⟩)
  | ok insertions =>
    have hmap := h
    rw [insertions_eq_mapM] at hmap
    exact .inr (.inr ⟨insertions, hne, mapM_eq_ok_iff_map.1 hmap, rfl⟩)

/-! ## Requests are compiled first -/

theorem compileFor_cases {compile : Criteria → Except CompileError β} {run : Criteria → Operation α}
    (herror : ∀ {criteria cause}, compile criteria = .error cause →
      run criteria = Operation.ofExcept (.error (.compile cause))) (target : Target) :
    (∃ e, collection.compileFor compile target = .error e ∧
      Operation.ofExcept (collection.criteriaOf target) >>= run = Operation.ofExcept (.error e)) ∨
    ∃ criteria compiled, collection.compileFor compile target = .ok compiled ∧
      compile criteria = .ok compiled ∧
      Operation.ofExcept (collection.criteriaOf target) >>= run = run criteria := by
  unfold compileFor
  cases hcriteria : collection.criteriaOf target with
  | error e => exact .inl ⟨e, rfl, rfl⟩
  | ok criteria =>
    cases hcompile : compile criteria with
    | error cause => exact .inl ⟨.compile cause, by simp only [hcompile]; rfl, herror hcompile⟩
    | ok compiled => exact .inr ⟨criteria, compiled, by simp only [hcompile]; rfl, hcompile, rfl⟩

theorem dispatches_target {compile : Criteria → Except CompileError β} {run : Criteria → Operation α}
    {expected : β → List Call → Prop}
    (herror : ∀ {criteria cause}, compile criteria = .error cause →
      run criteria = Operation.ofExcept (.error (.compile cause)))
    (hok : ∀ {criteria compiled}, compile criteria = .ok compiled →
      expected compiled (calls (run criteria) store state)) (target : Target) :
    (Operation.ofExcept (collection.criteriaOf target) >>= run).Dispatches store state
      (collection.compileFor compile target) expected := by
  unfold Dispatches
  rcases compileFor_cases herror target with ⟨e, he, heq⟩ | ⟨criteria, compiled, hcompiled, hcompile, heq⟩
  · rw [he, heq]
    exact refuses_ofExcept e
  · rw [hcompiled, heq]
    exact hok hcompile

/-- A request that is one call if it compiles makes no call when it is
refused. -/
theorem calls_eq_nil_of_refused {compile : Criteria → Except CompileError β} {run : Criteria → Operation α}
    {question : β → Call}
    (herror : ∀ {criteria cause}, compile criteria = .error cause →
      run criteria = Operation.ofExcept (.error (.compile cause)))
    (hasks : ∀ {criteria compiled}, compile criteria = .ok compiled →
      (run criteria).AsksOnce store state (question compiled))
    {target : Target} {e : OperationError}
    (h : result (Operation.ofExcept (collection.criteriaOf target) >>= run) store state = .error e)
    (he : e.OfRequest) : calls (Operation.ofExcept (collection.criteriaOf target) >>= run) store state = [] := by
  rcases compileFor_cases herror target with ⟨_, -, heq⟩ | ⟨criteria, compiled, -, hcompile, heq⟩
  · rw [heq, calls_ofExcept]
  · rw [heq] at h
    exact absurd he ((hasks hcompile).not_ofRequest e h)

/-! ## The discipline -/

/-- A record by itself and as a list of one is created by the same insert, up
to the identifier. -/
theorem create_cases (hs : collection.schema.Coherent) {fresh : Nat → Uuid} {other : Uuid}
    (hf : (fresh 0).version = 1) (ho : other.version = 1) (record : Record) :
    (∃ cause, (collection.createEach fresh [record]).Refuses store state (.compile cause) ∧
      (collection.create other record).Refuses store state (.compile cause)) ∨
    ∃ insertion : Insertion,
      (collection.createEach fresh [record]).Submits store state collection.session
        [insertion.statement] [insertion.record] ∧
      (collection.create other record).Submits store state collection.session
        [(insertion.withKey collection.schema other).statement]
        (insertion.withKey collection.schema other).record := by
  have hother := Schema.insert_withKey hs hf ho record
  cases h : collection.schema.insert (fresh 0) record with
  | error cause =>
    have heach : collection.insertions fresh 0 [record] = .error cause := by
      unfold insertions
      rw [h]
      rfl
    rw [h] at hother
    refine .inl ⟨cause, ?_, ?_⟩
    · rw [createEach_of_error heach]
      exact refuses_ofExcept _
    · rw [create_of_error hother]
      exact refuses_ofExcept _
  | ok insertion =>
    have heach : collection.insertions fresh 0 [record] = .ok [insertion] := by
      unfold insertions
      rw [h]
      rfl
    rw [h] at hother
    exact .inr ⟨insertion, submits_createEach (List.cons_ne_nil _ _) heach, submits_create hother⟩

/-- A refused request has made no call, or is a plan in two phases that found
a row without a key column. -/
theorem refusal_of_perform {request : Request} {e : OperationError}
    (h : result (collection.perform request) store state = .error e) (he : e.OfRequest) :
    calls (collection.perform request) store state = [] ∨
      ∃ select template rows, collection.Plans request (.twoPhase select template) ∧ select.kind = .select ∧
        calls (collection.perform request) store state = [.execute collection.session select] ∧
        (store (.execute collection.session select) state).1 = .ok rows ∧
        ∃ row ∈ rows, ∃ key ∈ collection.schema.keyColumns, row.get? key.name = none := by
  cases request with
  | create fresh record =>
    simp only [perform] at h ⊢
    cases hinsert : collection.schema.insert fresh record with
    | error cause => exact .inl (by rw [create_of_error hinsert, calls_ofExcept])
    | ok insertion =>
      exact absurd he ((submits_create hinsert).asksOnce.not_ofRequest e h)
  | createEach fresh records =>
    simp only [perform] at h ⊢
    rcases createEach_cases fresh records with ⟨-, heq⟩ | ⟨_, _, _, -, -, heq⟩ | ⟨insertions, hne, -, hok⟩
    · exact .inl (by rw [heq]; rfl)
    · exact .inl (by rw [heq, calls_ofExcept])
    · exact absurd he ((submits_createEach hne hok).asksOnce.not_ofRequest e h)
  | find target => exact .inl (calls_eq_nil_of_refused find_of_error asksOnce_find h he)
  | count target => exact .inl (calls_eq_nil_of_refused count_of_error asksOnce_count h he)
  | stream target => exact .inl (calls_eq_nil_of_refused stream_of_error asksOnce_stream h he)
  | update target values =>
    simp only [perform] at h ⊢
    have herror {criteria : Criteria} {cause : CompileError}
        (h : collection.schema.update criteria values = .error cause) := update_of_error h
    rcases compileFor_cases herror target with ⟨_, -, heq⟩ | ⟨criteria, plan, hplan, hok, heq⟩
    · exact .inl (by rw [heq, calls_ofExcept])
    · rw [heq, update_of_ok hok, result_bind_pure] at h
      obtain ⟨select, template, rows, htwo, hcalls, hrows, hlacks⟩ := refusal_of_change (map_eq_error_iff.1 h) he
      obtain ⟨-, _, mutation, -, hmutation, rfl⟩ := Schema.update_eq_ok_iff.1 hok
      cases htwo
      obtain ⟨hkind, hkeys⟩ := template_of_mutation hmutation
      rw [heq, update_of_ok hok, calls_bind_pure]
      exact .inr ⟨select, template, rows, .update hplan, hkind, hcalls, hrows, hkeys ▸ hlacks⟩
  | destroy target =>
    simp only [perform] at h ⊢
    rcases compileFor_cases destroy_of_error target with ⟨_, -, heq⟩ | ⟨criteria, plan, hplan, hok, heq⟩
    · exact .inl (by rw [heq, calls_ofExcept])
    · rw [heq, destroy_of_ok hok] at h
      obtain ⟨select, template, rows, rfl, hcalls, hrows, hlacks⟩ := refusal_of_change h he
      obtain ⟨hkind, hkeys⟩ := template_of_mutation hok
      rw [heq, destroy_of_ok hok]
      exact .inr ⟨select, template, rows, .destroy hplan, hkind, hcalls, hrows, hkeys ▸ hlacks⟩

/-- The store is only asked for what compiles, whatever it answers: records
are created by one batch, reads are one call, and changes are one statement or
a key select and at most one batch. When a request is refused, nothing has
been written. -/
theorem dispatch_is_disciplined {model : Model} (hc : Schema.compile model = .ok collection.schema)
    (store : Store σ) (state : σ) : collection.Disciplined store state := by
  have hs := Schema.coherent_of_compile hc
  constructor
  case createEach =>
    intro fresh records
    rcases createEach_cases fresh records with
      ⟨hnil, heq⟩ | ⟨record, i, cause, hm, hinsert, heq⟩ | ⟨insertions, hne, hmap, hok⟩
    · rw [heq]
      exact .inl ⟨hnil, rfl, rfl⟩
    · rw [heq]
      exact .inr (.inl ⟨record, i, cause, hm, hinsert, refuses_ofExcept _⟩)
    · refine .inr (.inr ⟨insertions, hne, hmap, fun insertion hm => ?_, submits_createEach hne hok⟩)
      obtain ⟨⟨record, i⟩, -, hinsert⟩ := exists_item_of_mapM (mapM_eq_ok_iff_map.2 hmap) hm
      obtain ⟨_, _, bound, -, -, -, -, rfl⟩ := Schema.insert_eq_ok_iff.1 hinsert
      rfl
  case create => exact fun fresh other record hf ho => create_cases hs hf ho record
  case find => exact dispatches_target find_of_error fun h => (asksOnce_find h).calls_eq
  case count => exact dispatches_target count_of_error fun h => (asksOnce_count h).calls_eq
  case stream => exact dispatches_target stream_of_error fun h => (asksOnce_stream h).calls_eq
  case update =>
    intro target values
    refine dispatches_target update_of_error ?_ target
    intro criteria plan h
    rw [update_of_ok h, calls_bind_pure]
    exact carries_change collection store state plan.plan
  case destroy =>
    intro target
    refine dispatches_target destroy_of_error ?_ target
    intro criteria plan h
    rw [destroy_of_ok h]
    exact carries_change collection store state plan
  case refusal =>
    intro request e h he
    rcases refusal_of_perform h he with hnil | ⟨select, template, rows, hplan, hkind, hcalls, hrows, hlacks⟩
    · rw [hnil]
      exact ⟨fun _ hm => absurd hm List.not_mem_nil, .inl rfl⟩
    · rw [hcalls]
      refine ⟨fun call hm => ?_, .inr ⟨select, template, rows, hplan, rfl, hrows, hlacks⟩⟩
      rw [List.mem_singleton.1 hm]
      simp [Call.Writes, hkind, StatementKind.isMutation]

/-- A user is created under a generated key, and users whose key is not in
their row are not destroyed. -/
theorem dispatch_is_disciplined_sample :
    let users : Collection := { schema := .sample, session := { id := 0, keyspace := none } }
    let store : ScriptedStore := { script := { replies := [.ok [[("years", .bigint 2)]]] } }
    let request : Request := .destroy (.document (.object [("age", .object [("<", .ofInt64 3)])]))
    (∃ insertion : Insertion,
      (users.createEach (Uuid.timeBased 1 2) [[("age", .ofInt64 7)]]).Submits ScriptedStore.answer store
        users.session [insertion.statement] [insertion.record] ∧
      (users.create (Uuid.timeBased 1 3 4) [("age", .ofInt64 7)]).Submits ScriptedStore.answer store
        users.session [(insertion.withKey .sample (Uuid.timeBased 1 3 4)).statement]
        (insertion.withKey .sample (Uuid.timeBased 1 3 4)).record) ∧
    ∃ select,
      result (users.perform request) ScriptedStore.answer store =
        .error (.compile (.invalidValue (.keyColumnMissing "id"))) ∧
      calls (users.perform request) ScriptedStore.answer store = [.execute users.session select] := by
  intro users store request
  have hc : Schema.compile .sample = .ok users.schema := Schema.compile_sample
  have h := dispatch_is_disciplined hc ScriptedStore.answer store
  constructor
  · rcases h.create (Uuid.timeBased 1 2) (Uuid.timeBased 1 3 4) [("age", .ofInt64 7)] rfl rfl with
      ⟨cause, hrefuses, -⟩ | hsubmits
    · cases hrefuses.calls_eq
    · exact hsubmits
  · have hresult : result (users.perform request) ScriptedStore.answer store =
        .error (.compile (.invalidValue (.keyColumnMissing "id"))) := rfl
    rcases h.refusal request _ hresult trivial with ⟨-, hnil | ⟨select, -, -, -, hcalls, -⟩⟩
    · cases hnil
    · exact ⟨select, hresult, hcalls⟩

end Collection
end WideColumn
