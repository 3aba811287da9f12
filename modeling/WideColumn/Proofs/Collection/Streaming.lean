import Mathlib.Data.List.Infix
import WideColumn.Proofs.Collection.Paging
/-!
# Streams and finding

A stream returns what a find would return, item by item as the store finds
the rows, and hands failures on between the records. `Pages` says what is
returned of a stream by the place of each item: what counts is only how many
records stand before it. So records are skipped and limited as if there were
no failures, and nothing comes behind the last record.
-/

namespace WideColumn

open Operation

/-! ## Items -/

section

variable {ε α β : Type} {skip : Nat} {limit : Option Nat} {items : List (Except ε α)}

/-- The records of a stream without the failures in between. -/
def values (items : List (Except ε α)) : List α := items.filterMap Except.toOption

@[simp] theorem values_nil : values ([] : List (Except ε α)) = [] := rfl

@[simp] theorem values_cons_ok (value : α) : values (.ok value :: items) = value :: values items := rfl

@[simp] theorem values_cons_error (e : ε) : values (.error e :: items) = values items := rfl

/-- Each item with the items before it. -/
def places (items : List (Except ε α)) : List (List (Except ε α) × Except ε α) := items.inits.zip items

/-- Whether the last record to return is among a number of records. -/
def finished (skip : Nat) (limit : Option Nat) (before : Nat) : Bool :=
  limit.any fun n => n = 0 ∨ skip + n ≤ before

/-- Whether the item at a place is returned: the last record has not been
returned before it, and a record is not one of those to skip. -/
def returned (skip : Nat) (limit : Option Nat) (place : List (Except ε α) × Except ε α) : Bool :=
  let before := (values place.1).length
  !finished skip limit before && match place.2 with
    | .ok _ => skip ≤ before
    | .error _ => true

/-- What is returned of a stream without the records to skip, and up to a
number of records. -/
structure Pages (skip : Nat) (limit : Option Nat) (items paged : List (Except ε α)) : Prop where
  /-- Failures use up neither the records to skip nor those to return. -/
  records : values paged = upTo limit ((values items).drop skip)
  /-- Every item that is returned stays at its place between the others. -/
  items : paged = ((places items).filter (returned skip limit)).map (·.2)
  /-- Nothing comes behind the last record. -/
  last : ∀ front back, paged = front ++ back → limit = some (values front).length → back = []

/-! ## Pages of items -/

theorem values_pageItems : values (pageItems skip limit items) = upTo limit ((values items).drop skip) := by
  fun_induction pageItems skip limit items with
  | case1 => rfl
  | case2 skip limit hlimit => cases limit <;> simp [upTo]
  | case3 skip limit e items hlimit ih => simpa using ih
  | case4 skip limit value items hlimit ih => simpa using ih
  | case5 limit value items hlimit ih =>
    rw [values_cons_ok, ih]
    cases limit with
    | none => rfl
    | some n =>
      cases n with
      | zero => exact absurd rfl hlimit
      | succ n => rfl

theorem places_cons (item : Except ε α) :
    places (item :: items) = ([], item) :: (places items).map (Prod.map (item :: ·) id) := by
  rw [places, places, List.inits_cons, List.zip_cons_cons, List.zip_map_left]

/-- What is returned behind an item does not depend on the item but for the
numbers that are left to skip and to return. -/
theorem filter_places_cons {item : Except ε α} (skip' : Nat) (limit' : Option Nat)
    (h : ∀ place : List (Except ε α) × Except ε α,
      returned skip limit (item :: place.1, place.2) = returned skip' limit' place) :
    ((places (item :: items)).filter (returned skip limit)).map (·.2) =
      (if returned skip limit ([], item) then [item] else []) ++
        ((places items).filter (returned skip' limit')).map (·.2) := by
  have hrest : returned skip limit ∘ Prod.map (item :: ·) id = returned skip' limit' := funext h
  rw [places_cons, List.filter_cons, List.filter_map, hrest]
  split <;> simp

theorem finished_succ (before : Nat) : finished (skip + 1) limit (before + 1) = finished skip limit before := by
  cases limit with
  | none => rfl
  | some n =>
    simp only [finished, Option.any_some, decide_eq_decide]
    omega

theorem finished_zero_succ (hlimit : limit ≠ some 0) (before : Nat) :
    finished 0 limit (before + 1) = finished 0 (limit.map (· - 1)) before := by
  cases limit with
  | none => rfl
  | some n =>
    have hn : n ≠ 0 := fun h => hlimit (congrArg some h)
    simp only [finished, Option.map_some, Option.any_some, decide_eq_decide]
    omega

theorem finished_zero (hlimit : limit ≠ some 0) : finished skip limit 0 = false := by
  cases limit with
  | none => rfl
  | some n =>
    have hn : n ≠ 0 := fun h => hlimit (congrArg some h)
    simp only [finished, Option.any_some, decide_eq_false_iff_not]
    omega

theorem pageItems_eq_filter :
    pageItems skip limit items = ((places items).filter (returned skip limit)).map (·.2) := by
  fun_induction pageItems skip limit items with
  | case1 items skip =>
    have hnone (place : List (Except ε α) × Except ε α) : returned skip (some 0) place = false := rfl
    rw [List.filter_eq_nil_iff.2 fun place _ => by simp [hnone], List.map_nil]
  | case2 => rfl
  | case3 skip limit e items hlimit ih =>
    rw [filter_places_cons skip limit fun _ => rfl, ← ih]
    simp [returned, finished_zero hlimit]
  | case4 skip limit value items hlimit ih =>
    rw [filter_places_cons skip limit fun place => ?_, ← ih]
    · simp [returned]
    · obtain ⟨before, item⟩ := place
      cases item <;> simp [returned, finished_succ]
  | case5 limit value items hlimit ih =>
    rw [filter_places_cons 0 (limit.map (· - 1)) fun place => ?_, ← ih]
    · simp [returned, finished_zero hlimit]
    · obtain ⟨before, item⟩ := place
      cases item <;> simp [returned, finished_zero_succ hlimit]

/-- Without failures the pages of a stream are those of its records. -/
theorem pageItems_map_ok (records : List α) :
    pageItems skip limit (records.map (Except.ok (ε := ε))) = (upTo limit (records.drop skip)).map .ok := by
  induction records generalizing skip limit with
  | nil => rcases limit with - | - | n <;> simp [pageItems, upTo]
  | cons record records ih =>
    cases limit with
    | none =>
      cases skip with
      | zero => exact congrArg (Except.ok record :: ·) ih
      | succ skip => exact ih
    | some n =>
      cases n with
      | zero => simp [pageItems, upTo]
      | succ n =>
        cases skip with
        | zero => exact congrArg (Except.ok record :: ·) ih
        | succ skip => exact ih

theorem eq_nil_of_pageItems {front back : List (Except ε α)} (h : pageItems skip limit items = front ++ back)
    (hlimit : limit = some (values front).length) : back = [] := by
  fun_induction pageItems skip limit items generalizing front with
  | case1 => exact (List.append_eq_nil_iff.1 h.symm).2
  | case2 => exact (List.append_eq_nil_iff.1 h.symm).2
  | case3 skip limit e items hne ih =>
    match front with
    | [] => exact absurd hlimit hne
    | item :: front =>
      obtain ⟨rfl, htail⟩ := List.cons_eq_cons.1 h
      exact ih htail hlimit
  | case4 skip limit value items hne ih => exact ih h hlimit
  | case5 limit value items hne ih =>
    match front with
    | [] => exact absurd hlimit hne
    | item :: front =>
      obtain ⟨rfl, htail⟩ := List.cons_eq_cons.1 h
      refine ih htail ?_
      rw [hlimit]
      rfl

theorem pages_pageItems (skip : Nat) (limit : Option Nat) (items : List (Except ε α)) :
    Pages skip limit items (pageItems skip limit items) where
  records := values_pageItems
  items := pageItems_eq_filter
  last _ _ h hlimit := eq_nil_of_pageItems h hlimit

end

/-! ## Delivering -/

theorem deliver_records (records : List Record) :
    deliver none (records.map .ok) = { received := records, sent := .ok records.length } := by
  induction records with
  | nil => rfl
  | cons record records ih =>
    rw [List.map_cons, deliver, if_neg (by simp), Option.map_none, ih]
    rfl

theorem deliver_failure (records : List Record) (e : OperationError) (rest : List (Except OperationError Record)) :
    deliver none (records.map .ok ++ .error e :: rest) = { received := records, sent := .error e } := by
  induction records with
  | nil => rfl
  | cons record records ih =>
    rw [List.map_cons, List.cons_append, deliver, if_neg (by simp), Option.map_none, ih]
    rfl

namespace Collection

variable {collection : Collection} {criteria : Criteria} {σ : Type} {store : Store σ} {state : σ}

/-! ## Streams of a collection -/

theorem values_map_decodeItem (items : List (Except StoreError Row)) :
    values (items.map collection.decodeItem) = (values items).map collection.schema.decodeRow := by
  induction items with
  | nil => rfl
  | cons item items ih =>
    cases item with
    | error e => exact ih
    | ok row => exact congrArg (_ :: ·) ih

theorem result_stream {statement : Statement} (h : collection.schema.select criteria = .ok statement)
    {pinned : Option PinnedKey} (hp : collection.schema.pinnedKey criteria = .ok pinned)
    {items : List (Except StoreError Row)}
    (hitems : (store (.stream collection.session statement) state).1 = .ok items) :
    result (collection.stream criteria) store state =
      .ok (if pinned.isSome then items.map collection.decodeItem
        else pageItems ((criteria.skip.map UInt64.toNat).getD 0) (criteria.limit.map UInt64.toNat)
          (items.map collection.decodeItem)) := by
  rw [stream_of_ok h hp, result_bind_pure, result_ask, hitems]
  rfl

theorem run_streamTo {items : List (Except OperationError Record)} (capacity : Option Nat)
    (h : result (collection.stream criteria) store state = .ok items) :
    ((collection.streamTo criteria capacity).run store state).1 = deliver capacity items := by
  change (Dialogue.run store (Dialogue.bind (collection.stream criteria).run _) state).1 = _
  rw [Dialogue.run_bind]
  unfold result at h
  rw [h]
  rfl

/-- A stream hands records on as a find would return them, and failures in
between. Without failures it is what a find returns for the same rows. A
receiver that stays gets the records up to the first failure, and the sender
learns their number or that failure. -/
theorem stream_pages_like_find (collection : Collection) (criteria : Criteria) (store : Store σ) (state : σ)
    {statement : Statement} (h : collection.schema.select criteria = .ok statement) :
    (collection.schema.pinnedKey criteria = .ok none →
      ∀ items, (store (.stream collection.session statement) state).1 = .ok items →
        ∃ paged, result (collection.stream criteria) store state = .ok paged ∧
          values paged = upTo (criteria.limit.map UInt64.toNat)
            (((values items).map collection.schema.decodeRow).drop ((criteria.skip.map UInt64.toNat).getD 0)) ∧
          Pages ((criteria.skip.map UInt64.toNat).getD 0) (criteria.limit.map UInt64.toNat)
            (items.map collection.decodeItem) paged) ∧
    (∀ {τ : Type} (other : Store τ) (state' : τ) rows,
      (store (.stream collection.session statement) state).1 = .ok (rows.map .ok) →
      (other (.execute collection.session statement) state').1 = .ok rows →
        ∃ records, result (collection.find criteria) other state' = .ok records ∧
          result (collection.stream criteria) store state = .ok (records.map .ok)) ∧
    (∀ records, result (collection.stream criteria) store state = .ok (records.map .ok) →
      ((collection.streamTo criteria none).run store state).1 =
        { received := records, sent := .ok records.length }) ∧
    ∀ records e rest, result (collection.stream criteria) store state = .ok (records.map .ok ++ .error e :: rest) →
      ((collection.streamTo criteria none).run store state).1 = { received := records, sent := .error e } := by
  refine ⟨fun hp items hitems => ?_, fun {_} other state' rows hitems hrows => ?_, fun records hrecords => ?_,
    fun records e rest hrecords => ?_⟩
  · have hpages := pages_pageItems ((criteria.skip.map UInt64.toNat).getD 0) (criteria.limit.map UInt64.toNat)
      (items.map collection.decodeItem)
    refine ⟨_, result_stream h hp hitems, ?_, hpages⟩
    rw [← values_map_decodeItem]
    exact hpages.records
  · obtain ⟨pinned, hp⟩ := exists_pinned_of_query h
    refine ⟨_, result_find h hp hrows, ?_⟩
    have hdecode : (rows.map Except.ok).map collection.decodeItem =
        (rows.map collection.schema.decodeRow).map .ok := by
      rw [List.map_map, List.map_map]
      rfl
    rw [result_stream h hp hitems, hdecode]
    cases pinned with
    | some key => rfl
    | none =>
      simp only [Option.isSome_none, Bool.false_eq_true, if_false]
      rw [pageItems_map_ok, Criteria.page_eq_upTo]
  · rw [run_streamTo none hrecords]
    exact deliver_records records
  · rw [run_streamTo none hrecords]
    exact deliver_failure records e rest

/-- Of four users the first is skipped and two are returned, and the last
failure is behind them. A receiver gets one of them before a failure. -/
theorem stream_pages_like_find_sample :
    let users : Collection := { schema := .sample, session := { id := 0, keyspace := none } }
    let row (name : String) : Row := [("id", .text name)]
    let slow : StoreError := { kind := .timeout, detail := "slow" }
    let store (items : List (Except StoreError Row)) : ScriptedStore := { script := { items := some items } }
    let items := [.error slow, .ok (row "a"), .ok (row "b"), .error slow, .ok (row "c"), .error slow, .ok (row "d")]
    let rows : List Row := [row "a", row "b", row "c"]
    let criteria : Criteria := { limit := some 2, skip := some 1 }
    result (users.stream criteria) ScriptedStore.answer (store items) =
        .ok [.error (.store slow), .ok [("id", .string "b")], .error (.store slow), .ok [("id", .string "c")]] ∧
      result (users.stream criteria) ScriptedStore.answer (store (rows.map .ok)) =
        .ok [.ok [("id", .string "b")], .ok [("id", .string "c")]] ∧
      ((users.streamTo criteria none).run ScriptedStore.answer (store (rows.map .ok))).1 =
        { received := [[("id", .string "b")], [("id", .string "c")]], sent := .ok 2 } ∧
      ((users.streamTo criteria none).run ScriptedStore.answer (store (items.drop 1))).1 =
        { received := [[("id", .string "b")]], sent := .error (.store slow) } := by
  intro users row slow store items rows criteria
  obtain ⟨statement, hselect⟩ : ∃ statement, users.schema.select criteria = .ok statement := ⟨_, rfl⟩
  have hp : users.schema.pinnedKey criteria = .ok none := rfl
  refine ⟨?_, ?_, ?_, ?_⟩
  · obtain ⟨hpages, -, -, -⟩ := stream_pages_like_find users criteria ScriptedStore.answer (store items) hselect
    obtain ⟨paged, hresult, -, hpaged⟩ := hpages hp items rfl
    rw [hresult, hpaged.items]
    rfl
  · obtain ⟨-, hfind, -, -⟩ :=
      stream_pages_like_find users criteria ScriptedStore.answer (store (rows.map .ok)) hselect
    let replies : ScriptedStore := { script := { replies := [.ok rows] } }
    obtain ⟨records, hrecords, hresult⟩ := hfind ScriptedStore.answer replies rows rfl rfl
    cases hrecords
    exact hresult
  · obtain ⟨-, -, hsent, -⟩ :=
      stream_pages_like_find users criteria ScriptedStore.answer (store (rows.map .ok)) hselect
    exact hsent [[("id", .string "b")], [("id", .string "c")]] rfl
  · obtain ⟨-, -, -, hsent⟩ :=
      stream_pages_like_find users criteria ScriptedStore.answer (store (items.drop 1)) hselect
    exact hsent [[("id", .string "b")]] _ _ rfl

end Collection
end WideColumn
