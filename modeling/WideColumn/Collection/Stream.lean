import WideColumn.Collection.Basic
/-!
# Streams of records

Records can be taken as the store finds them, with failures in between.
Skipped records and failures do not count as returned ones, and nothing comes
after the last record that is to be returned.
-/

namespace WideColumn

/-- The items of a stream after the records to skip, up to the last record to
return. -/
def pageItems {ε α : Type} : Nat → Option Nat → List (Except ε α) → List (Except ε α)
  | _, some 0, _ => []
  | _, _, [] => []
  | skip, limit, .error e :: items => .error e :: pageItems skip limit items
  | skip + 1, limit, .ok _ :: items => pageItems skip limit items
  | 0, limit, .ok record :: items => .ok record :: pageItems 0 (limit.map (· - 1)) items

structure Delivery where
  received : List Record
  /-- The number of records sent, or why sending ended early. -/
  sent : Except OperationError Nat

/-- Sends the records of a stream up to its first failure. A receiver may go
away after some records. -/
def deliver (capacity : Option Nat) : List (Except OperationError Record) → Delivery
  | [] => { received := [], sent := .ok 0 }
  | .error e :: _ => { received := [], sent := .error e }
  | .ok record :: items =>
    if capacity = some 0 then { received := [], sent := .error .receiverGone }
    else
      let rest := deliver (capacity.map (· - 1)) items
      { received := record :: rest.received, sent := rest.sent.map (· + 1) }

namespace Collection

variable (collection : Collection)

def decodeItem (item : Except StoreError Row) : Except OperationError Record :=
  (item.mapError .store).map collection.schema.decodeRow

/-- The records that criteria mean, as the store finds them. -/
def stream (criteria : Criteria) : Operation (List (Except OperationError Record)) := do
  let statement ← Operation.compiled (collection.schema.select criteria)
  let pinned ← Operation.compiled (collection.schema.pinnedKey criteria)
  let rows ← collection.session.stream statement
  let items := rows.map collection.decodeItem
  if pinned.isSome then return items
  return pageItems ((criteria.skip.map UInt64.toNat).getD 0) (criteria.limit.map UInt64.toNat) items

/-- Sends the records that criteria mean to a receiver. -/
def streamTo (criteria : Criteria) (capacity : Option Nat) : Dialogue Delivery := do
  match ← (collection.stream criteria).run with
  | .ok items => return deliver capacity items
  | .error e => return { received := [], sent := .error e }

end Collection

/-- Visits rows with their numbers up to the first failure, and counts them. -/
def visitRows {σ : Type} (visit : σ → Nat → Row → σ) (state : σ) (n : Nat) :
    List (Except StoreError Row) → σ × Except StoreError Nat
  | [] => (state, .ok n)
  | .error e :: _ => (state, .error e)
  | .ok row :: items => visitRows visit (visit state n row) (n + 1) items

/-- Visits the rows that a statement gives, one by one. -/
def Session.eachRow {σ : Type} (session : Session) (statement : Statement) (visit : σ → Nat → Row → σ)
    (start : σ) : Dialogue (σ × Except StoreError Nat) :=
  .call (.stream session statement) fun answer =>
    match answer with
    | .ok items => .done (visitRows visit start 0 items)
    | .error e => .done (start, .error e)

end WideColumn
