import WideColumn.Proofs.Success
import WideColumn.Store.Dialogue
/-!
# Operations with a store

What an operation asks of a store and what it ends with, whatever the store
answers. An operation is taken apart from its first step on: a step that is
compiled says nothing to the store, and a call is followed by the rest of the
operation only if it succeeds.
-/

namespace WideColumn

/-- The failures of requests that do not compile. -/
def OperationError.OfRequest : OperationError → Prop
  | .compile _ | .request _ => True
  | _ => False

variable {α β σ : Type}

namespace Operation

/-- The calls that an operation makes with a store, in order. -/
def calls (operation : Operation α) (store : Store σ) (state : σ) : List Call :=
  Dialogue.calls store operation.run state

/-- What an operation with a store ends with. -/
def result (operation : Operation α) (store : Store σ) (state : σ) : Except OperationError α :=
  (Dialogue.run store operation.run state).1

variable (store : Store σ) (state : σ)

/-! ## Steps without a call -/

theorem calls_ofExcept (value : Except OperationError α) : calls (ofExcept value) store state = [] := rfl

theorem result_ofExcept (value : Except OperationError α) : result (ofExcept value) store state = value := rfl

/-! ## Last steps -/

/-- Nothing is asked of the store for what is made of the value at the end. -/
theorem calls_bind_pure (operation : Operation α) (f : α → β) :
    calls (operation >>= fun value => pure (f value)) store state = calls operation store state := by
  change Dialogue.calls store (Dialogue.bind operation.run _) state = _
  rw [Dialogue.calls_bind]
  unfold calls
  cases (Dialogue.run store operation.run state).1 with
  | ok value => exact List.append_nil _
  | error e => exact List.append_nil _

theorem result_bind_pure (operation : Operation α) (f : α → β) :
    result (operation >>= fun value => pure (f value)) store state = (result operation store state).map f := by
  change (Dialogue.run store (Dialogue.bind operation.run _) state).1 = _
  rw [Dialogue.run_bind]
  unfold result
  cases (Dialogue.run store operation.run state).1 with
  | ok value => rfl
  | error e => rfl

/-! ## Calls -/

section

variable {question : Call} {read : question.Answer → Except OperationError α}

/-- The operation that is one call, whose answer is a value or a failure. -/
def ask (question : Call) (read : question.Answer → Except OperationError α) : Operation α :=
  ExceptT.mk (.call question fun answer => .done (read answer))

theorem calls_ask_bind_of_ok {value : α} (h : read (store question state).1 = .ok value)
    (next : α → Operation β) :
    calls (ask question read >>= next) store state =
      question :: calls (next value) store (store question state).2 := by
  change question :: Dialogue.calls store (Dialogue.bind (.done (read _)) _) _ = _
  rw [h]
  rfl

theorem calls_ask_bind_of_error {e : OperationError} (h : read (store question state).1 = .error e)
    (next : α → Operation β) : calls (ask question read >>= next) store state = [question] := by
  change question :: Dialogue.calls store (Dialogue.bind (.done (read _)) _) _ = _
  rw [h]
  rfl

theorem result_ask_bind_of_ok {value : α} (h : read (store question state).1 = .ok value)
    (next : α → Operation β) :
    result (ask question read >>= next) store state = result (next value) store (store question state).2 := by
  change (Dialogue.run store (Dialogue.bind (.done (read _)) _) _).1 = _
  rw [h]
  rfl

theorem result_ask_bind_of_error {e : OperationError} (h : read (store question state).1 = .error e)
    (next : α → Operation β) : result (ask question read >>= next) store state = .error e := by
  change (Dialogue.run store (Dialogue.bind (.done (read _)) _) _).1 = _
  rw [h]
  rfl

theorem calls_ask : calls (ask question read) store state = [question] := rfl

theorem result_ask : result (ask question read) store state = read (store question state).1 := rfl

end

/-! ## Shapes of operations -/

/-- An operation that fails without a call. -/
structure Refuses (operation : Operation α) (store : Store σ) (state : σ) (e : OperationError) : Prop where
  calls_eq : calls operation store state = []
  result_eq : result operation store state = .error e

/-- An operation whose only call is a batch, and that ends with a value if the
store takes the batch. -/
structure Submits (operation : Operation α) (store : Store σ) (state : σ) (session : Session)
    (statements : List Statement) (value : α) : Prop where
  calls_eq : calls operation store state = [.batch session statements]
  result_eq : result operation store state =
    ((store (.batch session statements) state).1.mapError .store).map fun _ => value

/-- An operation with one call, which can only fail as the store does. -/
structure AsksOnce (operation : Operation α) (store : Store σ) (state : σ) (question : Call) : Prop where
  calls_eq : calls operation store state = [question]
  not_ofRequest : ∀ e, result operation store state = .error e → ¬e.OfRequest

variable {store state}

theorem refuses_ofExcept (e : OperationError) : (ofExcept (.error e) : Operation α).Refuses store state e :=
  ⟨calls_ofExcept .., result_ofExcept ..⟩

theorem not_ofRequest_of_answer {answer : Except StoreError α} {e : OperationError}
    (h : answer.mapError .store = .error e) : ¬e.OfRequest := by
  cases answer with
  | error cause =>
    cases h
    exact not_false
  | ok value => cases h

theorem asksOnce_ask {question : Call} {read : question.Answer → Except OperationError α} {f : α → β}
    {operation : Operation β} (h : operation = ask question read >>= fun value => pure (f value))
    (hread : ∀ answer e, read answer = .error e → ¬e.OfRequest) :
    operation.AsksOnce store state question := by
  subst h
  refine ⟨calls_bind_pure .., fun e he => ?_⟩
  rw [result_bind_pure] at he
  exact hread _ e (map_eq_error_iff.1 he)

theorem submits_of_eq {operation : Operation α} {session : Session} {statements : List Statement} {value : α}
    (h : operation = ask (.batch session statements) (Except.mapError .store) >>= fun _ => pure value) :
    operation.Submits store state session statements value := by
  subst h
  exact ⟨calls_bind_pure .., result_bind_pure ..⟩

theorem Submits.asksOnce {operation : Operation α} {session : Session} {statements : List Statement} {value : α}
    (h : operation.Submits store state session statements value) :
    operation.AsksOnce store state (.batch session statements) := by
  refine ⟨h.calls_eq, fun e he => ?_⟩
  rw [h.result_eq] at he
  exact not_ofRequest_of_answer (map_eq_error_iff.1 he)

end Operation

end WideColumn
