import WideColumn.Connection.Error
import WideColumn.Native.Value
import WideColumn.Statement
/-!
# Dialogues with the store

Everything that talks to the store is a dialogue: a call to the store, and
what to do with the answer. A dialogue says nothing about what the store
answers, so it can be run with any store, and every order of calls and every
answer can be reasoned about.
-/

namespace WideColumn

structure Session where
  /-- The number that tells sessions apart. -/
  id : Nat
  /-- The keyspace to which the session is bound. -/
  keyspace : Option String
deriving DecidableEq

/-- What the store can be asked. -/
inductive Call where
  | connect (config : Config)
  | execute (session : Session) (statement : Statement)
  | batch (session : Session) (statements : List Statement)
  | stream (session : Session) (statement : Statement)
  | shutdown (session : Session)

/-- What the store answers. The rows of a stream arrive one by one, with
failures in between. -/
abbrev Call.Answer : Call → Type
  | .connect _ => Except StoreError Session
  | .execute _ _ => Except StoreError (List Row)
  | .batch _ _ => Except StoreError Unit
  | .stream _ _ => Except StoreError (List (Except StoreError Row))
  | .shutdown _ => Except StoreError Unit

/-- A dialogue with the store that ends in a value. -/
inductive Dialogue (α : Type) where
  | done (value : α)
  | call (question : Call) (next : question.Answer → Dialogue α)

/-- A store with states of a type, as the answer to every call and the state
after it. -/
abbrev Store (σ : Type) := (question : Call) → σ → question.Answer × σ

namespace Dialogue

variable {α β σ : Type}

/-- A dialogue and then another one, which depends on the value of the first. -/
def bind : Dialogue α → (α → Dialogue β) → Dialogue β
  | .done value, next => next value
  | .call question answered, next => .call question fun answer => bind (answered answer) next

instance : Monad Dialogue where
  pure := .done
  bind := bind

def ask (question : Call) : Dialogue question.Answer := .call question .done

def run (store : Store σ) : Dialogue α → σ → α × σ
  | .done value, state => (value, state)
  | .call question next, state =>
    let (answer, state) := store question state
    run store (next answer) state

/-- The calls that a dialogue with a store makes, in order. -/
def calls (store : Store σ) : Dialogue α → σ → List Call
  | .done _, _ => []
  | .call question next, state =>
    let (answer, state) := store question state
    question :: calls store (next answer) state

@[simp] theorem run_done (store : Store σ) (value : α) (state : σ) :
    (Dialogue.done value).run store state = (value, state) := rfl

theorem run_bind (store : Store σ) (dialogue : Dialogue α) (next : α → Dialogue β) (state : σ) :
    (dialogue.bind next).run store state =
      (next (dialogue.run store state).1).run store (dialogue.run store state).2 := by
  induction dialogue generalizing state with
  | done value => rfl
  | call question answered ih => exact ih _ _

@[simp] theorem calls_done (store : Store σ) (value : α) (state : σ) :
    (Dialogue.done value).calls store state = [] := rfl

theorem calls_bind (store : Store σ) (dialogue : Dialogue α) (next : α → Dialogue β) (state : σ) :
    (dialogue.bind next).calls store state =
      dialogue.calls store state ++
        (next (dialogue.run store state).1).calls store (dialogue.run store state).2 := by
  induction dialogue generalizing state with
  | done value => rfl
  | call question answered ih => exact congrArg (question :: ·) (ih _ _)

end Dialogue

/-- A dialogue that can fail. -/
abbrev Operation := ExceptT OperationError Dialogue

namespace Operation

def ofExcept {α : Type} (result : Except OperationError α) : Operation α := ExceptT.mk (.done result)

/-- The operation that ends at once with what is compiled. -/
def compiled {α : Type} (result : Except CompileError α) : Operation α := ofExcept (result.mapError .compile)

end Operation

namespace Session

variable (session : Session)

def execute (statement : Statement) : Operation (List Row) :=
  ExceptT.mk (.call (.execute session statement) fun answer => .done (answer.mapError .store))

def batch (statements : List Statement) : Operation Unit :=
  ExceptT.mk (.call (.batch session statements) fun answer => .done (answer.mapError .store))

def stream (statement : Statement) : Operation (List (Except StoreError Row)) :=
  ExceptT.mk (.call (.stream session statement) fun answer => .done (answer.mapError .store))

end Session
end WideColumn
