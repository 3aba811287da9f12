import WideColumn.Store.Dialogue
/-!
# Calls with their answers

The exchanges of a dialogue with a store are its calls, each with the answer
that the store gave. They show which sessions the store opened and which it
was told to close. A dialogue is within some calls if it makes no others,
whatever it is answered; one that only uses a session opens and closes none.
-/

namespace WideColumn

structure Exchange where
  question : Call
  answer : question.Answer

namespace Exchange

def opened? : Exchange → Option Session
  | ⟨.connect _, .ok session⟩ => some session
  | _ => none

/-- The session that is told to shut down, whether it does or not. -/
def closed? : Exchange → Option Session
  | ⟨.shutdown session, _⟩ => some session
  | _ => none

/-- The failure of a shutdown, unless the session was gone already. -/
def shutdownFailure? : Exchange → Option StoreError
  | ⟨.shutdown _, .error e⟩ => if e.kind = .notFound then none else some e
  | _ => none

end Exchange

/-- The sessions that were opened, in order. -/
def opened (exchanges : List Exchange) : List Session := exchanges.filterMap Exchange.opened?

/-- The sessions that were told to shut down, in order. -/
def closed (exchanges : List Exchange) : List Session := exchanges.filterMap Exchange.closed?

theorem opened_append (front back : List Exchange) : opened (front ++ back) = opened front ++ opened back :=
  List.filterMap_append

theorem closed_append (front back : List Exchange) : closed (front ++ back) = closed front ++ closed back :=
  List.filterMap_append

theorem filterMap_cons_eq_append {α β : Type} (f : α → Option β) (item : α) (items : List α) :
    (item :: items).filterMap f = (f item).toList ++ items.filterMap f := by
  rw [List.filterMap_cons]
  cases f item <;> rfl

theorem opened_cons (exchange : Exchange) (exchanges : List Exchange) :
    opened (exchange :: exchanges) = exchange.opened?.toList ++ opened exchanges :=
  filterMap_cons_eq_append ..

theorem closed_cons (exchange : Exchange) (exchanges : List Exchange) :
    closed (exchange :: exchanges) = exchange.closed?.toList ++ closed exchanges :=
  filterMap_cons_eq_append ..

theorem opened_of_shutdowns {exchanges : List Exchange} {sessions : List Session}
    (h : exchanges.map (·.question) = sessions.map .shutdown) : opened exchanges = [] := by
  refine List.filterMap_eq_nil_iff.2 fun exchange hm => ?_
  have hquestion : exchange.question ∈ sessions.map .shutdown := h ▸ List.mem_map_of_mem hm
  obtain ⟨session, -, hshutdown⟩ := List.mem_map.1 hquestion
  obtain ⟨question, answer⟩ := exchange
  cases hshutdown
  rfl

theorem closed_of_shutdowns {exchanges : List Exchange} {sessions : List Session}
    (h : exchanges.map (·.question) = sessions.map .shutdown) : closed exchanges = sessions := by
  induction exchanges generalizing sessions with
  | nil => exact (List.map_eq_nil_iff.1 h.symm).symm
  | cons exchange exchanges ih =>
    obtain ⟨session, rest, rfl, hfirst, hrest⟩ := List.map_eq_cons_iff.1 h.symm
    obtain ⟨question, answer⟩ := exchange
    cases hfirst
    rw [closed_cons, ih hrest.symm]
    rfl

/-- Statements, batches and streams of a session. -/
def Call.Uses (session : Session) : Call → Prop
  | .execute used _ | .batch used _ | .stream used _ => used = session
  | .connect _ | .shutdown _ => False

theorem Exchange.neither_of_uses {exchange : Exchange} {session : Session} (h : exchange.question.Uses session) :
    exchange.opened? = none ∧ exchange.closed? = none := by
  obtain ⟨question, answer⟩ := exchange
  cases question with
  | connect | shutdown => exact h.elim
  | execute | batch | stream => exact ⟨rfl, rfl⟩

/-- Where sessions are only used, none is opened. -/
theorem opened_of_uses {exchanges : List Exchange}
    (h : ∀ exchange ∈ exchanges, ∃ session, exchange.question.Uses session) : opened exchanges = [] := by
  refine List.filterMap_eq_nil_iff.2 fun exchange hm => ?_
  obtain ⟨session, huses⟩ := h exchange hm
  exact (Exchange.neither_of_uses huses).1

theorem closed_of_uses {exchanges : List Exchange}
    (h : ∀ exchange ∈ exchanges, ∃ session, exchange.question.Uses session) : closed exchanges = [] := by
  refine List.filterMap_eq_nil_iff.2 fun exchange hm => ?_
  obtain ⟨session, huses⟩ := h exchange hm
  exact (Exchange.neither_of_uses huses).2

variable {α β σ : Type}

namespace Dialogue

def exchanges (store : Store σ) : Dialogue α → σ → List Exchange
  | .done _, _ => []
  | .call question next, state =>
    let (answer, state) := store question state
    ⟨question, answer⟩ :: exchanges store (next answer) state

theorem run_call (store : Store σ) (question : Call) (next : question.Answer → Dialogue α) (state : σ) :
    (Dialogue.call question next).run store state =
      (next (store question state).1).run store (store question state).2 := rfl

theorem exchanges_call (store : Store σ) (question : Call) (next : question.Answer → Dialogue α) (state : σ) :
    (Dialogue.call question next).exchanges store state =
      ⟨question, (store question state).1⟩ ::
        (next (store question state).1).exchanges store (store question state).2 := rfl

@[simp] theorem exchanges_done (store : Store σ) (value : α) (state : σ) :
    (Dialogue.done value).exchanges store state = [] := rfl

theorem exchanges_bind (store : Store σ) (dialogue : Dialogue α) (next : α → Dialogue β) (state : σ) :
    (dialogue.bind next).exchanges store state =
      dialogue.exchanges store state ++
        (next (dialogue.run store state).1).exchanges store (dialogue.run store state).2 := by
  induction dialogue generalizing state with
  | done value => rfl
  | call question answered ih => exact congrArg (_ :: ·) (ih _ _)

/-- Whatever it is answered, a dialogue only makes calls of a kind. -/
def Within (P : Call → Prop) : Dialogue α → Prop
  | .done _ => True
  | .call question next => P question ∧ ∀ answer, Within P (next answer)

variable {P : Call → Prop}

theorem Within.bind {dialogue : Dialogue α} (h : dialogue.Within P) {next : α → Dialogue β}
    (hnext : ∀ value, (next value).Within P) : (dialogue.bind next).Within P := by
  induction dialogue with
  | done value => exact hnext value
  | call question answered ih => exact ⟨h.1, fun answer => ih answer (h.2 answer)⟩

theorem Within.mono {dialogue : Dialogue α} (h : dialogue.Within P) {Q : Call → Prop}
    (hle : ∀ question, P question → Q question) : dialogue.Within Q := by
  induction dialogue with
  | done value => trivial
  | call question answered ih => exact ⟨hle question h.1, fun answer => ih answer (h.2 answer)⟩

theorem Within.exchanges {dialogue : Dialogue α} (h : dialogue.Within P) {store : Store σ} {state : σ}
    {exchange : Exchange} (hm : exchange ∈ dialogue.exchanges store state) : P exchange.question := by
  induction dialogue generalizing state with
  | done value => cases hm
  | call question answered ih =>
    rcases List.mem_cons.1 hm with rfl | hm
    · exact h.1
    · exact ih _ (h.2 _) hm

variable {dialogue : Dialogue α} {session : Session} {store : Store σ} {state : σ}

theorem Within.opened_eq (h : dialogue.Within (Call.Uses session)) : opened (dialogue.exchanges store state) = [] :=
  opened_of_uses fun _ hm => ⟨session, h.exchanges hm⟩

theorem Within.closed_eq (h : dialogue.Within (Call.Uses session)) : closed (dialogue.exchanges store state) = [] :=
  closed_of_uses fun _ hm => ⟨session, h.exchanges hm⟩

end Dialogue

namespace Operation

variable {P : Call → Prop}

/-- Whatever it is answered, an operation only makes calls of a kind. -/
def Within (P : Call → Prop) (operation : Operation α) : Prop := Dialogue.Within P operation.run

theorem within_ofExcept (value : Except OperationError α) : (ofExcept value).Within P := trivial

theorem Within.bind {operation : Operation α} (h : operation.Within P) {next : α → Operation β}
    (hnext : ∀ value, (next value).Within P) : (operation >>= next).Within P := by
  refine Dialogue.Within.bind h fun value => ?_
  cases value with
  | ok value => exact hnext value
  | error e => trivial

theorem within_lift {dialogue : Dialogue α} (h : dialogue.Within P) :
    (ExceptT.lift dialogue : Operation α).Within P :=
  Dialogue.Within.bind h fun _ => trivial

end Operation

namespace Session

variable (session : Session)

theorem within_execute (statement : Statement) : (session.execute statement).Within (Call.Uses session) :=
  ⟨rfl, fun _ => trivial⟩

theorem within_batch (statements : List Statement) : (session.batch statements).Within (Call.Uses session) :=
  ⟨rfl, fun _ => trivial⟩

theorem within_stream (statement : Statement) : (session.stream statement).Within (Call.Uses session) :=
  ⟨rfl, fun _ => trivial⟩

end Session
end WideColumn
