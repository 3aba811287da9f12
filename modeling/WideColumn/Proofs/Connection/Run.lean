import WideColumn.Proofs.Connection.Registration
import WideColumn.Proofs.Fields
/-!
# Runs of a registry

Connections are registered and torn down, and tasks are carried out in between,
one step after the other. Whatever the store answers, every session that was
opened either was closed or belongs to a registered connection.
-/

namespace WideColumn

open Operation

inductive Step where
  | register (config : Config) (models : List Model)
  /-- Closes a connection, or all of them. -/
  | teardown (identity : Option String)
  | carryOut (connection collection : String) (task : Task)

abbrev Step.Reply : Step → Type
  | .register _ _ | .teardown _ => Unit
  | .carryOut _ _ task => task.Reply

/-- A step that was performed, and how it ended. -/
structure Outcome where
  step : Step
  result : Except OperationError step.Reply

/-- The identities that are registered after a step, from those before it. -/
def Outcome.names (names : List String) : Outcome → List String
  | ⟨.register config _, .ok _⟩ => names ++ config.identity.toList
  | ⟨.register _ _, .error _⟩ => names
  | ⟨.teardown (some identity), _⟩ => names.filter (· ≠ identity)
  | ⟨.teardown none, _⟩ => []
  | ⟨.carryOut _ _ _, _⟩ => names

namespace Registry

variable {σ : Type} {store : Store σ} {state : σ} {registry : Registry}

def sessions (registry : Registry) : List Session := registry.map (·.2.session)

def carryOut (registry : Registry) (connection name : String) (task : Task) : Operation task.Reply :=
  Operation.ofExcept (registry.collection connection name) >>= fun collection => collection.carryOut task

/-- Performs a step, and gives back the registry after it. -/
def perform (registry : Registry) : (step : Step) → Dialogue (Registry × Except OperationError step.Reply)
  | .register config models => registry.register config models
  | .teardown identity => registry.teardown identity
  | .carryOut connection name task =>
    (registry.carryOut connection name task).run.bind fun result => .done (registry, result)

/-- Performs steps one after the other. -/
def performAll (registry : Registry) : List Step → Dialogue (Registry × List Outcome)
  | [] => .done (registry, [])
  | step :: steps =>
    (registry.perform step).bind fun (registry, result) =>
      (performAll registry steps).bind fun (registry, outcomes) => .done (registry, ⟨step, result⟩ :: outcomes)

/-! ## Closing sessions -/

/-- What closing the connections of some identities comes to: the others are
left, each session is told to shut down, and the first failure is kept. -/
structure Closes (registry : Registry) (identities : List String) (exchanges : List Exchange) (left : Registry)
    (failure : Option StoreError) : Prop where
  left_eq : left = registry.filter fun entry => entry.1 ∉ identities
  questions : exchanges.map (·.question) =
    ((identities.filterMap registry.get?).map (·.session)).map .shutdown
  failure_eq : failure = exchanges.findSome? Exchange.shutdownFailure?

theorem closeAll_of_none {identity : String} (h : registry.get? identity = none) (identities : List String) :
    registry.closeAll (identity :: identities) = registry.closeAll identities := by
  rw [closeAll, h]

theorem closeAll_of_some {identity : String} {connection : Connection} (h : registry.get? identity = some connection)
    (identities : List String) :
    registry.closeAll (identity :: identities) = .call (.shutdown connection.session) fun answer =>
      (closeAll (registry.erase identity) identities).bind fun closed =>
        .done (closed.1, (closeFailure answer).or closed.2) := by
  rw [closeAll, h]
  rfl

theorem shutdownFailure?_eq (session : Session) (answer : Except StoreError Unit) :
    Exchange.shutdownFailure? ⟨.shutdown session, answer⟩ = closeFailure answer := by
  cases answer with
  | ok _ => rfl
  | error e =>
    rw [closeFailure, StoreError.isAbsent, Exchange.shutdownFailure?]
    simp only [decide_eq_true_eq]

theorem filter_erase (registry : Registry) (identity : String) (identities : List String) :
    (registry.erase identity).filter (fun entry => entry.1 ∉ identities) =
      registry.filter fun entry => entry.1 ∉ identity :: identities := by
  rw [Fields.erase_eq_filter, List.filter_filter]
  refine List.filter_congr fun entry _ => ?_
  simp [Bool.and_comm]

theorem filterMap_get?_erase (registry : Registry) {identity : String} {identities : List String}
    (h : identity ∉ identities) :
    identities.filterMap (registry.erase identity).get? = identities.filterMap registry.get? :=
  List.filterMap_congr fun _ hm => Fields.get?_erase_of_ne registry (ne_of_mem_of_not_mem hm h)

theorem closes_closeAll (registry : Registry) (store : Store σ) (state : σ) {identities : List String}
    (h : identities.Nodup) :
    registry.Closes identities ((registry.closeAll identities).exchanges store state)
      ((registry.closeAll identities).run store state).1.1 ((registry.closeAll identities).run store state).1.2 := by
  induction identities generalizing registry state with
  | nil => exact ⟨by simp [closeAll], rfl, rfl⟩
  | cons identity identities ih =>
    obtain ⟨hidentity, hrest⟩ := List.nodup_cons.1 h
    cases hget : registry.get? identity with
    | none =>
      rw [closeAll_of_none hget]
      obtain ⟨hleft, hquestions, hfailure⟩ := ih registry state hrest
      refine ⟨?_, ?_, hfailure⟩
      · rw [hleft, ← filter_erase, Fields.erase_of_not_mem ((Fields.get?_eq_none_iff _ _).1 hget)]
      · rw [hquestions, List.filterMap_cons_none hget]
    | some connection =>
      let question : Call := .shutdown connection.session
      obtain ⟨hleft, hquestions, hfailure⟩ :=
        ih (registry.erase identity) (store question state).2 hrest
      rw [closeAll_of_some hget, Dialogue.run_call, Dialogue.exchanges_call, Dialogue.run_bind,
        Dialogue.exchanges_bind]
      constructor
      · rw [← filter_erase]
        exact hleft
      · rw [Dialogue.exchanges_done, List.append_nil, List.map_cons, hquestions,
          filterMap_get?_erase registry hidentity, List.filterMap_cons_some hget, List.map_cons, List.map_cons]
      · rw [Dialogue.exchanges_done, List.append_nil, Dialogue.run_done, hfailure, List.findSome?_cons,
          shutdownFailure?_eq]
        cases closeFailure (store question state).1 <;> rfl

/-- Closing connections tells just their sessions to shut down. -/
theorem perm_sessions (registry : Registry) (hn : registry.names.Nodup) {identities : List String}
    (h : identities.Nodup) :
    ((identities.filterMap registry.get?).map (·.session) ++
      sessions (registry.filter fun entry => entry.1 ∉ identities)).Perm registry.sessions := by
  induction identities generalizing registry with
  | nil => simp
  | cons identity identities ih =>
    obtain ⟨hidentity, hrest⟩ := List.nodup_cons.1 h
    have herase := ih (registry.erase identity) (Fields.names_erase registry identity ▸ hn.filter _) hrest
    rw [filter_erase, filterMap_get?_erase registry hidentity] at herase
    cases hget : registry.get? identity with
    | none =>
      rw [List.filterMap_cons_none hget]
      rwa [Fields.erase_of_not_mem ((Fields.get?_eq_none_iff _ _).1 hget)] at herase
    | some connection =>
      rw [List.filterMap_cons_some hget, List.map_cons, List.cons_append]
      have hall := (Fields.perm_cons_erase hn hget).map fun entry : String × Connection => entry.2.session
      exact (herase.cons _).trans hall

/-! ## Teardown -/

/-- The identities that a teardown is about. -/
def addressed (registry : Registry) (identity : Option String) : List String :=
  match identity with
  | some identity => [identity]
  | none => registry.names

def failureOf (failure : Option StoreError) : Except OperationError Unit :=
  match failure with
  | some e => .error (.store e)
  | none => .ok ()

/-- What a teardown does. -/
structure TearsDown (registry : Registry) (identity : Option String) (store : Store σ) (state : σ) : Prop where
  /-- The connections are closed, and the first failure is reported. -/
  closes : ∃ failure,
    registry.Closes (registry.addressed identity) ((registry.teardown identity).exchanges store state)
      ((registry.teardown identity).run store state).1.1 failure ∧
    ((registry.teardown identity).run store state).1.2 = failureOf failure
  /-- All connections can be closed in any order. -/
  anyOrder : ∀ identities : List String, identities.Perm registry.names →
    registry.Closes identities ((registry.closeAll identities).exchanges store state)
      ((registry.closeAll identities).run store state).1.1 ((registry.closeAll identities).run store state).1.2

theorem teardown_eq (registry : Registry) (identity : Option String) :
    registry.teardown identity = (registry.closeAll (registry.addressed identity)).bind fun closed =>
      .done (closed.1, failureOf closed.2) := by
  refine congrArg (Dialogue.bind _) (funext fun closed => ?_)
  obtain ⟨left, failure⟩ := closed
  cases failure <;> rfl

theorem nodup_addressed (hn : registry.names.Nodup) (identity : Option String) :
    (registry.addressed identity).Nodup := by
  cases identity with
  | none => exact hn
  | some identity => exact List.nodup_singleton identity

theorem tearsDown (hn : registry.names.Nodup) (identity : Option String) :
    registry.TearsDown identity store state where
  closes := by
    rw [teardown_eq, Dialogue.run_bind, Dialogue.exchanges_bind, Dialogue.exchanges_done, List.append_nil]
    exact ⟨_, closes_closeAll registry store state (nodup_addressed hn identity), rfl⟩
  anyOrder identities h := closes_closeAll registry store state (h.nodup_iff.2 hn)

/-! ## Tasks -/

/-- What a task does: it leaves the registry as it is, and only uses the
session of the connection that it names. -/
structure CarriesOut (registry : Registry) (connection name : String) (task : Task) (store : Store σ) (state : σ) :
    Prop where
  registry_eq : ((registry.perform (.carryOut connection name task)).run store state).1.1 = registry
  uses : ∀ exchange ∈ (registry.perform (.carryOut connection name task)).exchanges store state,
    ∃ collection, registry.collection connection name = .ok collection ∧ exchange.question.Uses collection.session

theorem carriesOut (registry : Registry) (connection name : String) (task : Task) (store : Store σ) (state : σ) :
    registry.CarriesOut connection name task store state where
  registry_eq := by
    rw [perform, Dialogue.run_bind]
    rfl
  uses exchange hm := by
    rw [perform, Dialogue.exchanges_bind, Dialogue.exchanges_done, List.append_nil] at hm
    have hwithin : (registry.carryOut connection name task).Within fun question =>
        ∃ collection, registry.collection connection name = .ok collection ∧ question.Uses collection.session := by
      unfold carryOut
      cases hcollection : registry.collection connection name with
      | error e => trivial
      | ok collection => exact (collection.within_carryOut task).mono fun _ h => ⟨collection, rfl, h⟩
    exact hwithin.exchanges hm

/-! ## Steps -/

/-- What a step does. -/
def Performs (registry : Registry) (store : Store σ) (state : σ) : Step → Prop
  | .register config models => registry.Registers config models store state
  | .teardown identity => registry.TearsDown identity store state
  | .carryOut connection name task => registry.CarriesOut connection name task store state

theorem performs (hn : registry.names.Nodup) (step : Step) : registry.Performs store state step := by
  cases step with
  | register config models => exact registers registry config models store state
  | teardown identity => exact tearsDown hn identity
  | carryOut connection name task => exact carriesOut registry connection name task store state

/-- How the sessions and the names of a registry follow from what was there
before. -/
structure Follows (registry left : Registry) (exchanges : List Exchange) (outcomes : List Outcome) : Prop where
  nodup : left.names.Nodup
  names : left.names = outcomes.foldl Outcome.names registry.names
  sessions : (opened exchanges ++ registry.sessions).Perm (closed exchanges ++ left.sessions)

theorem follows_register (hn : registry.names.Nodup) (config : Config) (models : List Model) :
    registry.Follows ((registry.register config models).run store state).1.1
      ((registry.register config models).exchanges store state)
      [⟨.register config models, ((registry.register config models).run store state).1.2⟩] := by
  have hregisters := registers registry config models store state
  by_cases h : ∃ identity connection, registry.Admits config models store state identity connection
  · obtain ⟨identity, connection, h⟩ := h
    obtain ⟨hrun, hopened, hclosed⟩ := hregisters.entered identity connection h
    have hnames : Fields.names (registry ++ [(identity, connection)]) = registry.names ++ [identity] :=
      List.map_append
    refine ⟨?_, ?_, ?_⟩
    · rw [hrun, hnames]
      exact hn.append (List.nodup_singleton identity) (List.disjoint_singleton.2 h.ready.free)
    · rw [hrun, hnames, List.foldl_cons, List.foldl_nil, Outcome.names, Config.identity_of_validate h.ready.valid]
      rfl
    · rw [hrun, hopened, hclosed, sessions, sessions, List.map_append]
      exact List.perm_append_comm
  · have hnot identity connection hadmits := h ⟨identity, connection, hadmits⟩
    obtain ⟨e, hrun⟩ := hregisters.refused hnot
    refine ⟨?_, ?_, ?_⟩
    · rw [hrun]
      exact hn
    · rw [hrun]
      rfl
    · rw [hrun, hregisters.closed_eq hnot]

theorem follows_teardown (hn : registry.names.Nodup) (identity : Option String) :
    registry.Follows ((registry.teardown identity).run store state).1.1
      ((registry.teardown identity).exchanges store state)
      [⟨.teardown identity, ((registry.teardown identity).run store state).1.2⟩] := by
  have htearsDown : registry.TearsDown identity store state := tearsDown hn identity
  obtain ⟨failure, ⟨hleft, hquestions, -⟩, -⟩ := htearsDown.closes
  have hnames : Fields.names (registry.filter fun entry => entry.1 ∉ registry.addressed identity) =
      registry.names.filter fun name => name ∉ registry.addressed identity := by
    rw [Fields.names, Fields.names, List.filter_map]
    rfl
  refine ⟨?_, ?_, ?_⟩
  · rw [hleft, hnames]
    exact hn.filter _
  · rw [hleft, hnames]
    cases identity with
    | none => exact List.filter_eq_nil_iff.2 fun name hm => by simp [addressed, hm]
    | some identity => simp [addressed, Outcome.names]
  · rw [hleft, opened_of_shutdowns hquestions, closed_of_shutdowns hquestions]
    exact (perm_sessions registry hn (nodup_addressed hn identity)).symm

theorem follows_carryOut (hn : registry.names.Nodup) (connection name : String) (task : Task) :
    registry.Follows ((registry.perform (.carryOut connection name task)).run store state).1.1
      ((registry.perform (.carryOut connection name task)).exchanges store state)
      [⟨.carryOut connection name task,
        ((registry.perform (.carryOut connection name task)).run store state).1.2⟩] := by
  obtain ⟨hleft, huses⟩ := carriesOut registry connection name task store state
  refine ⟨?_, ?_, ?_⟩
  · rw [hleft]
    exact hn
  · rw [hleft]
    rfl
  · have hsession exchange hm : ∃ session, Call.Uses session (Exchange.question exchange) :=
      (huses exchange hm).imp' Collection.session fun _ => And.right
    rw [hleft, opened_of_uses hsession, closed_of_uses hsession]

theorem follows_perform (store : Store σ) (state : σ) (hn : registry.names.Nodup) (step : Step) :
    registry.Follows ((registry.perform step).run store state).1.1 ((registry.perform step).exchanges store state)
      [⟨step, ((registry.perform step).run store state).1.2⟩] := by
  cases step with
  | register config models => exact follows_register hn config models
  | teardown identity => exact follows_teardown hn identity
  | carryOut connection name task => exact follows_carryOut hn connection name task

/-! ## Runs -/

open scoped List in
/-- Sessions and names are followed from one step to the next. -/
theorem Follows.trans {middle left : Registry} {front back : List Exchange} {first rest : List Outcome}
    (hfront : registry.Follows middle front first) (hback : middle.Follows left back rest) :
    registry.Follows left (front ++ back) (first ++ rest) where
  nodup := hback.nodup
  names := by rw [hback.names, hfront.names, List.foldl_append]
  sessions := by
    rw [opened_append, closed_append, List.append_assoc, List.append_assoc]
    -- what is opened later is set aside while the sessions before it are accounted for
    calc opened front ++ (opened back ++ registry.sessions)
      _ ~ opened back ++ (opened front ++ registry.sessions) := List.perm_append_comm_assoc ..
      _ ~ opened back ++ (closed front ++ middle.sessions) := hfront.sessions.append_left _
      _ ~ closed front ++ (opened back ++ middle.sessions) := List.perm_append_comm_assoc ..
      _ ~ closed front ++ (closed back ++ left.sessions) := hback.sessions.append_left _

theorem run_performAll_cons (registry : Registry) (step : Step) (steps : List Step) :
    (registry.performAll (step :: steps)).run store state =
      let first := (registry.perform step).run store state
      let rest := (performAll first.1.1 steps).run store first.2
      ((rest.1.1, ⟨step, first.1.2⟩ :: rest.1.2), rest.2) := by
  rw [performAll, Dialogue.run_bind, Dialogue.run_bind]
  rfl

theorem exchanges_performAll_cons (registry : Registry) (step : Step) (steps : List Step) :
    (registry.performAll (step :: steps)).exchanges store state =
      let first := (registry.perform step).run store state
      (registry.perform step).exchanges store state ++ (performAll first.1.1 steps).exchanges store first.2 := by
  rw [performAll, Dialogue.exchanges_bind, Dialogue.exchanges_bind, Dialogue.exchanges_done, List.append_nil]

theorem follows_performAll (store : Store σ) (state : σ) (hn : registry.names.Nodup) (steps : List Step) :
    registry.Follows ((registry.performAll steps).run store state).1.1
      ((registry.performAll steps).exchanges store state) ((registry.performAll steps).run store state).1.2 := by
  induction steps generalizing registry state with
  | nil => exact ⟨hn, rfl, .refl _⟩
  | cons step steps ih =>
    rw [run_performAll_cons, exchanges_performAll_cons]
    have hstep := follows_perform store state hn step
    exact hstep.trans (ih _ hstep.nodup)

/-- Steps are performed where the steps before them have led. -/
theorem getElem?_outcomes_performAll (registry : Registry) (front : List Step) (step : Step) (back : List Step) :
    ((registry.performAll (front ++ step :: back)).run store state).1.2[front.length]? =
      let before := (registry.performAll front).run store state
      some ⟨step, ((perform before.1.1 step).run store before.2).1.2⟩ := by
  induction front generalizing registry state with
  | nil =>
    rw [List.nil_append, run_performAll_cons]
    rfl
  | cons first front ih =>
    rw [List.cons_append, run_performAll_cons, run_performAll_cons]
    exact ih ..

theorem map_step_performAll (registry : Registry) (steps : List Step) :
    ((registry.performAll steps).run store state).1.2.map (·.step) = steps := by
  induction steps generalizing registry state with
  | nil => rfl
  | cons step steps ih =>
    rw [run_performAll_cons]
    exact congrArg (step :: ·) (ih _)

/-- In every run that begins without connections, the registered identities are
those of the successful registrations that no teardown came after, and the
sessions that were opened are those that were closed and those that are
registered. Every step does what it should where the steps before it have led. -/
theorem sessions_are_closed_or_registered (store : Store σ) (state : σ) (steps : List Step) :
    let run := (performAll [] steps).run store state
    let exchanges := (performAll [] steps).exchanges store state
    let registry := run.1.1
    let outcomes := run.1.2
    outcomes.map (·.step) = steps ∧ registry.names = outcomes.foldl Outcome.names [] ∧ registry.names.Nodup ∧
    (opened exchanges).Perm (closed exchanges ++ registry.sessions) ∧
    (opened exchanges).length = (closed exchanges).length + registry.length ∧
    ∀ front step back, steps = front ++ step :: back →
      let run := (performAll [] front).run store state
      let before := run.1.1
      outcomes[front.length]? = some ⟨step, ((before.perform step).run store run.2).1.2⟩ ∧
      before.Performs store run.2 step := by
  have hnil : Fields.names ([] : Registry) |>.Nodup := List.nodup_nil
  have hfollows := follows_performAll store state hnil steps
  have hsessions := hfollows.sessions
  rw [sessions, List.map_nil, List.append_nil] at hsessions
  refine ⟨map_step_performAll [] steps, hfollows.names, hfollows.nodup, hsessions, ?_, ?_⟩
  · rw [hsessions.length_eq, List.length_append, sessions, List.length_map]
  · rintro front step back rfl
    have hbefore := follows_performAll store state hnil front
    exact ⟨getElem?_outcomes_performAll [] front step back, performs hbefore.nodup step⟩

/-- One of two registrations succeeds, and the other opens no session. The
session is given up though it does not shut down in time. -/
theorem sessions_are_closed_or_registered_sample :
    let slow : StoreError := { kind := .timeout, detail := "slow" }
    let store : ScriptedStore := { script := { shutdownFailure := some slow } }
    let session : Session := { id := 0, keyspace := none }
    let main : Config := { identity := some "main" }
    let front : List Step := [.register main [.sample], .register main [],
      .carryOut "main" "User" (.perform (.count (.document .null)))]
    let steps := front ++ [.teardown none]
    let before := (performAll [] front).run ScriptedStore.answer store
    let after := (performAll [] steps).run ScriptedStore.answer store
    let exchanges := (performAll [] steps).exchanges ScriptedStore.answer store
    before.1.1.names = ["main"] ∧ after.1.1.names = [] ∧ (opened exchanges).Perm [session] ∧
      closed exchanges = [session] ∧
      ∃ result, after.1.2[3]? = some ⟨.teardown none, result⟩ ∧ result.isOk = false := by
  intro slow store session main front steps before after exchanges
  have hclosed : closed exchanges = [session] := by decide +kernel
  obtain ⟨-, hbefore, -⟩ := sessions_are_closed_or_registered ScriptedStore.answer store front
  obtain ⟨-, hafter, -, hsessions, -, hsteps⟩ := sessions_are_closed_or_registered ScriptedStore.answer store steps
  obtain ⟨houtcome, -⟩ := hsteps front (.teardown none) [] rfl
  refine ⟨hbefore.trans (by decide +kernel), hafter.trans (by decide +kernel), ?_, hclosed,
    _, houtcome, by decide +kernel⟩
  have hleft : sessions after.1.1 = [] := by decide +kernel
  rwa [hclosed, hleft, List.append_nil] at hsessions

end Registry
end WideColumn
