import Mathlib.Data.List.Nodup
import WideColumn.Proofs.Connection.Task
import WideColumn.Proofs.Success
/-!
# Registrations

A connection is entered in the registry exactly if its configuration and its
models are in order, its session opens and all of its tables can be migrated.
`Registers` says what else is done for a registration, by the point at which it
fails: a session that was opened for it is closed again.
-/

namespace WideColumn

open Operation

theorem repeated?_eq_none_iff {seen names : List String} :
    repeated? seen names = none ↔ names.Nodup ∧ ∀ name ∈ names, name ∉ seen := by
  induction names generalizing seen with
  | nil => simp [repeated?]
  | cons name names ih =>
    rw [repeated?]
    split
    · next hm => simp [hm]
    · next hm =>
      rw [ih, List.nodup_cons]
      constructor
      · rintro ⟨hnodup, hseen⟩
        refine ⟨⟨fun h => hseen name h List.mem_cons_self, hnodup⟩, fun other ho => ?_⟩
        rcases List.mem_cons.1 ho with rfl | ho
        · exact hm
        · exact fun h => hseen other ho (List.mem_cons_of_mem _ h)
      · rintro ⟨⟨hfirst, hnodup⟩, hseen⟩
        refine ⟨hnodup, fun other ho h => ?_⟩
        rcases List.mem_cons.1 h with rfl | h
        · exact hfirst ho
        · exact hseen other (List.mem_cons_of_mem _ ho) h

theorem Config.identity_of_validate {config : Config} {identity : String} (h : config.validate = .ok identity) :
    config.identity = some identity := by
  unfold validate at h
  split at h
  · cases h
  · cases h
  · next name hname hidentity =>
    rw [hidentity]
    split at h
    · cases h
    · obtain ⟨credentials, -, h⟩ := bind_eq_ok_iff.1 h
      cases h
      rfl

variable {σ : Type} {store : Store σ} {state : σ}

/-! ## Migrations -/

/-- Whether the tables of schemas can be migrated one after the other. -/
def Migrates (store : Store σ) (session : Session) (mode : MigrationMode) : List Schema → σ → Prop
  | [], _ => True
  | schema :: schemas, state =>
    let migration := (Collection.migrate { schema, session } mode).run
    (∃ steps, (migration.run store state).1 = .ok steps) ∧
      Migrates store session mode schemas (migration.run store state).2

theorem result_migrateAll_iff {session : Session} {mode : MigrationMode} {schemas : List Schema} :
    result (Registration.migrateAll session mode schemas) store state = .ok () ↔
      Migrates store session mode schemas state := by
  induction schemas generalizing state with
  | nil => exact iff_of_true rfl trivial
  | cons schema schemas ih =>
    change (Dialogue.run store (Dialogue.bind (Collection.migrate { schema, session } mode).run _) state).1 = _ ↔ _
    rw [Dialogue.run_bind, Migrates]
    cases (Dialogue.run store (Collection.migrate { schema, session } mode).run state).1 with
    | error e => exact iff_of_false nofun fun h => nomatch h.1
    | ok steps => exact ih.trans (iff_and_self.2 fun _ => ⟨steps, rfl⟩)

theorem exists_error_of_not_migrates {session : Session} {mode : MigrationMode} {schemas : List Schema}
    (h : ¬Migrates store session mode schemas state) :
    ∃ e, result (Registration.migrateAll session mode schemas) store state = .error e := by
  cases hresult : result (Registration.migrateAll session mode schemas) store state with
  | error e => exact ⟨e, rfl⟩
  | ok _ => exact absurd (result_migrateAll_iff.1 hresult) h

namespace Registry

variable {registry : Registry} {config : Config} {models : List Model} {identity : String} {schemas : List Schema}

/-! ## Conditions -/

/-- What a connection needs before it is connected. -/
structure Ready (registry : Registry) (config : Config) (models : List Model) (identity : String)
    (schemas : List Schema) : Prop where
  valid : config.validate = .ok identity
  free : identity ∉ registry.names
  compiled : models.mapM Schema.compile = .ok schemas
  distinct : (schemas.map (·.identity)).Nodup

/-- What a connection needs to be entered, and what is entered then. -/
structure Admits (registry : Registry) (config : Config) (models : List Model) (store : Store σ) (state : σ)
    (identity : String) (connection : Connection) : Prop where
  ready : registry.Ready config models identity connection.schemas
  configured : connection.config = config
  connected : (store (.connect config) state).1 = .ok connection.session
  migrated : Migrates store connection.session config.migrate connection.schemas (store (.connect config) state).2

theorem check_eq_ok_iff :
    registry.check config models = .ok (identity, schemas) ↔ registry.Ready config models identity schemas := by
  constructor
  · intro h
    obtain ⟨name, hvalid, h⟩ := bind_eq_ok_iff.1 h
    split at h
    · cases h
    · next hfree =>
      obtain ⟨compiled, hcompiled, h⟩ := bind_eq_ok_iff.1 h
      split at h
      · cases h
      · next hdistinct =>
        cases h
        refine ⟨mapError_eq_ok_iff.1 hvalid, ?_, mapError_eq_ok_iff.1 hcompiled,
          (repeated?_eq_none_iff.1 hdistinct).1⟩
        rw [← Fields.get?_eq_none_iff]
        simpa [Fields.has] using hfree
  · rintro ⟨hvalid, hfree, hcompiled, hdistinct⟩
    have hhas : registry.has identity = false := by
      rw [Fields.has, (Fields.get?_eq_none_iff registry identity).2 hfree]
      rfl
    have hrepeated : repeated? [] (schemas.map (·.identity)) = none :=
      repeated?_eq_none_iff.2 ⟨hdistinct, fun _ _ => List.not_mem_nil⟩
    refine bind_eq_ok_iff.2 ⟨identity, mapError_eq_ok_iff.2 hvalid, ?_⟩
    rw [hhas, if_neg Bool.false_ne_true]
    refine bind_eq_ok_iff.2 ⟨schemas, mapError_eq_ok_iff.2 hcompiled, ?_⟩
    rw [hrepeated]
    rfl

/-! ## Stages of a registration -/

theorem register_of_error {e : OperationError} (h : registry.check config models = .error e) :
    registry.register config models = .done (registry, .error e) := by
  unfold register connect
  rw [h]
  rfl

theorem register_of_ready (h : registry.Ready config models identity schemas) :
    registry.register config models = .call (.connect config) fun answer =>
      match answer with
      | .ok session => registry.complete { identity, connection := { config, session, schemas } }
      | .error e => .done (registry, .error (.store e)) := by
  unfold register connect
  rw [check_eq_ok_iff.2 h]
  refine congrArg (Dialogue.call (.connect config)) (funext fun answer => ?_)
  cases answer <;> rfl

theorem run_register_of_unconnected (h : registry.Ready config models identity schemas) {e : StoreError}
    (hconnect : (store (.connect config) state).1 = .error e) :
    ((registry.register config models).run store state).1 = (registry, .error (.store e)) := by
  rw [register_of_ready h, Dialogue.run_call, hconnect]
  rfl

section

variable {session : Session}

theorem run_register_of_connected (h : registry.Ready config models identity schemas)
    (hconnect : (store (.connect config) state).1 = .ok session) :
    (registry.register config models).run store state =
      (registry.complete { identity, connection := { config, session, schemas } }).run store
        (store (.connect config) state).2 := by
  rw [register_of_ready h, Dialogue.run_call, hconnect]

theorem exchanges_register_of_connected (h : registry.Ready config models identity schemas)
    (hconnect : (store (.connect config) state).1 = .ok session) :
    (registry.register config models).exchanges store state =
      ⟨.connect config, .ok session⟩ ::
        (registry.complete { identity, connection := { config, session, schemas } }).exchanges store
          (store (.connect config) state).2 := by
  rw [register_of_ready h, Dialogue.exchanges_call, hconnect]

end

section

variable {connection : Connection}

/-- A registration whose tables are migrated is entered. -/
theorem complete_of_migrates (hfree : identity ∉ registry.names)
    (h : Migrates store connection.session connection.config.migrate connection.schemas state) :
    ((registry.complete { identity, connection }).run store state).1 =
        (registry ++ [(identity, connection)], .ok ()) ∧
      opened ((registry.complete { identity, connection }).exchanges store state) = [] ∧
      closed ((registry.complete { identity, connection }).exchanges store state) = [] := by
  have hhas : registry.has identity = false := by
    rw [Fields.has, (Fields.get?_eq_none_iff registry identity).2 hfree]
    rfl
  have hresult : result (Registration.migrate { identity, connection }) store state = .ok () :=
    result_migrateAll_iff.2 h
  have hwithin := Registration.within_migrate { identity, connection }
  unfold result at hresult
  unfold complete
  simp only [bind]
  rw [Dialogue.run_bind, Dialogue.exchanges_bind, hresult]
  dsimp only
  rw [hhas, if_neg Bool.false_ne_true, ← Fields.insert_of_not_mem connection hfree]
  refine ⟨rfl, ?_, ?_⟩
  · rw [opened_append, hwithin.opened_eq]
    rfl
  · rw [closed_append, hwithin.closed_eq]
    rfl

/-- The session of a registration that cannot be migrated is closed. -/
theorem complete_of_not_migrates (registry : Registry) (identity : String) (connection : Connection)
    (h : ¬Migrates store connection.session connection.config.migrate connection.schemas state) :
    ∃ e front answer, ((registry.complete { identity, connection }).run store state).1 = (registry, .error e) ∧
      (registry.complete { identity, connection }).exchanges store state =
        front ++ [⟨.shutdown connection.session, answer⟩] ∧
      opened front = [] ∧ closed front = [] := by
  obtain ⟨e, hresult⟩ : ∃ e, result (Registration.migrate { identity, connection }) store state = .error e :=
    exists_error_of_not_migrates h
  have hwithin := Registration.within_migrate { identity, connection }
  unfold result at hresult
  unfold complete
  simp only [bind]
  rw [Dialogue.run_bind, Dialogue.exchanges_bind, hresult]
  exact ⟨e, _, _, rfl, rfl, hwithin.opened_eq, hwithin.closed_eq⟩

end

/-! ## Registrations as a whole -/

/-- What is done for a registration. -/
structure Registers (registry : Registry) (config : Config) (models : List Model) (store : Store σ) (state : σ) :
    Prop where
  /-- A connection that has what it needs is entered, and nothing is closed. -/
  entered : ∀ identity connection, registry.Admits config models store state identity connection →
    ((registry.register config models).run store state).1 = (registry ++ [(identity, connection)], .ok ()) ∧
    opened ((registry.register config models).exchanges store state) = [connection.session] ∧
    closed ((registry.register config models).exchanges store state) = []
  /-- Otherwise the registration fails, and the registry stays as it is. -/
  refused : (∀ identity connection, ¬registry.Admits config models store state identity connection) →
    ∃ e, ((registry.register config models).run store state).1 = (registry, .error e)
  /-- Nothing is asked of the store for a connection that is not in order. -/
  unready : (∀ identity schemas, ¬registry.Ready config models identity schemas) →
    (registry.register config models).exchanges store state = []
  unconnected : ∀ e, (∃ identity schemas, registry.Ready config models identity schemas) →
    (store (.connect config) state).1 = .error e →
    (registry.register config models).exchanges store state = [⟨.connect config, .error e⟩]
  /-- The session of a connection whose tables cannot be migrated is closed
  last. -/
  abandoned : ∀ identity schemas session, registry.Ready config models identity schemas →
    (store (.connect config) state).1 = .ok session →
    ¬Migrates store session config.migrate schemas (store (.connect config) state).2 →
    ∃ front answer, (registry.register config models).exchanges store state =
        front ++ [⟨.shutdown session, answer⟩] ∧
      opened front = [session] ∧ closed front = []

theorem registers (registry : Registry) (config : Config) (models : List Model) (store : Store σ) (state : σ) :
    registry.Registers config models store state where
  entered identity connection h := by
    obtain ⟨hready, hconfig, hconnect, hmigrates⟩ := h
    subst hconfig
    rw [run_register_of_connected hready hconnect, exchanges_register_of_connected hready hconnect]
    obtain ⟨hrun, hopened, hclosed⟩ := complete_of_migrates hready.free hmigrates
    rw [opened_cons, closed_cons, hopened, hclosed]
    exact ⟨hrun, rfl, rfl⟩
  refused hnot := by
    cases hcheck : registry.check config models with
    | error e => exact ⟨e, by rw [register_of_error hcheck, Dialogue.run_done]⟩
    | ok ready =>
      obtain ⟨identity, schemas⟩ := ready
      have hready := check_eq_ok_iff.1 hcheck
      cases hconnect : (store (.connect config) state).1 with
      | error e => exact ⟨.store e, by rw [run_register_of_unconnected hready hconnect]⟩
      | ok session =>
        have hmigrates h := hnot identity { config, session, schemas } ⟨hready, rfl, hconnect, h⟩
        rw [run_register_of_connected hready hconnect]
        obtain ⟨e, -, -, hrun, -⟩ := complete_of_not_migrates registry identity { config, session, schemas } hmigrates
        exact ⟨e, hrun⟩
  unready hnot := by
    cases hcheck : registry.check config models with
    | error e => rw [register_of_error hcheck, Dialogue.exchanges_done]
    | ok ready => exact absurd (check_eq_ok_iff.1 hcheck) (hnot ready.1 ready.2)
  unconnected e hready hconnect := by
    obtain ⟨identity, schemas, hready⟩ := hready
    rw [register_of_ready hready]
    rw [Dialogue.exchanges_call, hconnect]
    rfl
  abandoned identity schemas session hready hconnect hmigrates := by
    obtain ⟨-, front, answer, -, hexchanges, hopened, hclosed⟩ :=
      complete_of_not_migrates registry identity { config, session, schemas } hmigrates
    rw [exchanges_register_of_connected hready hconnect, hexchanges]
    refine ⟨_ :: front, answer, rfl, ?_, ?_⟩
    · rw [opened_cons, hopened]
      rfl
    · rw [closed_cons, hclosed]
      rfl

/-- What is opened for a registration that fails is closed. -/
theorem Registers.closed_eq (h : registry.Registers config models store state)
    (hnot : ∀ identity connection, ¬registry.Admits config models store state identity connection) :
    closed ((registry.register config models).exchanges store state) =
      opened ((registry.register config models).exchanges store state) := by
  by_cases hready : ∃ identity schemas, registry.Ready config models identity schemas
  · cases hconnect : (store (.connect config) state).1 with
    | error e =>
      rw [h.unconnected e hready hconnect]
      rfl
    | ok session =>
      obtain ⟨identity, schemas, hready⟩ := hready
      obtain ⟨front, answer, hexchanges, hopened, hclosed⟩ := h.abandoned identity schemas session hready hconnect
        fun hmigrates => hnot identity { config, session, schemas } ⟨hready, rfl, hconnect, hmigrates⟩
      rw [hexchanges, opened_append, closed_append, hopened, hclosed]
      rfl
  · rw [h.unready fun identity schemas hr => hready ⟨identity, schemas, hr⟩]
    rfl

end Registry
end WideColumn
