import WideColumn.Collection.Table
/-!
# The registry of connections

Connections are registered under their identities, each with a session and
the schemas of its collections. A registration is checked, connected,
migrated and then entered; one that fails on the way gives its session back
and leaves the registry as it is.
-/

namespace WideColumn

structure Connection where
  config : Config
  session : Session
  /-- The schemas of the collections, which differ in their identities. -/
  schemas : List Schema

/-- The registered connections by their identities. -/
abbrev Registry := Fields Connection

/-- A registration that has a session, but is not entered yet. -/
structure Registration where
  identity : String
  connection : Connection

/-- The first name that occurs again behind one of the names seen before. -/
def repeated? (seen : List String) : List String → Option String
  | [] => none
  | name :: names => if name ∈ seen then some name else repeated? (name :: seen) names

/-- Closes a session whatever the store says. -/
def Session.abandon (session : Session) : Dialogue Unit := .call (.shutdown session) fun _ => .done ()

namespace Registration

def migrateAll (session : Session) (mode : MigrationMode) : List Schema → Operation Unit
  | [] => return
  | schema :: schemas => do
    let _ ← Collection.migrate { schema, session } mode
    migrateAll session mode schemas

def migrate (registration : Registration) : Operation Unit :=
  let connection := registration.connection
  migrateAll connection.session connection.config.migrate connection.schemas

end Registration

namespace Registry

variable (registry : Registry)

/-! ## Registering -/

/-- The identity and the schemas of a connection that may be registered. -/
def check (config : Config) (models : List Model) : Except OperationError (String × List Schema) := do
  let identity ← config.validate.mapError .config
  if registry.has identity then throw (.identityTaken identity)
  let schemas ← (models.mapM Schema.compile).mapError fun cause => .compile (.schema cause)
  match repeated? [] (schemas.map (·.identity)) with
  | some model => throw (.compile (.schema (.modelTwice model identity)))
  | none => return (identity, schemas)

/-- Opens a session for a connection that may be registered. -/
def connect (config : Config) (models : List Model) : Operation Registration := do
  let (identity, schemas) ← Operation.ofExcept (registry.check config models)
  let session ← ExceptT.mk (.call (.connect config) fun answer => .done (answer.mapError .store))
  return { identity, connection := { config, session, schemas } }

/-- Migrates the tables of a registration and enters it, unless its identity
was taken meanwhile. -/
def complete (registration : Registration) : Dialogue (Registry × Except OperationError Unit) := do
  match ← registration.migrate.run with
  | .error e =>
    registration.connection.session.abandon
    return (registry, .error e)
  | .ok _ =>
    if registry.has registration.identity then
      registration.connection.session.abandon
      return (registry, .error (.identityTaken registration.identity))
    return (registry.insert registration.identity registration.connection, .ok ())

def finish (opened : Except OperationError Registration) : Dialogue (Registry × Except OperationError Unit) :=
  match opened with
  | .ok registration => registry.complete registration
  | .error e => .done (registry, .error e)

/-- Registers a connection with collections for models. -/
def register (config : Config) (models : List Model) : Dialogue (Registry × Except OperationError Unit) := do
  let opened ← (registry.connect config models).run
  registry.finish opened

/-- Registers two connections at a time: both are opened before the first is
completed. -/
def registerBoth (first second : Config × List Model) :
    Dialogue (Registry × Except OperationError Unit × Except OperationError Unit) := do
  let firstOpened ← (registry.connect first.1 first.2).run
  let secondOpened ← (registry.connect second.1 second.2).run
  let (registry, firstResult) ← registry.finish firstOpened
  let (registry, secondResult) ← finish registry secondOpened
  return (registry, firstResult, secondResult)

/-! ## Teardown -/

/-- The failure of an attempt to close a session, if it is one. -/
def closeFailure (answer : Except StoreError Unit) : Option StoreError :=
  match answer with
  | .error e => if e.isAbsent then none else some e
  | .ok _ => none

/-- Takes connections out of the registry and closes their sessions.
Identities that are not registered are passed over. -/
def closeAll (registry : Registry) : List String → Dialogue (Registry × Option StoreError)
  | [] => .done (registry, none)
  | identity :: identities =>
    match registry.get? identity with
    | none => closeAll registry identities
    | some connection =>
      .call (.shutdown connection.session) fun answer => do
        let (registry, failure) ← closeAll (registry.erase identity) identities
        return (registry, (closeFailure answer).or failure)

/-- Closes one connection, or all of them. Of several failures the first is
reported. -/
def teardown (identity : Option String) : Dialogue (Registry × Except OperationError Unit) := do
  let (registry, failure) ← closeAll registry (match identity with
    | some identity => [identity]
    | none => registry.names)
  match failure with
  | some e => return (registry, .error (.store e))
  | none => return (registry, .ok ())

/-! ## Looking up -/

def collection (connection name : String) : Except OperationError Collection :=
  match registry.get? connection with
  | none => .error (.connectionUnknown connection)
  | some found =>
    match found.schemas.find? (·.identity = name) with
    | none => .error (.collectionUnknown connection name)
    | some schema => .ok { schema, session := found.session }

end Registry
end WideColumn
