import WideColumn.Json.Basic
import WideColumn.Migration.Mode
/-!
# Configurations of connections

A configuration names a connection and says where the store is, how to
authenticate and what a migration may do. It is read from an object, or from
a list of its settings in a fixed order.
-/

namespace WideColumn

/-- What is wrong with a configuration, or with a session for what is asked
of it. -/
inductive ConfigError where
  | identityMissing
  | contactPointsMissing (identity : String)
  | credentialsConflict
  | keyspaceMissing

def ConfigError.message : ConfigError → String
  | .identityMissing => "connection is missing an identity"
  | .contactPointsMissing identity =>
    "configuration error: connection '" ++ identity ++ "' has no contact points"
  | .credentialsConflict => "configuration error: user/password and authProvider are mutually exclusive"
  | .keyspaceMissing => "configuration error: session is not bound to a keyspace"

inductive Credentials where
  | none
  | password (user : String) (password : Option String)
  | provider (name : String)

structure Config where
  identity : Option String := none
  contactPoints : List String := ["127.0.0.1"]
  keyspace : Option String := none
  user : Option String := none
  password : Option String := none
  authProvider : Option String := none
  migrate : MigrationMode := .safe

namespace Config

def credentials (config : Config) : Except ConfigError Credentials :=
  match config.user, config.authProvider with
  | some _, some _ => .error .credentialsConflict
  | some user, none => .ok (.password user config.password)
  | none, some provider => .ok (.provider provider)
  | none, none => .ok .none

/-- The identity of a configuration that can be connected with. -/
def validate (config : Config) : Except ConfigError String := do
  match config.identity with
  | none | some "" => throw .identityMissing
  | some identity =>
    if config.contactPoints.isEmpty then throw (.contactPointsMissing identity)
    let _ ← config.credentials
    return identity

/-! ## Reading and writing -/

def readText? : Json → Option (Option String)
  | .null => some none
  | .string text => some (some text)
  | _ => none

def readTexts? : Json → Option (List String)
  | .array items => items.mapM fun item => match item with
    | .string text => some text
    | _ => none
  | _ => none

/-- The setting of the migration mode: its name, or an object with null under
its name. -/
def readMode? : Json → Option MigrationMode
  | .string name => MigrationMode.ofName? name
  | .object [(name, .null)] => MigrationMode.ofName? name
  | _ => none

def setting? {α : Type} (read? : Json → Option α) (default : α) : Option Json → Option α
  | none => some default
  | some value => read? value

/-- The configuration with given settings. The keyspace goes by either of two
names, but not by both. -/
def ofFields? (fields : Record) : Option Config := do
  let identity ← setting? readText? none (fields.get? "identity")
  let contactPoints ← setting? readTexts? ["127.0.0.1"] (fields.get? "contactPoints")
  let keyspace ←
    match fields.get? "keyspace", fields.get? "database" with
    | some _, some _ => none
    | keyspace, database => setting? readText? none (keyspace.or database)
  let user ← setting? readText? none (fields.get? "user")
  let password ← setting? readText? none (fields.get? "password")
  let authProvider ← setting? readText? none (fields.get? "authProvider")
  let migrate ← setting? readMode? .safe (fields.get? "migrate")
  return { identity, contactPoints, keyspace, user, password, authProvider, migrate }

def settings : List String :=
  ["identity", "contactPoints", "keyspace", "user", "password", "authProvider", "migrate"]

def read? : Json → Option Config
  | .object fields => ofFields? fields
  | .array items => if items.length ≤ settings.length then ofFields? (settings.zip items) else none
  | _ => none

def writeText (text : Option String) : Json := (text.map Json.string).getD .null

def document (config : Config) : Record :=
  [("identity", writeText config.identity), ("contactPoints", .array (config.contactPoints.map .string)),
    ("keyspace", writeText config.keyspace), ("user", writeText config.user),
    ("password", writeText config.password), ("authProvider", writeText config.authProvider),
    ("migrate", .string config.migrate.name)]

end Config
end WideColumn
