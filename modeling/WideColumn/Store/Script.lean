import WideColumn.Store.Dialogue
/-!
# A store that answers from a script

This store keeps a log of what it is asked, and answers with the replies of a
script, each reply once. All connections share one session.
-/

namespace WideColumn

inductive LogEntry where
  | execute (statement : Statement)
  | batch (statements : List Statement)
  | stream (statement : Statement)
  | shutdown

structure Script where
  /-- Replies to statements one after the other; then there are no rows. -/
  replies : List (Except StoreError (List Row)) := []
  /-- Replies to batches one after the other; then they succeed. -/
  batches : List (Except StoreError Unit) := []
  /-- The items of every stream. Without them a stream takes the next reply
  to a statement. -/
  items : Option (List (Except StoreError Row)) := none
  /-- The failure of every attempt to connect. -/
  connectFailure : Option StoreError := none
  /-- The failure of every attempt to shut down. -/
  shutdownFailure : Option StoreError := none

structure ScriptedStore where
  keyspace : Option String := none
  script : Script := {}
  log : List LogEntry := []
  /-- How many sessions were opened. -/
  connects : Nat := 0
  /-- Whether the session was ever shut down. -/
  closed : Bool := false

namespace ScriptedStore

/-- The shared session. -/
def session (store : ScriptedStore) : Session := { id := 0, keyspace := store.keyspace }

def note (store : ScriptedStore) (entry : LogEntry) : ScriptedStore :=
  { store with log := store.log ++ [entry] }

def nextReply (store : ScriptedStore) : Except StoreError (List Row) × ScriptedStore :=
  match store.script.replies with
  | [] => (.ok [], store)
  | reply :: replies => (reply, { store with script := { store.script with replies } })

def nextBatch (store : ScriptedStore) : Except StoreError Unit × ScriptedStore :=
  match store.script.batches with
  | [] => (.ok (), store)
  | reply :: batches => (reply, { store with script := { store.script with batches } })

/-- Success, or a failure that the script asks for. -/
def failing (failure : Option StoreError) : Except StoreError Unit :=
  match failure with
  | none => .ok ()
  | some e => .error e

/-- The answer to a call. Only the first shutdown is noted. -/
def answer : Store ScriptedStore := fun question store =>
  match question with
  | .connect _ =>
    match store.script.connectFailure with
    | some e => (.error e, store)
    | none => (.ok store.session, { store with connects := store.connects + 1 })
  | .execute _ statement => (store.note (.execute statement)).nextReply
  | .batch _ statements => (store.note (.batch statements)).nextBatch
  | .stream _ statement =>
    match store.script.items with
    | some items => (.ok items, store.note (.stream statement))
    | none =>
      let (reply, store) := (store.note (.stream statement)).nextReply
      (reply.map fun rows => rows.map .ok, store)
  | .shutdown _ =>
    let noted := if store.closed then store else store.note .shutdown
    (failing store.script.shutdownFailure, { noted with closed := true })

end ScriptedStore
end WideColumn
