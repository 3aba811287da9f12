import WideColumn.Connection.Config
import WideColumn.Criteria.Error
import WideColumn.Query.Error
import WideColumn.Store.Error
/-!
# Failures of operations

An operation fails because it cannot be compiled, because the store fails, or
because of what it is run on.
-/

namespace WideColumn

inductive OperationError where
  | config (cause : ConfigError)
  | identityTaken (identity : String)
  | connectionUnknown (identity : String)
  | collectionUnknown (connection collection : String)
  | compile (cause : CompileError)
  | request (cause : RequestError)
  | store (cause : StoreError)
  | receiverGone

def OperationError.message : OperationError → String
  | .config cause => cause.message
  | .identityTaken identity => "connection '" ++ identity ++ "' is already registered"
  | .connectionUnknown identity => "invalid connection '" ++ identity ++ "'"
  | .collectionUnknown connection collection =>
    "collection '" ++ collection ++ "' is not registered with connection '" ++ connection ++ "'"
  | .compile cause => cause.message
  | .request cause => "protocol error: " ++ cause.message
  | .store cause => "store error: " ++ cause.message
  | .receiverGone => "stream receiver dropped"

end WideColumn
