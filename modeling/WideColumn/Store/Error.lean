/-!
# Failures of the store

What the store answers when it cannot do what it is asked.
-/

namespace WideColumn

inductive StoreErrorKind where
  | notFound | alreadyExists | invalid | unavailable | timeout | other
deriving DecidableEq

def StoreErrorKind.text : StoreErrorKind → String
  | .notFound => "not found"
  | .alreadyExists => "already exists"
  | .invalid => "invalid request"
  | .unavailable => "unavailable"
  | .timeout => "timeout"
  | .other => "error"

structure StoreError where
  kind : StoreErrorKind
  /-- The words of the store. -/
  detail : String
deriving DecidableEq

namespace StoreError

def message (error : StoreError) : String := error.kind.text ++ ": " ++ error.detail

/-- Whether the failure says that its target does not exist. -/
def isAbsent (error : StoreError) : Bool := error.kind = .notFound

end StoreError
end WideColumn
