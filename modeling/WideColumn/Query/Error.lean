import WideColumn.Native.Writing
import WideColumn.Schema.Error
/-!
# What is wrong with a request

The reasons for which no statement is made of a request, each with its wording.
-/

namespace WideColumn

inductive ValueError where
  | unconvertible (attr : String) (failure : Unconvertible)
  | nothingToUpdate
  | keyColumnMissing (column : String)

def ValueError.message : ValueError → String
  | .unconvertible name failure => "attribute '" ++ name ++ "': " ++ failure.message
  | .nothingToUpdate => "update without values"
  | .keyColumnMissing column => "selected row lacks key column '" ++ column ++ "'"

inductive CompileError where
  | schema (cause : SchemaError)
  | unknownField (name : String)
  | conflictingOperators (field first second : String)
  | immutableKey (name : String)
  | missingKey (attr : String)
  | unsupportedOperator (field token : String)
  | invalidOperand (field operator : String) (operand : Json)
  | invalidValue (cause : ValueError)

def CompileError.message : CompileError → String
  | .schema cause => "schema error: " ++ cause.message
  | .unknownField name => "unknown field '" ++ name ++ "'"
  | .conflictingOperators field first second =>
    "mutually exclusive operators '" ++ first ++ "' and '" ++ second ++ "' on '" ++ field ++ "'"
  | .immutableKey name => "key attribute '" ++ name ++ "' cannot be assigned"
  | .missingKey name => "missing key attribute '" ++ name ++ "' in the insert request"
  | .unsupportedOperator field token => "unsupported operator '" ++ token ++ "' on '" ++ field ++ "'"
  | .invalidOperand field operator operand =>
    "invalid operand " ++ operand.text ++ " for '" ++ operator ++ "' on '" ++ field ++ "'"
  | .invalidValue cause => "invalid value: " ++ cause.message

end WideColumn
