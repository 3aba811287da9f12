import WideColumn.Json.Printer
/-!
# What is wrong with criteria

The reasons for which criteria or an ordering cannot be read, each with its
wording.
-/

namespace WideColumn

/-- Why a condition or a count of criteria is refused. -/
inductive CriteriaError where
  | notAnObject
  | andNotAnArray
  | disjunction
  | memberNotScalar (field : String) (member : Json)
  | boundsMissing (field : String)
  | valueMissing (field : String)
  | countNegative (count : String)
  | countNotANumber (count : String) (value : Json)

def CriteriaError.message : CriteriaError → String
  | .notAnObject => "the where clause must be an object"
  | .andNotAnArray => "'and' expects an array of objects"
  | .disjunction => "disjunctions are not supported by the store"
  | .memberNotScalar field member =>
    "membership list for '" ++ field ++ "' contains a non-scalar value: " ++ member.text
  | .boundsMissing field => "empty operator object for '" ++ field ++ "'"
  | .valueMissing field =>
    "value for attribute '" ++ field ++ "' must be a scalar, an array or an operator object"
  | .countNegative count => "'" ++ count ++ "' must be a non-negative integer"
  | .countNotANumber count value => "'" ++ count ++ "' must be a non-negative integer, got " ++ value.text

inductive SortError where
  | badDirection (field : String) (direction : Json)
  | badKeyword (field keyword : String)
  | badShape (value : Json)

def SortError.message : SortError → String
  | .badDirection field direction => "bad direction " ++ direction.text ++ " for '" ++ field ++ "'"
  | .badKeyword field keyword => "bad direction '" ++ keyword ++ "' for '" ++ field ++ "'"
  | .badShape value => "unsupported sort shape: " ++ value.text

inductive RequestError where
  | criteria (cause : CriteriaError)
  | sort (cause : SortError)

/-- The wording of a refusal, with what it is about. -/
def RequestError.message : RequestError → String
  | .criteria cause => "invalid criteria: " ++ cause.message
  | .sort cause => "invalid sort: " ++ cause.message

end WideColumn
