import WideColumn.Criteria.Basic
/-!
# Reading criteria

Criteria come as a value of the primary key, a list of such values, an object
of conditions, or an envelope that holds the conditions under `where` next to
`limit`, `skip` and `sort`. In an object of conditions `and` holds nested
objects; every other name is a field.
-/

namespace WideColumn

/-- The names that make an object an envelope. -/
def Criteria.envelopeNames : List String := ["where", "limit", "skip", "sort"]

def Condition.read (field : String) : Json → Except CriteriaError Condition
  | .null => .error (.valueMissing field)
  | .array members =>
    match members.find? (!·.isScalar) with
    | some member => .error (.memberNotScalar field member)
    | none => .ok (.among members)
  | .object [] => .error (.boundsMissing field)
  | .object bounds => .ok (.within bounds)
  | scalar => .ok (.equals scalar)

namespace Filter

mutual

def read : Json → Except CriteriaError Filter
  | .object fields => (readFields fields).map .all
  | _ => .error .notAnObject

def readFields : List (String × Json) → Except CriteriaError (List Filter)
  | [] => .ok []
  | (name, value) :: rest => do
    let child ←
      if name = "and" then
        match value with
        | .array items => (readAll items).map .all
        | _ => .error .andNotAnArray
      else if name = "or" then .error .disjunction
      else (Condition.read name value).map (.field name)
    let children ← readFields rest
    return child :: children

def readAll : List Json → Except CriteriaError (List Filter)
  | [] => .ok []
  | item :: items => do
    let child ← read item
    let children ← readAll items
    return child :: children

end

end Filter

namespace Criteria

/-- A count of an envelope; absent and null mean none. -/
def readCount (name : String) (envelope : Record) : Except CriteriaError (Option UInt64) :=
  match envelope.get? name with
  | none | some .null => .ok none
  | some (.number n) =>
    match n.unsigned? with
    | some count => .ok (some (UInt64.ofNat count))
    | none => .error (.countNegative name)
  | some value => .error (.countNotANumber name value)

def readWhere (envelope : Record) : Except CriteriaError Criteria :=
  match envelope.get? "where" with
  | none | some .null => .ok {}
  | some value => (Filter.read value).map ({} : Criteria).withFilter

def readSort (envelope : Record) : Except SortError (List Ordering) :=
  Ordering.read ((envelope.get? "sort").getD .null)

def readEnvelope (envelope : Record) : Except RequestError Criteria := do
  let criteria ← (readWhere envelope).mapError .criteria
  let limit ← (readCount "limit" envelope).mapError .criteria
  let skip ← (readCount "skip" envelope).mapError .criteria
  let sort ← (readSort envelope).mapError .sort
  return { criteria with limit, skip, sort }

/-- The criteria of a document. A scalar or a list is about the given key. -/
def read (key : String) : Json → Except RequestError Criteria
  | .null => .ok {}
  | .object fields =>
    if envelopeNames.any (Fields.has fields) then readEnvelope fields
    else ((Filter.read (.object fields)).map ({} : Criteria).withFilter).mapError .criteria
  | value =>
    ((Condition.read key value).map fun condition => ({} : Criteria).withFilter (.field key condition)).mapError
      .criteria

end Criteria
end WideColumn
