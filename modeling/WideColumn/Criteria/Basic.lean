import WideColumn.Criteria.Sort
import WideColumn.Json.Basic
/-!
# Criteria

Criteria say which records are meant: a filter, which is a tree of
conjunctions over conditions on fields, an ordering, and counts of records to
skip and to return. `Filter.fields` is the view in which nesting is gone.
-/

namespace WideColumn

inductive Condition where
  | equals (value : Json)
  | among (values : List Json)
  /-- Bounds by operator token, in the order of the caller. -/
  | within (bounds : List (String × Json))
deriving Inhabited

/-- A filter: a condition on a field, or several filters that must all hold. -/
inductive Filter where
  | field (name : String) (condition : Condition)
  | all (children : List Filter)
deriving Inhabited

namespace Filter

mutual

/-- The conditions of a filter from left to right. -/
def fields : Filter → List (String × Condition)
  | .field name condition => [(name, condition)]
  | .all children => fieldsOfAll children

def fieldsOfAll : List Filter → List (String × Condition)
  | [] => []
  | child :: children => fields child ++ fieldsOfAll children

end

mutual

def isEmpty : Filter → Bool
  | .field _ _ => false
  | .all children => areEmpty children

/-- Whether none of several filters has a condition. -/
def areEmpty : List Filter → Bool
  | [] => true
  | child :: children => isEmpty child && areEmpty children

end

end Filter

/-- Which records are meant, in which order, and how many of them. Without a
filter it is all of them. -/
structure Criteria where
  filter : Option Filter := none
  limit : Option UInt64 := none
  skip : Option UInt64 := none
  sort : List Ordering := []

namespace Criteria

/-- Sets the filter; one without conditions is dropped. -/
def withFilter (criteria : Criteria) (filter : Filter) : Criteria :=
  { criteria with filter := if filter.isEmpty then none else some filter }

def isUnfiltered (criteria : Criteria) : Bool := criteria.filter.isNone

/-- The conditions of the filter. -/
def fields (criteria : Criteria) : List (String × Condition) := (criteria.filter.map Filter.fields).getD []

/-- What is left of results when the first ones are skipped and the number of
the others is limited. -/
def page {α : Type} (criteria : Criteria) (results : List α) : List α :=
  let rest := results.drop ((criteria.skip.map UInt64.toNat).getD 0)
  match criteria.limit with
  | some limit => rest.take limit.toNat
  | none => rest

end Criteria
end WideColumn
