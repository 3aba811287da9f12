import WideColumn.Criteria.Basic
import WideColumn.Query.Error
import WideColumn.Schema.Basic
import WideColumn.Statement
/-!
# Conditions in statements

A clause is a list of comparisons of columns, joined with `AND`. Names are
resolved, and the bounds of a field are checked: an upper and a lower bound
at most, each a string or a number.
-/

namespace WideColumn

/-- How a column is compared. -/
inductive Operator where
  | equal | less | lessOrEqual | greater | greaterOrEqual | among
deriving DecidableEq

/-- The side on which an operator bounds. -/
inductive BoundSide where
  | upper | lower
deriving DecidableEq

namespace Operator

/-- The operator that a token or its alias stands for. -/
def ofToken? (token : String) : Option Operator :=
  match token with
  | "<" | "lessThan" => some .less
  | "<=" | "lessThanOrEqual" => some .lessOrEqual
  | ">" | "greaterThan" => some .greater
  | ">=" | "greaterThanOrEqual" => some .greaterOrEqual
  | _ => none

def token : Operator → String
  | .equal => "="
  | .less => "<"
  | .lessOrEqual => "<="
  | .greater => ">"
  | .greaterOrEqual => ">="
  | .among => "IN"

/-- The side on which an operator bounds, if it does. -/
def side? : Operator → Option BoundSide
  | .less | .lessOrEqual => some .upper
  | .greater | .greaterOrEqual => some .lower
  | .equal | .among => none

end Operator

structure Comparison where
  column : String
  operator : Operator
  operand : Json

/-- The text of a comparison, with a placeholder for the operand. -/
def Comparison.text (comparison : Comparison) : String :=
  match comparison.operator with
  | .among => quoteName comparison.column ++ " IN (?)"
  | operator => quoteName comparison.column ++ " " ++ operator.token ++ " ?"

/-- Comparisons that must all hold. -/
abbrev Clause := List Comparison

namespace Clause

def text (clause : Clause) : String := " AND ".intercalate (clause.map Comparison.text)

/-- The operands in the order of their placeholders. -/
def params (clause : Clause) : List Json := clause.map (·.operand)

end Clause

/-- The operators and operands of the bounds on a field, next to the
operators and tokens of bounds before. -/
def readBounds (field : String) (seen : List (Operator × String)) :
    List (String × Json) → Except CompileError (List (Operator × Json))
  | [] => .ok []
  | (token, operand) :: rest =>
    match Operator.ofToken? token with
    | none => .error (.unsupportedOperator field token)
    | some operator =>
      match seen.find? (·.1.side? = operator.side?) with
      | some (_, first) => .error (.conflictingOperators field first token)
      | none =>
        match operand with
        | .string _ | .number _ =>
          (readBounds field (seen ++ [(operator, token)]) rest).map ((operator, operand) :: ·)
        | operand => .error (.invalidOperand field operator.token operand)

namespace Schema

variable (schema : Schema)

def resolve (name : String) : Except CompileError Column :=
  match schema.find? name with
  | some column => .ok column
  | none => .error (.unknownField name)

/-- The comparisons that a condition on a field makes. -/
def compare (name : String) (condition : Condition) : Except CompileError Clause := do
  let column ← schema.resolve name
  match condition with
  | .equals value => return [⟨column.name, .equal, value⟩]
  | .among values => return [⟨column.name, .among, .array values⟩]
  | .within bounds =>
    let bounds ← readBounds name [] bounds
    return bounds.map fun (operator, operand) => ⟨column.name, operator, operand⟩

mutual

def clause : Filter → Except CompileError Clause
  | .field name condition => schema.compare name condition
  | .all children => clauseOfAll children

/-- The clauses of several filters, one behind the other. -/
def clauseOfAll : List Filter → Except CompileError Clause
  | [] => .ok []
  | child :: children => do
    let first ← clause child
    let rest ← clauseOfAll children
    return first ++ rest

end

end Schema
end WideColumn
