import WideColumn.Query.Clause
import WideColumn.Schema.Definition
/-!
# Reading statements

Criteria that fix every key column by equality name one row: they pin the
key, and the statement asks for just that row. All other criteria become a
statement with a condition, an ordering and a limit; where there is a
condition, the store is allowed to filter.
-/

namespace WideColumn

/-- Values of all key columns, in key order. -/
abbrev PinnedKey := List (Column × Json)

/-- What is left of a list when an entry is taken out: the last entry comes to its place. -/
def swapRemove {α : Type} (items : List α) (index : Nat) : List α :=
  match items.getLast? with
  | some last => (items.set index last).dropLast
  | none => []

namespace PinnedKey

/-- The first entry for the column of a name, and the others. -/
def takeOut? (found : PinnedKey) (name : String) : Option ((Column × Json) × PinnedKey) :=
  (found.findIdx? (·.1.name = name)).bind fun index =>
    found[index]?.map fun entry => (entry, swapRemove found index)

/-- The entries for columns in the order of these, each taken out of those that
are left. -/
def inOrder (found : PinnedKey) : List Column → PinnedKey
  | [] => []
  | column :: columns =>
    match found.takeOut? column.name with
    | some (entry, left) => entry :: inOrder left columns
    | none => inOrder found columns

def clause (key : PinnedKey) : Clause := key.map fun (column, value) => ⟨column.name, .equal, value⟩

def record (key : PinnedKey) : Record := Fields.ofEntries (key.map fun (column, value) => (column.attr, value))

end PinnedKey

def maxCount : Nat := UInt64.size - 1

/-- The number of rows to ask for, when those to skip are asked for as well. -/
def Criteria.window (criteria : Criteria) : Option Nat :=
  match criteria.limit, criteria.skip with
  | some limit, some skip => some (min (limit.toNat + skip.toNat) maxCount)
  | limit, _ => limit.map UInt64.toNat

namespace Schema

variable (schema : Schema)

/-- Collects values of distinct key columns from conditions; nothing if a
condition gives none. -/
def collectKey (found : PinnedKey) : List (String × Condition) → Except CompileError (Option PinnedKey)
  | [] => .ok (some found)
  | (name, condition) :: rest => do
    let column ← schema.resolve name
    match condition with
    | .equals value =>
      if !schema.isKey column || found.any (·.1.name = column.name) then return none
      else collectKey (found ++ [(column, value)]) rest
    | _ => return none

/-- The key that criteria pin, if they are equalities on all key columns and
nothing else. -/
def pinnedKey (criteria : Criteria) : Except CompileError (Option PinnedKey) :=
  match criteria.filter with
  | none => .ok none
  | some filter =>
    if filter.fields.length ≠ schema.keyColumns.length then .ok none
    else
      (schema.collectKey [] filter.fields).map fun found => found.map (·.inOrder schema.keyColumns)

def orderText (ordering : Ordering) : Except CompileError String :=
  (schema.resolve ordering.field).map fun column => quoteName column.name ++ " " ++ ordering.direction.keyword

def whereClause (criteria : Criteria) : Except CompileError Clause :=
  match criteria.filter with
  | none => .ok []
  | some filter => schema.clause filter

def keyedStatement (kind : StatementKind) (head : String) (key : PinnedKey) (params : List Json) : Statement :=
  { kind, text := head ++ " WHERE " ++ key.clause.text ++ ";", params := params ++ key.clause.params }

/-- A statement that reads the rows that criteria mean, with an ordering and
a limit for criteria that do not pin the key. -/
def query (head : String) (criteria : Criteria) (sort : List Ordering) (limit : Option Nat) :
    Except CompileError Statement := do
  match ← schema.pinnedKey criteria with
  | some key => return keyedStatement .select head key []
  | none =>
    let clause ← schema.whereClause criteria
    let order ← sort.mapM schema.orderText
    let whereText := if clause.isEmpty then "" else " WHERE " ++ clause.text
    let orderText := if order.isEmpty then "" else " ORDER BY " ++ ", ".intercalate order
    let limitText := match limit with
      | some n => " LIMIT " ++ String.ofList (Numeral.ofNat n)
      | none => ""
    let filterText := if clause.isEmpty then "" else " ALLOW FILTERING"
    return {
      kind := .select
      text := head ++ whereText ++ orderText ++ limitText ++ filterText ++ ";"
      params := clause.params
      allowFiltering := !clause.isEmpty
    }

/-- The statement that reads every column of the rows that criteria mean.
Skipped rows are read as well. -/
def select (criteria : Criteria) : Except CompileError Statement :=
  let head := "SELECT " ++ schema.projection ++ " FROM " ++ schema.table
  schema.query head criteria criteria.sort criteria.window

/-- The statement that counts the rows that criteria mean, up to their limit. -/
def count (criteria : Criteria) : Except CompileError Statement :=
  schema.query ("SELECT COUNT(*) FROM " ++ schema.table) criteria [] (criteria.limit.map UInt64.toNat)

/-- The statement that reads the keys of all rows that a filter holds for. -/
def selectKeys (criteria : Criteria) : Except CompileError Statement :=
  let keys := quoteNames (schema.keyColumns.map (·.name))
  schema.query ("SELECT " ++ keys ++ " FROM " ++ schema.table) criteria [] none

end Schema
end WideColumn
