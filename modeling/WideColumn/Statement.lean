import WideColumn.Json.Basic
import WideColumn.Text.Blank
/-!
# Statements

A statement is text with positional placeholders, and the values bound to
them. `placeholders` reads the text as the store does: a question mark inside
quotes is no placeholder. A batch puts several statements into one.
-/

namespace WideColumn

/-- What a statement does. A schema statement creates, alters or drops. -/
inductive StatementKind where
  | select | insert | update | delete | batch | schema
deriving DecidableEq

namespace StatementKind

def name : StatementKind → String
  | .select => "SELECT"
  | .insert => "INSERT"
  | .update => "UPDATE"
  | .delete => "DELETE"
  | .batch => "BATCH"
  | .schema => "SCHEMA"

/-- Whether statements of a kind write rows. -/
def isMutation : StatementKind → Bool
  | .insert | .update | .delete | .batch => true
  | .select | .schema => false

/-- The kind of a statement text, by its first word, without regard to ASCII
case. -/
def ofText (text : String) : StatementKind :=
  match String.ofList (Text.upperAscii ((Text.words text.toList).headD [])) with
  | "SELECT" => .select
  | "INSERT" => .insert
  | "UPDATE" => .update
  | "DELETE" => .delete
  | "BEGIN" => .batch
  | _ => .schema

end StatementKind

structure Statement where
  kind : StatementKind
  text : String
  params : List Json := []
  /-- Whether the store is allowed to scan rows for the condition. -/
  allowFiltering : Bool := false

namespace Statement

def ddl (text : String) : Statement := { kind := .schema, text }

def ofText (text : String) (params : List Json) : Statement :=
  { kind := StatementKind.ofText text, text, params }

/-- The placeholders in a text that starts inside the given quotes, or
outside of quotes. -/
def countPlaceholders : Option Char → List Char → Nat
  | _, [] => 0
  | some quote, c :: rest => countPlaceholders (if c = quote then none else some quote) rest
  | none, c :: rest =>
    if c = '"' ∨ c = '\'' then countPlaceholders (some c) rest
    else if c = '?' then countPlaceholders none rest + 1
    else countPlaceholders none rest

/-- The number of placeholders outside of quotes. -/
def placeholders (statement : Statement) : Nat := countPlaceholders none statement.text.toList

/-! ## Batches -/

def trimSemicolons (text : String) : String :=
  String.ofList (text.toList.reverse.dropWhile (· == ';')).reverse

def batchLine (statement : Statement) : String := "  " ++ trimSemicolons statement.text ++ ";\n"

/-- Several statements as one, with the values of all of them in order. -/
def ofBatch (statements : List Statement) : Statement :=
  { kind := .batch
    text := "BEGIN BATCH\n" ++ String.join (statements.map batchLine) ++ "APPLY BATCH;"
    params := statements.flatMap (·.params) }

end Statement

/-! ## Quoted names -/

def quoteName (name : String) : String := "\"" ++ name ++ "\""

def quoteNames (names : List String) : String := ", ".intercalate (names.map quoteName)

end WideColumn
