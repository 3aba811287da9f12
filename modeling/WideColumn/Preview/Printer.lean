import WideColumn.Preview.Basic
/-!
# Printing previews

A preview is printed as a document, or as the statements themselves with
comments in front of them.
-/

namespace WideColumn

inductive OutputFormat where
  | json | cql
deriving DecidableEq

def OutputFormat.ofName? (name : String) : Option OutputFormat :=
  match name with
  | "json" => some .json
  | "cql" => some .cql
  | _ => none

namespace Preview

def stepDocument (step : PreviewStep) : Json :=
  .object [("step", .string step.role.name), ("kind", .string step.statement.kind.name),
    ("cql", .string step.statement.text), ("params", .array step.statement.params),
    ("allowFiltering", .bool step.statement.allowFiltering)]

def document (preview : Preview) : Json :=
  .object ([("plan", .string preview.plan.name), ("statements", .array (preview.steps.map stepDocument))] ++
    (preview.record.map fun record => ("record", Json.object record)).toList)

/-- The line that shows the values of a statement, if it has any. -/
def paramsLine (statement : Statement) : String :=
  if statement.params.isEmpty then "" else "-- params: " ++ (Json.array statement.params).text ++ "\n"

/-- A statement with its role and its values in comments. -/
def stepText (step : PreviewStep) : String :=
  "-- " ++ step.role.name ++ "\n" ++ paramsLine step.statement ++ step.statement.text ++ "\n"

/-- The statements of a preview with blank lines between. -/
def text (preview : Preview) : String :=
  match preview.steps with
  | [] => "-- nothing to run\n"
  | steps => "\n".intercalate (steps.map stepText)

def print (preview : Preview) : OutputFormat → String
  | .json => preview.document.indented
  | .cql => preview.text

end Preview
end WideColumn
