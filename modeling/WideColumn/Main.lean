import Std.Time.DateTime.Timestamp
import WideColumn.Preview.Printer
/-!
# Command line

`widecolumn [--format json|cql] COMMAND MODEL [OPTIONS]` prints the
statements that a command compiles to for the model in a file.
-/

namespace WideColumn.Cli

/-- The arguments of the program: words, and options with their values. -/
structure Arguments where
  words : List String := []
  options : Fields String := []

/-- An argument of the form `--name=value`, cut at its first equals sign. -/
def assignment? (argument : String) : Option (String × String) :=
  (Text.splitFirst '=' argument.toList).map fun (name, value) => (String.ofList name, String.ofList value)

/-- Sorts arguments into words and options; an option without a value or
given twice is refused. -/
def Arguments.read? : List String → Option Arguments
  | [] => some {}
  | argument :: rest => do
    if !argument.startsWith "--" then
      let arguments ← read? rest
      return { arguments with words := argument :: arguments.words }
    else
      let (name, value, arguments) ←
        match assignment? argument, rest with
        | some (name, value), rest => (read? rest).map (name, value, ·)
        | none, value :: rest => (read? rest).map (argument, value, ·)
        | none, [] => none
      if arguments.options.has name then none
      else return { arguments with options := (name, value) :: arguments.options }

def usage : String :=
  "usage: widecolumn [--format json|cql] COMMAND MODEL\n" ++
    "  ddl | migrate [--mode safe|alter|drop] | select [--criteria JSON] | count [--criteria JSON]\n" ++
    "  insert --record JSON | update [--criteria JSON] --values JSON | delete [--criteria JSON]"

def optionNames : String → List String
  | "migrate" => ["--mode"]
  | "select" | "count" | "delete" => ["--criteria"]
  | "insert" => ["--record"]
  | "update" => ["--criteria", "--values"]
  | _ => []

/-- The command of a name and options. An option that the command does not
have is refused. -/
def command? (name : String) (options : Fields String) : Option Command :=
  if options.names.any fun option => option ∉ "--format" :: optionNames name then none
  else
    match name with
    | "ddl" => some .ddl
    | "migrate" => ((MigrationMode.read ((options.get? "--mode").getD "safe")).toOption).map .migrate
    | "select" => some (.select (options.get? "--criteria"))
    | "count" => some (.count (options.get? "--criteria"))
    | "insert" => (options.get? "--record").map .insert
    | "update" => (options.get? "--values").map (.update (options.get? "--criteria"))
    | "delete" => some (.delete (options.get? "--criteria"))
    | _ => none

def format? (options : Fields String) : Option OutputFormat :=
  OutputFormat.ofName? ((options.get? "--format").getD "json")

/-- A number read from bytes. -/
def number (bytes : ByteArray) : Nat := bytes.toList.foldl (fun n byte => 256 * n + byte.toNat) 0

/-- The count of 100 nanoseconds from 1582-10-15 to 1970-01-01. -/
def epoch : Int := 122192928000000000

/-- A new identifier. The lowest bit of the first byte of the node marks it
as random. -/
def newUuid : IO Uuid := do
  let now ← Std.Time.Timestamp.now
  let clock ← IO.getRandomBytes 2
  let node ← IO.getRandomBytes 6
  let ticks := (now.toNanosecondsSinceUnixEpoch.val / 100 + epoch).toNat
  return Uuid.timeBased ticks (number clock) (number node ||| 0x10000000000)

def readFile (path : String) : IO (Except PreviewError String) := do
  try
    return .ok (← IO.FS.readFile path)
  catch e =>
    return .error (.unreadable path e.toString)

/-- Prints the preview of a command for a model in a file. -/
def run (format : OutputFormat) (path : String) (command : Command) : IO UInt32 := do
  let text ← readFile path
  let fresh ← newUuid
  match text.bind Preview.readSchema |>.bind fun schema => Preview.ofCommand schema fresh command with
  | .ok preview =>
    IO.println (preview.print format)
    return 0
  | .error e =>
    IO.eprintln ("Error: " ++ e.message)
    return 1

end WideColumn.Cli

open WideColumn.Cli in
def main (arguments : List String) : IO UInt32 := do
  match Arguments.read? arguments with
  | some { words := [name, path], options } =>
    match command? name options, format? options with
    | some command, some format => run format path command
    | _, _ =>
      IO.eprintln usage
      return 2
  | _ =>
    IO.eprintln usage
    return 2
