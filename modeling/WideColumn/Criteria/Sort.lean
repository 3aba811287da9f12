import WideColumn.Criteria.Error
import WideColumn.Text.Blank
/-!
# Orderings

An ordering names fields with directions. It is read from an object of
directions, or from a text of parts with commas between: in each part the
first word is a field and the second word, if any, its direction.
-/

namespace WideColumn

inductive Direction where
  | ascending | descending
deriving DecidableEq

namespace Direction

def keyword : Direction → String
  | .ascending => "ASC"
  | .descending => "DESC"

/-- The direction that a word stands for, without regard to ASCII case. -/
def ofWord? (word : List Char) : Option Direction :=
  match String.ofList (Text.lowerAscii word) with
  | "asc" | "1" => some .ascending
  | "desc" | "-1" => some .descending
  | _ => none

def readWord (field : String) (word : List Char) : Except SortError Direction :=
  match ofWord? word with
  | some direction => .ok direction
  | none => .error (.badKeyword field (String.ofList word))

/-- The direction of a field: one or minus one, true for ascending, or a
word. -/
def read (field : String) : Json → Except SortError Direction
  | .number n =>
    if n.signed? = some 1 then .ok .ascending
    else if n.signed? = some (-1) then .ok .descending
    else .error (.badDirection field (.number n))
  | .bool true => .ok .ascending
  | .bool false => .ok .descending
  | .string word => readWord field word.toList
  | direction => .error (.badDirection field direction)

end Direction

structure Ordering where
  field : String
  direction : Direction
deriving DecidableEq

namespace Ordering

/-- The ordering that one part of a text describes. -/
def readPart (part : List Char) : Except SortError Ordering :=
  match Text.words part with
  | [] => .ok ⟨"", .ascending⟩
  | [field] => .ok ⟨String.ofList field, .ascending⟩
  | field :: word :: _ => (Direction.readWord (String.ofList field) word).map (⟨String.ofList field, ·⟩)

/-- The parts of a text that are not blank. -/
def parts (text : String) : List (List Char) :=
  ((Text.pieces ',' text.toList).map Text.trim).filter (· ≠ [])

def read : Json → Except SortError (List Ordering)
  | .null => .ok []
  | .object fields => fields.mapM fun (field, direction) => (Direction.read field direction).map (⟨field, ·⟩)
  | .string text => (parts text).mapM readPart
  | value => .error (.badShape value)

end Ordering
end WideColumn
