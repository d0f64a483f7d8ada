import ServiceCatalog.Decimal.Shortest
import ServiceCatalog.Json.Basic
import ServiceCatalog.Yaml.Scalar

/-!
# Written YAML

Values in block form. Items of a list in a mapping stand below their key, everything else that is nested is indented by
two columns, and what follows a dash starts on the same line.
-/

namespace ServiceCatalog.Yaml

open ServiceCatalog.Text ServiceCatalog.Decimal

/-- Numbers have no sign before a positive exponent. -/
def floatStyle : FloatStyle := ⟨[]⟩

/-- Where a value stands. -/
inductive Place where
  /-- The value is the whole document. -/
  | root
  /-- The value follows a key and its colon in a block at a column. -/
  | afterKey (column : Nat)
  /-- The value follows a dash, a question mark or a lone colon at a column. -/
  | afterMark (column : Nat)

/-- The column of lines that belong to a scalar at a place. -/
def Place.scalarColumn : Place → Nat
  | root => 2
  | afterKey column => column + 2
  | afterMark column => column + 2

/-- The column of the keys of a mapping at a place. -/
def Place.mappingColumn : Place → Nat
  | root => 0
  | afterKey column => column + 2
  | afterMark column => column + 2

/-- The column of the dashes of a list at a place. -/
def Place.listColumn : Place → Nat
  | root => 0
  | afterKey column => column
  | afterMark column => column + 2

/-- The start of a new line at a column. -/
def newLine (column : Nat) : List Char := '\n' :: List.replicate column ' '

/-- What stands between a place and the first line of a block at a column. -/
def Place.lead (place : Place) (column : Nat) : List Char :=
  match place with
  | root => []
  | afterKey _ => newLine column
  | afterMark _ => [' ']

/-- What stands between a place and a scalar. -/
def Place.gap : Place → List Char
  | root => []
  | _ => [' ']

/-- A written part with the next one on a line of its own. A part written line by line may have ended its line. -/
def onNextLine (column : Nat) (part next : List Char) : List Char :=
  part ++ (if endsWith isBreak part then List.replicate column ' ' else newLine column) ++ next

/-- Written parts, each on a line of its own. -/
def stack (column : Nat) : List (List Char) → List Char
  | [] => []
  | [part] => part
  | part :: rest => onNextLine column part (stack column rest)

/-- A written number. -/
def writeNumber : Json.Number → List Char
  | .integer n => signedDigits n
  | .binary x => floatStyle.write x

/-- A key with its value, of which `value` gives the written form at a place. -/
def writeField (column : Nat) (key : String) (value : Place → List Char) : List Char :=
  if isSimpleKey key then writeScalar (column + 2) true key ++ ':' :: value (.afterKey column)
  else
    onNextLine column ('?' :: ' ' :: writeScalar (column + 2) false key) (':' :: value (.afterMark column))

mutual

/-- A value at a place. -/
def writeValue (place : Place) : Json → List Char
  | .null => place.gap ++ "null".toList
  | .unreadable => place.gap ++ "null".toList
  | .bool true => place.gap ++ "true".toList
  | .bool false => place.gap ++ "false".toList
  | .number n => place.gap ++ writeNumber n
  | .string s => place.gap ++ writeScalar place.scalarColumn false s
  | .array [] => place.gap ++ ['[', ']']
  | .array (item :: rest) =>
    place.lead place.listColumn ++ stack place.listColumn (writeItems place.listColumn (item :: rest))
  | .object [] => place.gap ++ ['\x7b', '\x7d']
  | .object (field :: rest) =>
    place.lead place.mappingColumn ++ stack place.mappingColumn (writeFields place.mappingColumn (field :: rest))

/-- The items of a list, each behind a dash at a column. -/
def writeItems (column : Nat) : List Json → List (List Char)
  | [] => []
  | item :: rest => ('-' :: writeValue (.afterMark column) item) :: writeItems column rest

/-- The fields of a mapping whose keys stand at a column. -/
def writeFields (column : Nat) : List Json.Field → List (List Char)
  | [] => []
  | (key, value) :: rest => writeField column key (fun place => writeValue place value) :: writeFields column rest

end

/-- A value as a document. -/
def document (value : Json) : String :=
  let cs := writeValue .root value
  String.ofList (if endsWith isBreak cs then cs else cs ++ ['\n'])

end ServiceCatalog.Yaml
