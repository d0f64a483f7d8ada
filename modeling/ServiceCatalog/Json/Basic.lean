import ServiceCatalog.Decimal.Binary64

/-!
# JSON values

A value keeps the fields of an object in the order they were written, repeated keys included. The general form of a
value (`Json.sorted`) has the fields of every object in the order of their keys, and of fields with one key the last.
-/

namespace ServiceCatalog

/-- A number is whole, in the range of 64 bits, or binary floating point. -/
inductive Json.Number where
  | integer (value : Int)
  | binary (value : Decimal.Binary64)
deriving DecidableEq, Repr

/-- A JSON value. `unreadable` is well formed text that stands for no value: a number out of range, a text with half of
a surrogate pair, or a container nested too deep. It can be skipped over, and nothing else. -/
inductive Json where
  | null
  | bool (value : Bool)
  | number (value : Json.Number)
  | string (value : String)
  | array (items : List Json)
  | object (fields : List (String × Json))
  | unreadable
deriving Repr, BEq, Inhabited

namespace Json

/-- A field of an object. -/
abbrev Field := String × Json

/-- A whole number. -/
def integer (n : Int) : Json := .number (.integer n)

/-- A natural number. -/
def natural (n : Nat) : Json := integer n

/-- An array of texts. -/
def strings (values : List String) : Json := .array (values.map .string)

/-- The value of a key: that of the last field with the key. -/
def lookup? (key : String) (fields : List Field) : Option Json :=
  fields.foldl (fun found f => if f.1 = key then some f.2 else found) none

/-- The text of a value that is a text. -/
def text? : Json → Option String
  | .string s => some s
  | _ => none

/-- The value of a key, if the value is an object that has it. -/
def get? (key : String) : Json → Option Json
  | .object fields => lookup? key fields
  | _ => none

/-- Puts a field into fields that are in the order of their keys, in place of one with the same key. -/
def putField (field : Field) : List Field → List Field
  | [] => [field]
  | f :: rest =>
    if field.1 = f.1 then field :: rest
    else if field.1 < f.1 then field :: f :: rest
    else f :: putField field rest

/-- Fields in the order of their keys, the last one of each key. -/
def orderFields (fields : List Field) : List Field := fields.foldl (fun sorted f => putField f sorted) []

mutual

/-- The general form of a value: the fields of every object in the order of their keys, without repetitions. -/
def sorted : Json → Json
  | .array items => .array (sortedItems items)
  | .object fields => .object (orderFields (sortedFields fields))
  | value => value

@[inherit_doc sorted] def sortedItems : List Json → List Json
  | [] => []
  | item :: rest => sorted item :: sortedItems rest

@[inherit_doc sorted] def sortedFields : List Field → List Field
  | [] => []
  | (key, value) :: rest => (key, sorted value) :: sortedFields rest

end

mutual

/-- Whether a value has no part that stands for no value. -/
def readable : Json → Bool
  | .array items => readableItems items
  | .object fields => readableFields fields
  | .unreadable => false
  | _ => true

@[inherit_doc readable] def readableItems : List Json → Bool
  | [] => true
  | item :: rest => readable item && readableItems rest

@[inherit_doc readable] def readableFields : List Field → Bool
  | [] => true
  | (_, value) :: rest => readable value && readableFields rest

end

/-- The general form of a value that is readable throughout. -/
def general? (value : Json) : Option Json := if value.readable then some value.sorted else none

end Json

end ServiceCatalog
