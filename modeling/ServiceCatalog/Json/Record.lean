import ServiceCatalog.Json.Basic

/-!
# Records in JSON

A record is written as an object or as an array of its fields in their order. In an object fields may stand in any
order and unknown ones are skipped, but none of the record's own may be repeated; an array may end early but not be too
long. Which fields may be left out is for each record to say.
-/

namespace ServiceCatalog.Json

/-- The values of a key among fields, in their order. -/
def valuesOf (key : String) (fields : List Field) : List Json :=
  fields.filterMap fun f => if f.1 = key then some f.2 else none

/-- The only value of a key: `some none` if there is none, and nothing if there are several. -/
def single? (key : String) (fields : List Field) : Option (Option Json) :=
  match valuesOf key fields with
  | [] => some none
  | [value] => some (some value)
  | _ => none

/-- Items padded with absent ones to a length, unless there are more. -/
def padded? : Nat → List Json → Option (List (Option Json))
  | n, [] => some (List.replicate n none)
  | 0, _ :: _ => none
  | n + 1, item :: rest => (padded? n rest).map (some item :: ·)

/-- The values of a record's fields, in the order of the given names. -/
def record? (names : List String) : Json → Option (List (Option Json))
  | .object fields => names.mapM fun name => single? name fields
  | .array items => padded? names.length items
  | _ => none

/-- A truth value. -/
def bool? : Json → Option Bool
  | .bool b => some b
  | _ => none

/-- A whole number in the signed range of 64 bits. -/
def int64? : Json → Option Int64
  | .number (.integer n) => if Int64.minValue.toInt ≤ n ∧ n ≤ Int64.maxValue.toInt then some (.ofInt n) else none
  | _ => none

/-- A list of values of one type. -/
def list? {α : Type} (item? : Json → Option α) : Json → Option (List α)
  | .array items => items.mapM item?
  | _ => none

/-- A value that may be `null`. -/
def nullable? {α : Type} (value? : Json → Option α) : Json → Option (Option α)
  | .null => some none
  | value => (value? value).map some

/-- A field that has to be there. -/
def required? {α : Type} (value? : Json → Option α) (field : Option Json) : Option α := field.bind value?

/-- A field that has a value of its own when it is left out. -/
def withDefault? {α : Type} (default : α) (value? : Json → Option α) : Option Json → Option α
  | none => some default
  | some value => value? value

end ServiceCatalog.Json
