/-!
# Values of a configuration file

Tables, lists and plain values, each with the place where it begins. Places are counted from the end of the text. How a
table came about decides what may still be added to it.
-/

namespace ServiceCatalog.Toml

/-- How a table came about. -/
inductive Origin where
  /-- Written in braces: nothing is added any more. -/
  | inline
  /-- Named by a header. -/
  | header
  /-- Passed through by a header that names a table inside. -/
  | implied
  /-- Passed through by a dotted key. -/
  | dotted
deriving DecidableEq, Repr

/-- A value. Of dates, times and numbers with a fraction nothing is kept. -/
inductive Value where
  | text (place : Nat) (value : String)
  | integer (place : Nat) (value : Int)
  | real (place : Nat)
  | truth (place : Nat) (value : Bool)
  | moment (place : Nat)
  /-- A list, written as such or made up of tables with headers in double brackets. -/
  | array (place : Nat) (ofTables : Bool) (items : List Value)
  | table (place : Nat) (origin : Origin) (fields : List (String × Value))
deriving Repr, Inhabited

/-- Where a value begins. -/
def Value.place : Value → Nat
  | text place _ => place
  | integer place _ => place
  | real place => place
  | truth place _ => place
  | moment place => place
  | array place _ _ => place
  | table place _ _ => place

/-- Names with their values. -/
abbrev Fields := List (String × Value)

/-- Fields in the order of their names. -/
def ordered (fields : Fields) : Fields := fields.mergeSort fun a b => a.1 ≤ b.1

/-- What is wrong with a text, and where. -/
structure Fault where
  place : Nat
  text : String
deriving DecidableEq, Repr

/-- A part of a dotted key. -/
structure Key where
  place : Nat
  name : String
deriving DecidableEq, Repr

/-- Puts a value under a name in place of the one that is there. -/
def replace (name : String) (value : Value) : Fields → Fields
  | [] => []
  | f :: rest => if f.1 = name then (name, value) :: rest else f :: replace name value rest

/-- A key that is there already. -/
def duplicate (key : Key) : Fault := ⟨key.place, "duplicate key"⟩

/-- A key that leads into something that is no table, or no open one. -/
def closed (key : Key) : Fault := ⟨key.place, "cannot extend a value with a key"⟩

/-- Changes the fields that keys lead to. Tables on the way that are missing are made. Dotted keys do not lead into a
table that a header names. -/
def changeAt (dotted : Bool) (origin : Origin) (fields : Fields) (change : Origin → Fields → Except Fault Fields) :
    List Key → Except Fault Fields
  | [] => change origin fields
  | key :: rest =>
    match fields.lookup key.name with
    | none => do
      let made := if dotted then Origin.dotted else .implied
      let inner ← changeAt dotted made [] change rest
      pure (fields ++ [(key.name, .table key.place made inner)])
    | some (.table place found inner) =>
      if found = .inline then .error (closed key)
      else if dotted ∧ found = .header then .error (duplicate key)
      else do
        let inner ← changeAt dotted found inner change rest
        pure (replace key.name (.table place found inner) fields)
    | some (.array place true items) =>
      match items.getLast? with
      | some (.table inside found inner) => do
        let inner ← changeAt dotted found inner change rest
        pure (replace key.name (.array place true (items.dropLast ++ [.table inside found inner])) fields)
      | _ => .error (closed key)
    | some _ => .error (closed key)

/-- Adds a field at a dotted key to a table. -/
def addField (path : List Key) (key : Key) (value : Value) (fields : Fields) : Except Fault Fields :=
  changeAt true .header fields (fun origin inner =>
    if !path.isEmpty ∧ origin ≠ .dotted then .error (duplicate key)
    else match inner.lookup key.name with
      | some _ => .error (duplicate key)
      | none => .ok (inner ++ [(key.name, value)])) path

/-- Adds a table with a header. -/
def addTable (path : List Key) (key : Key) (fields : Fields) : Except Fault Fields :=
  changeAt false .header fields (fun _ inner =>
    match inner.lookup key.name with
    | none => .ok (inner ++ [(key.name, .table key.place .header [])])
    | some (.table _ .implied found) => .ok (replace key.name (.table key.place .header found) inner)
    | some _ => .error (duplicate key)) path

/-- Adds a table with a header in double brackets. -/
def addTableToList (path : List Key) (key : Key) (fields : Fields) : Except Fault Fields :=
  changeAt false .header fields (fun _ inner =>
    let added := Value.table key.place .header []
    match inner.lookup key.name with
    | none => .ok (inner ++ [(key.name, .array key.place true [added])])
    | some (.array place true items) => .ok (replace key.name (.array place true (items ++ [added])) inner)
    | some _ => .error (duplicate key)) path

end ServiceCatalog.Toml
