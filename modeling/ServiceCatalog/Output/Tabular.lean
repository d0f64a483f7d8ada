import ServiceCatalog.Json.Printer
import ServiceCatalog.Output
import ServiceCatalog.Table

/-!
# Results as tables

A list of objects has a column for every key of its first object, an object has a row for every key, and a value inside
another is shown by its size only. Members have a table of their own with a row for every config file.
-/

namespace ServiceCatalog.Output

open Service

/-- The text of a value in a cell. -/
def cell : Json → String
  | .null => "-"
  | .bool b => if b then "true" else "false"
  | .number n => String.ofList n.write
  | .string s => s
  | .array items => s!"[{items.length} items]"
  | .object fields => "\x7b" ++ s!"{fields.length} fields" ++ "\x7d"
  | .unreadable => "-"

/-- The cells of an object under the given keys. -/
def objectRow (keys : List String) (fields : List Json.Field) : List String :=
  keys.map fun key => cell ((Json.lookup? key fields).getD .null)

/-- The fields of a value that is an object. -/
def fields? : Json → Option (List Json.Field)
  | .object fields => some fields
  | _ => none

/-- The table of a list that is not empty. -/
def listTable (first : Json) (items : List Json) : Table :=
  match first with
  | .object fields =>
    let keys := fields.map Prod.fst
    ⟨keys, (items.filterMap fields?).map (objectRow keys)⟩
  | _ => ⟨["Value"], items.map fun item => [cell item]⟩

/-- The table of an object. -/
def objectTable (fields : List Json.Field) : Table :=
  ⟨["Key", "Value"], fields.map fun f => [f.1, cell f.2]⟩

/-- A value in general form as a table, or as a single cell. -/
def tabular : Json → String
  | .array (first :: rest) => (listTable first (first :: rest)).draw
  | .object fields => (objectTable fields).draw
  | value => cell value

/-- The rows of a member: one for each of its config files, or a single one. Only the first names the member. -/
def memberRows (m : Member) : List (List String) :=
  let zone := m.zone.getD "-"
  match m.configs with
  | [] => [[m.name, zone, m.volumeId, "-", "-", "-"]]
  | config :: more =>
    [m.name, zone, m.volumeId, config.fileName, config.fileId, config.md5] ::
      more.map fun c => ["", "", "", c.fileName, c.fileId, c.md5]

/-- The table of members. -/
def membersTable (members : List Member) : Table :=
  ⟨["Member", "Zone", "Volume", "Config File", "File ID", "MD5"], members.flatMap memberRows⟩

end ServiceCatalog.Output
