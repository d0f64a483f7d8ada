import ServiceCatalog.Output.Message
import ServiceCatalog.Output.Payload
import ServiceCatalog.Output.Tabular
import ServiceCatalog.Yaml.Printer

/-!
# Formats of output

What is printed for a result. For people a result is a message or a table; the other formats show the payload.
-/

namespace ServiceCatalog.Output

/-- The format that results are printed in. -/
inductive Format where
  /-- A message if the result has one, else a table. -/
  | auto
  | json
  | yaml
  | table
deriving DecidableEq, Repr

/-- All formats with their names. -/
def Format.names : List (String × Format) := [("auto", auto), ("json", json), ("yaml", yaml), ("table", table)]

/-- The format with a name. -/
def Format.ofName? (name : String) : Option Format := names.lookup name

/-- What is printed for a value in general form. -/
def printValue (format : Format) (value : Json) : String :=
  match format with
  | .json => value.spread ++ "\n"
  | .yaml => Yaml.document value ++ "\n"
  | .table => tabular value ++ "\n"
  | .auto => tabular value ++ "\n"

/-- What is printed for a result that has no message, for people. -/
def printListing : Output → String
  | .members list => (membersTable list).draw ++ "\n"
  | .services list => s!"List {list.length} services:\n" ++ printValue .auto (payload (.services list))
  | output => printValue .auto (payload output)

/-- What is printed for a result. -/
def print (format : Format) (output : Output) : String :=
  match format, output with
  | .auto, output => match message? output with
    | some message => message ++ "\n"
    | none => printListing output
  | .table, .members list => (membersTable list).draw ++ "\n"
  | format, output => printValue format (payload output)

end ServiceCatalog.Output
