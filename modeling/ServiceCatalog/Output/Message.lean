import ServiceCatalog.Output
import ServiceCatalog.Text.Blank

/-!
# Results for people

What changes the state of a service is reported in a sentence, and a config file is shown as it is. The other results
are better read from a table.
-/

namespace ServiceCatalog.Output

/-- The report of a deletion, with the volumes that are left to be deleted. -/
def deletionMessage (deletion : Deletion) : String :=
  let name := deletion.service.name
  match deletion.volumeIds with
  | [] => s!"Service {name} deleted, it had no member volumes"
  | volumeIds =>
    s!"Service {name} deleted, please manually delete the volumes:" ++
      String.join (volumeIds.map fun id => "\n  " ++ id)

/-- A text without the line ends at its end. -/
def withoutLineEnds (text : String) : String :=
  String.ofList (Text.dropEndWhile (· == '\n') text.toList)

/-- The message for a result, if it has one. -/
def message? : Output → Option String
  | .created identity _ true => some s!"The catalog service {identity.name} is created and initialized"
  | .created identity _ false =>
    some s!"The catalog service {identity.name} is created, check its initialization with --op check-init"
  | .initStatus identity true => some s!"The catalog service {identity.name} is initialized"
  | .initStatus identity false => some s!"The catalog service {identity.name} is initializing"
  | .deleted report => some (deletionMessage report)
  | .configFile file => some (withoutLineEnds file.content)
  | .services _ => none
  | .service _ => none
  | .members _ => none

end ServiceCatalog.Output
