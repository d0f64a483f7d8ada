import ServiceCatalog.Text.Blank

/-!
# Operations

The seven operations of the program, their names, and the longer names that five of them also go by.
-/

namespace ServiceCatalog

/-- What a run of the program does. -/
inductive Operation where
  | create
  | checkInit
  | delete
  | list
  | get
  | listMembers
  | getConfig
deriving DecidableEq, Repr

namespace Operation

/-- All operations, in the order they are named to the user. -/
def all : List Operation := [create, checkInit, delete, list, get, listMembers, getConfig]

/-- The name of an operation. -/
def name : Operation → String
  | create => "create"
  | checkInit => "check-init"
  | delete => "delete"
  | list => "list"
  | get => "get"
  | listMembers => "list-members"
  | getConfig => "get-config"

/-- The second names that some operations have. -/
def aliases : List (String × Operation) :=
  [("create-service", create), ("check-service-init", checkInit), ("delete-service", delete),
    ("list-services", list), ("get-service", get)]

/-- Every name of an operation. -/
def names : List (String × Operation) := all.map (fun o => (o.name, o)) ++ aliases

/-- The operation that a text names; blank characters around the name do not count. -/
def ofText? (text : String) : Option Operation := names.lookup (Text.trim text)

/-- Whether an operation is about one service. -/
def needsService (operation : Operation) : Bool := operation != list

end Operation

end ServiceCatalog
