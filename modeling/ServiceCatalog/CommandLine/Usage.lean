import ServiceCatalog.CommandLine.Setting
import ServiceCatalog.Version

/-!
# Usage

What is printed instead of a result when a command line yields no options.
-/

namespace ServiceCatalog.CommandLine

/-- The line that is printed for the version. -/
def versionLine : String := programName ++ " " ++ version ++ "\n"

/-- One line of help for an option. -/
def helpLine (letter : Option Char) (name value : String) : String :=
  let short := match letter with
    | some c => "-" ++ String.singleton c ++ ", "
    | none => "    "
  "  " ++ short ++ "--" ++ name ++ value ++ "\n"

/-- The text that is printed for help. -/
def help : String :=
  "Create, inspect and delete catalog database services on a managed cluster\n\n" ++
    "Usage: catalogctl [OPTIONS] --op <OPERATION>\n\nOptions:\n" ++
    String.join (settings.map fun s => helpLine s.letter s.name " <VALUE>") ++
    String.join (flags.map fun f => helpLine f.letter f.name "")

/-- What is wrong with a command line. -/
def Refusal.message : Refusal → String
  | missingRequired => "the required argument '--op <OPERATION>' was not provided"
  | unknownArgument => "unexpected argument found"
  | invalidValue => "a value is missing or not one of the possible values"
  | valueValidation => "invalid value for an option"
  | argumentConflict => "an option cannot be used multiple times"
  | tooManyValues => "unexpected value for a flag"
  | displayHelp => help
  | displayVersion => versionLine

end ServiceCatalog.CommandLine
